/-
# NativeRecords.RawValue -- the values of enum members and literal types

A raw value is a text, an integer of any size or a floating-point number. Numbers are compared by
their exact value across the two kinds of number.
-/
import NativeRecords.Json.Text

namespace NativeRecords

/-- The value of an enum member or of a literal type. -/
inductive RawValue where
  | text (s : String)
  | int (n : Int)
  | float (x : Binary64)
deriving DecidableEq

namespace RawValue

/-- The raw value that a JSON value is: a string or a number. -/
def ofJson? : Json → Option RawValue
  | .str s => some (.text s)
  | .int n => some (.int n)
  | .float x => some (.float x)
  | _ => none

/-- Whether this is a text. -/
def isText : RawValue → Bool
  | .text _ => true
  | _ => false

/-- Whether two raw values are the same text or the same number. -/
def same : RawValue → RawValue → Bool
  | .text s, .text t => s = t
  | .int m, .int n => m = n
  | .int n, .float x => x.eqvInt n
  | .float x, .int n => x.eqvInt n
  | .float x, .float y => x.eqv y
  | _, _ => false

/-- A raw value as plain text. -/
def shown : RawValue → String
  | .text s => s
  | .int n => integerText n
  | .float x => x.text

/-- The value of the next member without one: a number counts on, and after a text there is none.
-/
def next? : RawValue → Option RawValue
  | .text _ => none
  | .int n => some (.int (n + 1))
  | .float x => some (.float x.addOne)

end RawValue

/-- A raw value that may be missing, as plain text. -/
def shownValue : Option RawValue → String
  | some value => value.shown
  | none => "None"

/-- Whether two raw values that may be missing are the same. -/
def sameValue : Option RawValue → Option RawValue → Bool
  | some v, some w => v.same w
  | none, none => true
  | _, _ => false

/-- A member of an enum. In a source declaration a missing value is to be numbered. -/
structure EnumMember where
  name : String
  value : Option RawValue
deriving DecidableEq

/-- Whether the member's value is a text. -/
def EnumMember.isText (member : EnumMember) : Bool := member.value.any RawValue.isText

end NativeRecords
