/-
# NativeRecords.Json.Basic -- JSON values

Documents and settings are JSON. Integers and floating-point numbers are kept apart, and the
fields of an object keep the order in which their names first came. An object holds each name
once.
-/
import NativeRecords.Number.Binary64

namespace NativeRecords

/-- A JSON value. -/
inductive Json where
  | null
  | bool (b : Bool)
  | int (n : Int)
  | float (x : Binary64)
  | str (s : String)
  | arr (items : List Json)
  | obj (fields : List (String × Json))
deriving BEq

namespace Json

/-- Puts a field into an object: a new name goes to the end, a known name keeps its place and
takes the new value. -/
def putField (name : String) (value : Json) : List (String × Json) → List (String × Json)
  | [] => [(name, value)]
  | (other, old) :: rest =>
    if other = name then (name, value) :: rest else (other, old) :: putField name value rest

/-- The value of a field. -/
def field? (name : String) : List (String × Json) → Option Json
  | [] => none
  | (other, value) :: rest => if other = name then some value else field? name rest

/-- The value of a field, with `null` for one that is missing. -/
def fieldOrNull (name : String) (fields : List (String × Json)) : Json :=
  (field? name fields).getD .null

/-- Whether a value counts as true: all do but `null`, `false`, the zeros and what is empty. -/
def truthy : Json → Bool
  | .null => false
  | .bool b => b
  | .int n => n ≠ 0
  | .float x => !x.isZero
  | .str s => s ≠ ""
  | .arr items => !items.isEmpty
  | .obj fields => !fields.isEmpty

/-- The values met one after the other where a list is expected: the items of an array, the
characters of a string, the names of an object's fields. Other values hold none. -/
def items? : Json → Option (List Json)
  | .arr items => some items
  | .str s => some (s.toList.map fun c => .str (String.singleton c))
  | .obj fields => some (fields.map fun f => .str f.1)
  | _ => none

/-- A field is smaller than the object that holds it, so a walk over a value may follow a name. -/
theorem sizeOf_field? {name : String} {fields : List (String × Json)} {value : Json}
    (h : field? name fields = some value) : sizeOf value < sizeOf fields := by
  induction fields with
  | nil => simp [field?] at h
  | cons f rest ih =>
    obtain ⟨other, v⟩ := f
    simp only [field?] at h
    split at h
    · cases h
      simp only [List.cons.sizeOf_spec, Prod.mk.sizeOf_spec]
      omega
    · have := ih h
      simp only [List.cons.sizeOf_spec, Prod.mk.sizeOf_spec]
      omega

end Json
end NativeRecords
