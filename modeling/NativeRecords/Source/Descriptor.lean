/-
# NativeRecords.Source.Descriptor -- classified source types

A descriptor is a source type in which every name has been looked up: a reference knows whether it
names an enum or a record, and a union that came from an alias carries the alias's name. Each
descriptor has a display text, the way the type is written in messages.

Two questions are asked of unions. Is null among the alternatives, and what is left without it
(`isNullable`, `nonNullable`)? Which alternatives are there at any depth, repeated literals once
(`flatten`)?
-/
import NativeRecords.RawValue

namespace NativeRecords

/-- The types that every target has. -/
inductive Primitive where
  | string
  | number
  | boolean
  | any
  | byteArray
deriving DecidableEq

/-- What a reference to a declaration names. -/
inductive ReferenceKind where
  | enum
  | record
deriving DecidableEq

namespace Source

/-- The two ways to say that a value is missing. -/
inductive Nullish where
  | null
  | undefined
deriving DecidableEq

/-- The two kinds of literal type. -/
inductive LiteralKind where
  | string
  | number
deriving DecidableEq

mutual

/-- A classified source type. The first argument that is a plain text is its display text, save
for references, which display as the name they refer to. -/
inductive Descriptor where
  | primitive (kind : Primitive) (display : String)
  | array (display : String) (element : Descriptor)
  /-- An array type without an element type. -/
  | bareArray (display : String)
  | generic (display : String) (name : String) (arguments : List Descriptor)
  | reference (kind : ReferenceKind) (name : String)
  | union (display : String) (aliasName : Option String) (members : List Descriptor)
  | object (display : String) (properties : List Property)
  | literal (kind : LiteralKind) (display : String) (value : Option RawValue)
  | nullish (kind : Nullish) (display : String)
  /-- A type that could not be classified. -/
  | other (display : String)

/-- A property of an interface or object type; `optional` is the explicit mark on the property. -/
inductive Property where
  | typed (name : String) (type : Descriptor) (optional : Bool)
  /-- A property whose type is missing. -/
  | untyped (name : String) (optional : Bool)

end

/-- The name of a property. -/
def Property.name : Property → String
  | .typed name _ _ => name
  | .untyped name _ => name

namespace Descriptor

/-- The way the type is written in messages. -/
def display : Descriptor → String
  | .primitive _ display => display
  | .array display _ => display
  | .bareArray display => display
  | .generic display _ _ => display
  | .reference _ name => name
  | .union display _ _ => display
  | .object display _ => display
  | .literal _ display _ => display
  | .nullish _ display => display
  | .other display => display

/-- The display text of a union of these members. -/
def unionDisplay (members : List Descriptor) : String :=
  " | ".intercalate (members.map display)

/-- Whether this is null or undefined. -/
def isNullish : Descriptor → Bool
  | .nullish _ _ => true
  | _ => false

/-! ## Null among the alternatives -/

mutual

/-- Whether null or undefined is a possible value: it is one of the alternatives, at any depth of
nested unions. -/
def isNullable : Descriptor → Bool
  | .nullish _ _ => true
  | .union _ _ members => anyNullable members
  | _ => false

/-- Whether one of the descriptors is nullable. -/
def anyNullable : List Descriptor → Bool
  | [] => false
  | member :: rest => member.isNullable || anyNullable rest

end

/-- The type without values. -/
def never : Descriptor := .other "never"

/-- A union whose members have been stripped of null. A union that came from an alias stays what
it is, even with a single member left; any other union of one member is that member. -/
def rebuild (display : String) (aliasName : Option String) : List Descriptor → Descriptor
  | [] => never
  | members@(member :: rest) =>
    if aliasName.any (· ≠ "") then .union display aliasName members
    else if rest.isEmpty then member
    else .union (unionDisplay members) none members

mutual

/-- The type with null and undefined removed from its alternatives. -/
def nonNullable : Descriptor → Descriptor
  | .nullish _ _ => never
  | .union display aliasName members =>
    if anyNullable members then rebuild display aliasName (stripMembers members)
    else .union display aliasName members
  | type => type

/-- The members that are not null or undefined, each with null removed. -/
def stripMembers : List Descriptor → List Descriptor
  | [] => []
  | member :: rest =>
    if member.isNullish then stripMembers rest else member.nonNullable :: stripMembers rest

end

/-! ## Alternatives at any depth -/

/-- Whether both are literals of one kind with the same value. -/
def sameLiteral : Descriptor → Descriptor → Bool
  | .literal kind _ value, .literal kind' _ value' => kind = kind' && sameValue value value'
  | _, _ => false

/-- Adds to `kept` those descriptors that do not repeat a literal already there. -/
def keepNew (kept items : List Descriptor) : List Descriptor :=
  items.foldl (fun kept item => if kept.any (sameLiteral item) then kept else kept ++ [item]) kept

/-- Adds the alternatives of the members to `kept`; a nested union adds its own alternatives, each
literal value once. -/
def flattenOnto (kept : List Descriptor) : List Descriptor → List Descriptor
  | [] => kept
  | .union _ _ members :: rest => flattenOnto (keepNew kept (flattenOnto [] members)) rest
  | member :: rest => flattenOnto (keepNew kept [member]) rest

/-- The alternatives of a union with these members: nested unions are replaced by their own
alternatives, and of literals with one value only the first is kept. -/
def flatten (members : List Descriptor) : List Descriptor := flattenOnto [] members

end Descriptor
end Source
end NativeRecords
