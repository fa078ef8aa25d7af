/-
# NativeRecords.Schema.Type -- the types of record fields

A schema type is what every target can express: the primitive types, arrays, maps, and references
to enums and records by name. Two further forms stand for what no target can express, a type of
unknown kind and a type that is missing; they come from schemas that were not made from source
declarations.
-/
import NativeRecords.Failure
import NativeRecords.Source.Descriptor

namespace NativeRecords

/-- The type of a record field. -/
inductive SchemaType where
  | primitive (kind : Primitive)
  | array (element : SchemaType)
  | map (key value : SchemaType)
  | reference (kind : ReferenceKind) (name : String)
  /-- A type whose kind is a word that no target knows. -/
  | other (word : String)
  /-- A type that is missing. -/
  | absent
deriving DecidableEq

/-- Adds to `names` those of `more` that are not there yet, in order. -/
def appendNew (names more : List String) : List String :=
  more.foldl (fun names name => if name ∈ names then names else names ++ [name]) names

namespace SchemaType

/-- The declared names that a type refers to, in the order of their first occurrence; the key of a
map comes before its value. -/
def referencedNames : SchemaType → Except Failure (List String)
  | .primitive _ => .ok []
  | .array element => element.referencedNames
  | .map key value => do
    let names ← key.referencedNames
    let more ← value.referencedNames
    return appendNew names more
  | .reference _ name => .ok [name]
  | .other _ => .ok []
  | .absent => .error .missingPart

end SchemaType
end NativeRecords
