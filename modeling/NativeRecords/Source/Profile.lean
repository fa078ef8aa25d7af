/-
# NativeRecords.Source.Profile -- a type seen as a choice of alternatives

A profile says whether null is among the alternatives of a type, what the type is without null, and
which alternatives its members offer at any depth. The types in a profile are there to be shown, and
a type can be shown only if every property in it has a type of its own. An array type without an
element type can be shown.
-/
import NativeRecords.Failure
import NativeRecords.Source.Descriptor

namespace NativeRecords.Source

namespace Descriptor

/-! ## Missing property types -/

mutual

/-- Whether every property in the type has a type, at any depth. -/
def isTyped : Descriptor → Bool
  | .array _ element => element.isTyped
  | .generic _ _ arguments => allTyped arguments
  | .union _ _ members => allTyped members
  | .object _ properties => propertiesTyped properties
  | _ => true

/-- Whether every property in one of the types has a type. -/
def allTyped : List Descriptor → Bool
  | [] => true
  | type :: rest => type.isTyped && allTyped rest

/-- Whether every one of the properties has a type, and every property in these types. -/
def propertiesTyped : List Property → Bool
  | [] => true
  | .typed _ type _ :: rest => type.isTyped && propertiesTyped rest
  | .untyped _ _ :: _ => false

end

end Descriptor

/-! ## Profiles -/

/-- What a type says as a choice of alternatives. -/
structure Profile where
  /-- Whether null is among the alternatives. -/
  nullable : Bool
  /-- The type without null. -/
  nonNullable : Descriptor
  /-- The alternatives that the members offer. -/
  alternatives : List Descriptor

/-- The profile of a type with these members. There is none if a type that it would show lacks the
type of a property. -/
def Profile.make (type : Descriptor) (members : List Descriptor) : Except Failure Profile :=
  let alternatives := Descriptor.flatten members
  if type.nonNullable.isTyped && Descriptor.allTyped alternatives then
    .ok ⟨type.isNullable, type.nonNullable, alternatives⟩
  else .error .missingPart

end NativeRecords.Source
