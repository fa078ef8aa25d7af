/-
# NativeRecords.Proofs.Aliases -- what becomes of a type alias

An alias of an object type becomes a record, like an interface. An alias of a union becomes an enum
if the union offers literals of one kind and nothing else, null apart. Everything else is refused by
the name of the alias.

The enum has one member for each distinct literal, in the order of first appearance. It is made by
the same function that makes enums of enum declarations. Of the reasons which that function has for
refusing, only a number that is no integer can arise here: a union that offers no literals is
refused before, and so is one with literals of both kinds.
-/
import NativeRecords.Proofs.RawValues

namespace NativeRecords

/-! ## Literals of one kind -/

/-- The values that the literals of a kind have. -/
inductive Source.LiteralKind.Admits : LiteralKind → RawValue → Prop
  | text (s : String) : Admits .string (.text s)
  | int (n : Int) : Admits .number (.int n)
  | float (x : Binary64) : Admits .number (.float x)

/-- The values without each one that means the same as an earlier one. -/
def RawValue.distinct (values : List RawValue) : List RawValue := firstOfEach meaning? [] values

namespace Source.Descriptor

variable {type : Descriptor} {kind : LiteralKind} {values : List RawValue} {display : String}
  {aliasName : Option String} {members : List Descriptor}

end Source.Descriptor

/-! ## Enums made from unions -/

namespace Schema

open Source (Descriptor LiteralKind)

variable {name : String} {type : Descriptor} {kind : LiteralKind} {values : List RawValue}
  {display : String} {aliasName : Option String} {members : List Descriptor}

/-- A record is refused for the type of one of its fields, which is missing or not supported. -/
theorem failure_of_resolveRecord {properties : List Source.Property} {failure : Failure}
    (refused : resolveRecord name properties = .error failure) :
    (failure = .missingPart ∧ ∃ own optional, .untyped own optional ∈ properties) ∨
      ∃ display, failure = .unsupportedType display := by
  obtain ⟨property, inside, failed⟩ := exists_of_mapM_eq_error (map_eq_error_iff.mp refused)
  cases property with
  | untyped own optional =>
    cases failed
    exact .inl ⟨rfl, own, optional, inside⟩
  | typed own type optional =>
    have failed := map_eq_error_iff.mp failed
    rcases type.nonNullable.resolve_ok_or_unsupported with ⟨_, found⟩ | ⟨display, found⟩
    · rw [found] at failed
      cases failed
    · rw [found] at failed
      cases failed
      exact .inr ⟨display, rfl⟩

end Schema

end NativeRecords
