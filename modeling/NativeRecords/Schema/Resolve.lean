/-
# NativeRecords.Schema.Resolve -- from source declarations to a schema

Each source declaration becomes one declaration of the schema, whatever the others are.

* An enum keeps its members in order. A member without a value counts on from the one before it.
* An interface, or an alias of an object type, becomes a record. A field is optional when it is
  marked so or when null is among the alternatives of its type.
* An alias of a union of literals of one kind becomes an enum with one member for each literal.
-/
import NativeRecords.Schema.Declaration
import NativeRecords.Source.Declaration

namespace NativeRecords

/-! ## Types -/

/-- The name of the one generic type that a schema can express, the map from keys to values. -/
def mapGeneric : String := "Record"

/-- The schema type of a source type that is not null. A union has one only if it is named; the
other types without one are reported by their display text. -/
def Source.Descriptor.resolve : Source.Descriptor → Except Failure SchemaType
  | .primitive kind _ => .ok (.primitive kind)
  | .array _ element => element.resolve.map .array
  | .bareArray display => .error (.unsupportedType display)
  | .generic display name [key, value] =>
    if name = mapGeneric then do
      let key ← key.resolve
      let value ← value.resolve
      return .map key value
    else .error (.unsupportedType display)
  | .generic display _ _ => .error (.unsupportedType display)
  | .reference kind name => .ok (.reference kind name)
  | .union display (some name) _ =>
    if name = "" then .error (.unsupportedType display) else .ok (.reference .enum name)
  | .union display none _ => .error (.unsupportedType display)
  | .object display _ => .error (.unsupportedType display)
  | .literal _ display _ => .error (.unsupportedType display)
  | .nullish _ display => .error (.unsupportedType display)
  | .other display => .error (.unsupportedType display)

namespace Schema

/-! ## Enums -/

/-- Gives every member a value: its own, or else the one that follows the value before it. After a
text there is none to follow. -/
def numberMembers (enumName : String) :
    Option RawValue → List EnumMember → Except Failure (List EnumMember)
  | _, [] => .ok []
  | next, member :: rest =>
    match member.value <|> next with
    | none => .error (.mixedEnum enumName)
    | some value =>
      (numberMembers enumName value.next? rest).map (⟨member.name, some value⟩ :: ·)

/-- The floating-point value of a member that is not an integer. -/
def fractional? (member : EnumMember) : Option Binary64 :=
  match member.value with
  | some (.float x) => if x.isIntegral then none else some x
  | _ => none

/-- The enum with these members: there is at least one, they are all texts or none is, and no
number among them has a fraction. -/
def makeEnum (name : String) (members : List EnumMember) : Except Failure EnumDeclaration :=
  if members.isEmpty then .error (.emptyEnum name)
  else if members.any EnumMember.isText && !members.all EnumMember.isText then
    .error (.mixedEnum name)
  else
    match members.findSome? fractional? with
    | some value => .error (.fractionalValue name value)
    | none => .ok ⟨name, members⟩

/-- The enum of an enum declaration; the count starts at zero. -/
def resolveEnum (name : String) (members : List EnumMember) : Except Failure EnumDeclaration := do
  let members ← numberMembers name (some (.int 0)) members
  makeEnum name members

/-! ## Records -/

/-- The field of a property. -/
def resolveProperty : Source.Property → Except Failure RecordProperty
  | .typed name type optional =>
    type.nonNullable.resolve.map fun resolved => ⟨name, resolved, optional || type.isNullable⟩
  | .untyped _ _ => .error .missingPart

/-- The record with these properties. -/
def resolveRecord (name : String) (properties : List Source.Property) :
    Except Failure RecordDeclaration :=
  (properties.mapM resolveProperty).map (⟨name, ·⟩)

/-! ## Aliases -/

/-- The member that stands for a literal; it is named by the literal's text. -/
def literalMember? : Source.Descriptor → Option (Source.LiteralKind × EnumMember)
  | .literal kind _ value => some (kind, ⟨shownValue value, value⟩)
  | _ => none

/-- The members of an enum made from a union: the alternatives other than null, if there are any
and they are all literals of one kind. -/
def literalMembers? (members : List Source.Descriptor) : Option (List EnumMember) :=
  match ((Source.Descriptor.flatten members).filter (!·.isNullish)).mapM literalMember? with
  | some ((kind, first) :: rest) =>
    if rest.all (·.1 = kind) then some (first :: rest.map (·.2)) else none
  | _ => none

/-- The declaration of an alias. -/
def resolveAlias (name : String) : Source.Descriptor → Except Failure Declaration
  | .union _ _ members =>
    match literalMembers? members with
    | some members => (makeEnum name members).map .enum
    | none => .error (.unsupportedAlias name)
  | .object _ properties => (resolveRecord name properties).map .record
  | _ => .error (.unsupportedAlias name)

/-! ## Declarations -/

/-- The schema declaration of a source declaration. -/
def resolve : Source.Declaration → Except Failure Declaration
  | .enum name members => (resolveEnum name members).map .enum
  | .interface name properties => (resolveRecord name properties).map .record
  | .typeAlias name type => resolveAlias name type
  | .untypedAlias _ => .error .missingPart
  | .unclassified _ => .error .unclassifiedDeclaration

end Schema
end NativeRecords
