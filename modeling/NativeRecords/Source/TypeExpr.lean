/-
# NativeRecords.Source.TypeExpr -- type expressions as they are written

A type expression is what a document says about a type before any name in it is looked up. Reading
one from JSON never fails: a part that breaks the format stays in place as a malformed node that
carries its failure, so that whoever walks the expression meets the failures in the order of the
text.

An object is read by the first of the keys `array`, `generic`, `union`, `literal` and `object`
that it has. Where a list is expected, a string stands for its characters and an object for its
names; any other value is a single malformed element.
-/
import NativeRecords.Failure
import NativeRecords.RawValue

namespace NativeRecords.Source

mutual

/-- A type as a document writes it. -/
inductive TypeExpr where
  | named (name : String)
  | array (element : TypeExpr)
  /-- An array type without an element type. -/
  | bareArray
  | generic (name : String) (arguments : List TypeExpr)
  | union (members : List TypeExpr)
  | literal (value : RawValue)
  | object (properties : List PropertyExpr)
  | malformed (failure : Failure)

/-- A property as a document writes it. -/
inductive PropertyExpr where
  | typed (name : String) (type : TypeExpr) (optional : Bool)
  | malformed (failure : Failure)

end

/-- The owner that messages name for a property of an inline object type. -/
def objectOwner : String := "Object type"

/-- A literal type. -/
def TypeExpr.ofLiteral (value : Json) : TypeExpr :=
  match RawValue.ofJson? value with
  | some raw => .literal raw
  | none => .malformed (.malformed (.literalType value))

mutual

/-- Reads a type expression. -/
def TypeExpr.ofJson (raw : Json) : TypeExpr :=
  match raw with
  | .str name => .named name
  | .obj fields =>
    match _ha : Json.field? "array" fields with
    | some .null => .bareArray
    | some element => .array (TypeExpr.ofJson element)
    | none =>
      match Json.field? "generic" fields with
      | some name =>
        match _hg : Json.field? "arguments" fields with
        | some arguments => .generic name.text (TypeExpr.listOfJson arguments)
        | none => .generic name.text []
      | none =>
        match _hu : Json.field? "union" fields with
        | some members => .union (TypeExpr.listOfJson members)
        | none =>
          match Json.field? "literal" fields with
          | some value => .ofLiteral value
          | none =>
            match _ho : Json.field? "object" fields with
            | some properties => .object (PropertyExpr.listOfJson objectOwner properties)
            | none => .malformed (.malformed (.typeExpression (.obj fields)))
  | raw => .malformed (.malformed (.typeExpression raw))
termination_by sizeOf raw
decreasing_by
  all_goals
    have := Json.sizeOf_field? ‹_›
    simp only [Json.obj.sizeOf_spec]
    omega

/-- Reads a list of type expressions. -/
def TypeExpr.listOfJson (raw : Json) : List TypeExpr :=
  match raw with
  | .arr items => TypeExpr.ofItems items
  | .str s => s.toList.map fun c => .named (String.singleton c)
  | .obj fields => fields.map fun f => .named f.1
  | _ => [.malformed .notAList]
termination_by sizeOf raw

/-- Reads each item as a type expression. -/
def TypeExpr.ofItems (items : List Json) : List TypeExpr :=
  match items with
  | [] => []
  | item :: rest => TypeExpr.ofJson item :: TypeExpr.ofItems rest
termination_by sizeOf items

/-- Reads one property of `owner`. -/
def PropertyExpr.ofJson (owner : String) (raw : Json) : PropertyExpr :=
  match raw with
  | .obj fields =>
    match Json.field? "name" fields with
    | some (.str name) =>
      match _ht : Json.field? "type" fields with
      | some type =>
        .typed name (TypeExpr.ofJson type) (Json.fieldOrNull "optional" fields).truthy
      | none => .malformed (.malformed (.untypedProperty owner name))
    | _ => .malformed (.malformed (.namelessProperty owner))
  | _ => .malformed (.malformed (.namelessProperty owner))
termination_by sizeOf raw
decreasing_by
  have := Json.sizeOf_field? ‹_›
  simp only [Json.obj.sizeOf_spec]
  omega

/-- Reads the properties of `owner`. -/
def PropertyExpr.listOfJson (owner : String) (raw : Json) : List PropertyExpr :=
  match raw with
  | .arr items => PropertyExpr.ofItems owner items
  | .str s => s.toList.map fun _ => .malformed (.malformed (.namelessProperty owner))
  | .obj fields => fields.map fun _ => .malformed (.malformed (.namelessProperty owner))
  | _ => [.malformed .notAList]
termination_by sizeOf raw

/-- Reads each item as a property of `owner`. -/
def PropertyExpr.ofItems (owner : String) (items : List Json) : List PropertyExpr :=
  match items with
  | [] => []
  | item :: rest => PropertyExpr.ofJson owner item :: PropertyExpr.ofItems owner rest
termination_by sizeOf items

end

end NativeRecords.Source
