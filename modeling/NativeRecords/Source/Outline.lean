/-
# NativeRecords.Source.Outline -- declarations before their names are looked up

The outline of a declaration is all that can be read from its own JSON object. The outlines of a
document form its symbol table, in which the first declaration of a name counts.
-/
import NativeRecords.Source.TypeExpr

namespace NativeRecords.Source

/-- A declaration as a document writes it. The members of an enum refer to nothing else, so they
are read to the end here. An alias remembers whether its type has an `object` part, which makes it
a record wherever it is referred to. -/
inductive Outline where
  | enum (name : String) (members : Except Failure (List EnumMember))
  | interface (name : String) (properties : List PropertyExpr)
  | typeAlias (name : String) (objectShaped : Bool) (type : Option TypeExpr)

namespace Outline

/-- The declared name. -/
def name : Outline → String
  | .enum name _ => name
  | .interface name _ => name
  | .typeAlias name _ _ => name

/-- Reads one member of an enum: a name alone, or an object with a name and perhaps a value. -/
def memberOfJson (enumName : String) : Json → Except Failure EnumMember
  | .str name => .ok ⟨name, none⟩
  | .obj fields =>
    match Json.field? "name" fields with
    | some (.str name) =>
      match Json.fieldOrNull "value" fields with
      | .null => .ok ⟨name, none⟩
      | value =>
        match RawValue.ofJson? value with
        | some raw => .ok ⟨name, some raw⟩
        | none => .error (.malformed (.memberValue enumName name))
    | _ => .error (.malformed (.namelessMember enumName))
  | _ => .error (.malformed (.namelessMember enumName))

/-- Reads the members of an enum. -/
def membersOfJson (enumName : String) (raw : Json) : Except Failure (List EnumMember) :=
  match raw.items? with
  | some items => items.mapM (memberOfJson enumName)
  | none => .error .notAList

/-- Whether a type expression has an `object` part. -/
def hasObjectPart : Json → Bool
  | .obj fields => (Json.field? "object" fields).isSome
  | _ => false

/-- The value of a field that is an empty list when it is missing. -/
def listField (name : String) (fields : List (String × Json)) : Json :=
  (Json.field? name fields).getD (.arr [])

/-- Reads the outline of a declaration: an object with a name and one of the three kinds. -/
def ofJson : Json → Except Failure Outline
  | .obj fields =>
    match Json.field? "name" fields with
    | some (.str name) =>
      if name = "" then .error (.malformed .namelessDeclaration)
      else
        match Json.fieldOrNull "kind" fields with
        | .str "enum" => .ok (.enum name (membersOfJson name (listField "members" fields)))
        | .str "interface" =>
          .ok (.interface name (PropertyExpr.listOfJson name (listField "properties" fields)))
        | .str "type-alias" =>
          let type := Json.field? "type" fields
          .ok (.typeAlias name (type.any hasObjectPart) (type.map TypeExpr.ofJson))
        | kind => .error (.malformed (.unknownKind name kind))
    | _ => .error (.malformed .namelessDeclaration)
  | raw => .error (.malformed (.notAnObject raw.kindWord))

/-- The outlines of the entries up to the first one that has none, and the failure of that one. -/
def readAll : List Json → List Outline × Option Failure
  | [] => ([], none)
  | entry :: rest =>
    match ofJson entry with
    | .ok outline =>
      let (outlines, stop) := readAll rest
      (outline :: outlines, stop)
    | .error failure => ([], some failure)

end Outline

/-- The declarations of a document: the document itself is a list, or an object that holds one. -/
def entries? : Json → Option (List Json)
  | .arr items => some items
  | .obj fields =>
    match Outline.listField "declarations" fields with
    | .arr items => some items
    | _ => none
  | _ => none

end NativeRecords.Source
