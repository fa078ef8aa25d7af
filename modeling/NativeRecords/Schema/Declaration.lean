/-
# NativeRecords.Schema.Declaration -- enums and records

A schema is a list of declarations, each an enum or a record. Fields refer to other declarations
by name, and whether a field may be null is a mark on the field and never part of its type.
-/
import NativeRecords.Schema.Type

namespace NativeRecords.Schema

/-- An enum with its members in order. -/
structure EnumDeclaration where
  name : String
  members : List EnumMember
deriving DecidableEq

/-- Whether all member values are texts. -/
def EnumDeclaration.isTextual (e : EnumDeclaration) : Bool := e.members.all EnumMember.isText

/-- A field of a record. -/
structure RecordProperty where
  name : String
  type : SchemaType
  optional : Bool
deriving DecidableEq

/-- A record with its fields in order. -/
structure RecordDeclaration where
  name : String
  properties : List RecordProperty
deriving DecidableEq

/-- The declared names that the fields of a record refer to, each once, in the order of their
first occurrence. -/
def RecordDeclaration.dependencies (r : RecordDeclaration) : Except Failure (List String) :=
  r.properties.foldlM (fun names property => do
    let more ← property.type.referencedNames
    return appendNew names more) []

/-- A declaration of a schema. -/
inductive Declaration where
  | enum (declaration : EnumDeclaration)
  | record (declaration : RecordDeclaration)
deriving DecidableEq

namespace Declaration

/-- The declared name. -/
def name : Declaration → String
  | .enum e => e.name
  | .record r => r.name

/-- The declared names that a declaration refers to; an enum refers to none. -/
def dependencies : Declaration → Except Failure (List String)
  | .enum _ => .ok []
  | .record r => r.dependencies

/-- The enum that this declaration is. -/
def enum? : Declaration → Option EnumDeclaration
  | .enum e => some e
  | .record _ => none

/-- The record that this declaration is. -/
def record? : Declaration → Option RecordDeclaration
  | .enum _ => none
  | .record r => some r

end Declaration
end NativeRecords.Schema
