/-
# NativeRecords.Target.Render -- the text of types, values and declarations

Each declaration of a schema becomes one section of a generated file. Nothing here depends on
where the declaration stands, except that the first value of a field of enum type is looked up
among the enums that are known.
-/
import NativeRecords.Schema.Declaration
import NativeRecords.Settings
import NativeRecords.Target.Identifier
import NativeRecords.Text.Blank

namespace NativeRecords.Target.Language

open NativeRecords.Schema

/-! ## Types and values -/

/-- The text of a type. -/
def typeText (language : Language) : SchemaType → Except Failure String
  | .primitive kind => .ok (language.typeWord kind)
  | .array element => (language.typeText element).map language.arrayType
  | .map key value => do
    let key ← language.typeText key
    let value ← language.typeText value
    return language.mapType key value
  | .reference _ name => .ok name
  | .other word => .error (.unknownTypeWord word)
  | .absent => .error .missingPart

/-- The enum with this name; of several the last one counts. -/
def findEnum? (enums : List EnumDeclaration) (name : String) : Option EnumDeclaration :=
  enums.reverse.find? (·.name = name)

/-- What a required field of a type starts with. A field of enum type starts with the first case.
-/
def defaultText (language : Language) (enums : List EnumDeclaration) :
    SchemaType → Except Failure String
  | .primitive kind => .ok (language.primitiveDefault kind)
  | .array _ => .ok language.emptyArray
  | .map _ _ => .ok language.emptyMap
  | .reference .record name => .ok (name ++ "()")
  | .reference .enum name =>
    match findEnum? enums name with
    | none => .ok (name ++ "()")
    | some declaration =>
      match declaration.members with
      | [] => .error .noFirstCase
      | member :: _ =>
        .ok (language.caseReference declaration.name (language.identifier member.name))
  | .other word => .error (.unknownTypeWord word)
  | .absent => .error .missingPart

/-- A character of a text between double quotes. -/
def literalChar (c : Char) : List Char :=
  if c = '\\' || c = '"' then ['\\', c] else [c]

/-- A text as a literal of the target. -/
def textLiteral (s : String) : String :=
  String.ofList ('"' :: s.toList.flatMap literalChar ++ ['"'])

/-- An enum value as a literal of the target; a floating-point number that is an integer is
written as one. -/
def literal : Option RawValue → String
  | some (.text s) => textLiteral s
  | some (.float x) =>
    match x.toInt? with
    | some n => integerText n
    | none => x.text
  | value => shownValue value

/-! ## Enums -/

/-- The lines of the cases of an enum. -/
def caseLines : Language → List (String × String) → List String
  | _, [] => []
  | .swift, (name, value) :: rest =>
    ("  case " ++ name ++ " = " ++ value) :: caseLines .swift rest
  | .kotlin, [(name, value)] => ["  " ++ name ++ "(" ++ value ++ ")"]
  | .kotlin, (name, value) :: rest =>
    ("  " ++ name ++ "(" ++ value ++ "),") :: caseLines .kotlin rest

/-- The line that opens an enum. -/
def enumHead : Language → String → String → String
  | .swift, name, rawType => "enum " ++ name ++ ": " ++ rawType ++ ", Enumerable \x7b"
  | .kotlin, name, rawType =>
    "enum class " ++ name ++ "(val value: " ++ rawType ++ ") : Enumerable \x7b"

/-- The raw type of an enum. -/
def rawType (language : Language) (declaration : EnumDeclaration) : String :=
  if declaration.isTextual then language.textRawType else language.integerRawType

/-- The names and values of the cases of an enum. -/
def cases (language : Language) (declaration : EnumDeclaration) : List (String × String) :=
  (language.identifiers (declaration.members.map EnumMember.name)).zip
    (declaration.members.map fun member => literal member.value)

/-- The section of an enum. -/
def enumText (language : Language) (declaration : EnumDeclaration) : String :=
  "\n".intercalate
    (language.enumHead declaration.name (language.rawType declaration)
      :: language.caseLines (language.cases declaration) ++ ["\x7d"])

/-! ## Records -/

/-- A field as it is written: its name, its type and what it starts with. -/
structure Field where
  name : String
  type : String
  initial : String

/-- The field of a property under the given name. An optional field may be null and starts as
null, whatever its type. -/
def fieldNamed (language : Language) (enums : List EnumDeclaration) (name : String)
    (property : RecordProperty) : Except Failure Field := do
  let type ← language.typeText property.type
  if property.optional then
    return ⟨name, language.optionalType type, language.nullLiteral⟩
  else
    let initial ← language.defaultText enums property.type
    return ⟨name, type, initial⟩

/-- The field of a property that stands alone. -/
def field (language : Language) (enums : List EnumDeclaration) (property : RecordProperty) :
    Except Failure Field :=
  language.fieldNamed enums (language.identifier property.name) property

/-- The fields of a record. -/
def fields (language : Language) (enums : List EnumDeclaration) (declaration : RecordDeclaration) :
    Except Failure (List Field) :=
  let names := language.identifiers (declaration.properties.map RecordProperty.name)
  (names.zip declaration.properties).mapM fun (name, property) =>
    language.fieldNamed enums name property

/-- The word that starts a field. -/
def fieldWord : Language → String
  | .swift => "var"
  | .kotlin => "val"

/-- The text of a field, on two lines. -/
def fieldText (language : Language) (field : Field) : String :=
  "  @Field\n  " ++ language.fieldWord ++ " " ++ field.name ++ ": " ++ field.type ++ " = "
    ++ field.initial ++ "\n"

/-- What stands before the brace that opens a record. -/
def recordHead : Language → String → String
  | .swift, name => "public struct " ++ name ++ ": Record "
  | .kotlin, name => "class " ++ name ++ " : Record "

/-- The section of a record with these fields. -/
def recordSection (language : Language) (name : String) (fields : List Field) : String :=
  if language = .swift ∧ fields.isEmpty then language.recordHead name ++ "\x7b\x7d"
  else
    language.recordHead name ++ "\x7b\n" ++ "\n".intercalate (fields.map language.fieldText) ++ "\x7d"

/-- The section of a record. -/
def recordText (language : Language) (enums : List EnumDeclaration)
    (declaration : RecordDeclaration) : Except Failure String :=
  (language.fields enums declaration).map (language.recordSection declaration.name)

/-! ## The top of a file -/

/-- The comment that says that a file is generated. -/
def generationComment : String := "Generated by ts_to_records. Do not edit."

/-- The comment at the top of a file, if the settings ask for it. -/
def commentText (settings : Settings) : String :=
  if settings.generationComment.truthy then "// " ++ generationComment ++ "\n\n" else ""

/-- One line for each import. -/
def importText (imports : Json) : Except Failure String :=
  match imports.items? with
  | none => .error .notAList
  | some items => .ok (String.join (items.map fun item => "import " ++ item.text ++ "\n"))

/-- The top of a file with all its white space. -/
def headerText : Language → Settings → Except Failure String
  | .swift, settings => (importText settings.swiftImports).map (commentText settings ++ ·)
  | .kotlin, settings => do
    let imports ←
      if settings.kotlinImports.truthy then
        (importText settings.kotlinImports).map ("\n" ++ ·)
      else .ok ""
    return commentText settings ++ "package " ++ settings.kotlinPackage.text ++ "\n" ++ imports

/-- The top of a file. -/
def header (language : Language) (settings : Settings) : Except Failure String :=
  (language.headerText settings).map fun text => String.ofList (trimBoth text.toList)

end NativeRecords.Target.Language
