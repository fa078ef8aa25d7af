/-
# NativeRecords.Target.Backend -- generated files

A backend writes files for one language under fixed settings. A file has its top, then the enums
and then the records, each in the order given, with an empty line between any two sections.

`sections` says what a file holds. A backend is how the work is done when one file comes after the
other: it remembers the enums of the last declarations that it wrote, and whatever a step needs of
them it takes from this one state. A step that fails leaves the state as it is at that point.
-/
import NativeRecords.Target.Render

namespace NativeRecords.Target

open NativeRecords.Schema

/-- A writer of files in one language. -/
structure Backend where
  language : Language
  settings : Settings
  enums : List EnumDeclaration := []

namespace Backend

/-- A backend for a language. Kotlin needs a package. -/
def make (language : Language) (settings : Settings) : Except Failure Backend :=
  match language with
  | .swift => .ok { language, settings }
  | .kotlin => settings.requirePackage.map fun _ => { language, settings }

/-- A backend for the language with this name. -/
def ofName (name : String) (settings : Settings) : Except Failure Backend :=
  match Language.ofName? name with
  | some language => make language settings
  | none => .error (.unknownLanguage name)

/-- The names of the remembered enums, each once, in the order of their first occurrence. -/
def knownEnums (backend : Backend) : List String :=
  appendNew [] (backend.enums.map EnumDeclaration.name)

/-- The sections of a file: its top unless that is empty, the enums and the records. -/
def sections (language : Language) (settings : Settings) (declarations : List Declaration) :
    Except Failure (List String) := do
  let enums := declarations.filterMap Declaration.enum?
  let records ← (declarations.filterMap Declaration.record?).mapM (language.recordText enums)
  let header ← language.header settings
  return (if header = "" then [] else [header]) ++ enums.map language.enumText ++ records

end Backend

/-! ## The steps -/

/-- A step of a backend. It may fail, and it leaves a backend behind whether it fails or not. -/
abbrev Writing := ExceptT Failure (StateM Backend)

namespace Writing

/-- Asks the backend as it stands. -/
def ask {α : Type} (answer : Backend → Except Failure α) : Writing α :=
  fun backend => (answer backend, backend)

/-- Writes a type. -/
def typeText (type : SchemaType) : Writing String :=
  ask fun backend => backend.language.typeText type

/-- Writes what a required field of a type starts with. Enums are looked up among those that the
backend remembers. -/
def defaultText (type : SchemaType) : Writing String :=
  ask fun backend => backend.language.defaultText backend.enums type

/-- Makes the field of a property under the given name. -/
def fieldNamed (name : String) (property : RecordProperty) : Writing Language.Field := do
  let backend ← get
  let type ← typeText property.type
  if property.optional then
    return ⟨name, backend.language.optionalType type, backend.language.nullLiteral⟩
  else
    let initial ← defaultText property.type
    return ⟨name, type, initial⟩

/-- Makes the field of a property that stands alone. -/
def field (property : RecordProperty) : Writing Language.Field := do
  let backend ← get
  fieldNamed (backend.language.identifier property.name) property

/-- Writes the section of an enum. -/
def enumText (declaration : EnumDeclaration) : Writing String :=
  ask fun backend => .ok (backend.language.enumText declaration)

/-- Writes the section of a record. -/
def recordText (declaration : RecordDeclaration) : Writing String := do
  let backend ← get
  let names := backend.language.identifiers (declaration.properties.map RecordProperty.name)
  let fields ← (names.zip declaration.properties).mapM fun (name, property) =>
    fieldNamed name property
  return backend.language.recordSection declaration.name fields

/-- Writes the top of a file. -/
def header : Writing String :=
  ask fun backend => backend.language.header backend.settings

/-- Remembers the enums among the declarations, and no others. -/
def remember (declarations : List Declaration) : Writing Unit :=
  modify fun backend => { backend with enums := declarations.filterMap Declaration.enum? }

/-- Writes a file. Without declarations there is nothing to write and nothing to remember;
otherwise the enums are remembered before the first section is written. -/
def file (declarations : List Declaration) : Writing String :=
  if declarations.isEmpty then return ""
  else do
    remember declarations
    let enums ← (declarations.filterMap Declaration.enum?).mapM enumText
    let records ← (declarations.filterMap Declaration.record?).mapM recordText
    let top ← header
    return "\n\n".intercalate ((if top = "" then [] else [top]) ++ enums ++ records)

end Writing

/-- The file with these declarations, and the backend that has written it. -/
def Backend.generate (backend : Backend) (declarations : List Declaration) :
    Except Failure String × Backend :=
  Writing.file declarations backend

end NativeRecords.Target
