/-
# NativeRecords.Settings -- what the user decides about generated files

Settings are read from a JSON object whose entries count in order, so that a later entry overrides
an earlier one. A field is set under its own name, or by the entry of its target. Values are not
checked when they are read: they are used, and shown, as they are.
-/
import NativeRecords.Failure

namespace NativeRecords

/-- The settings of a run. -/
structure Settings where
  /-- The package of generated Kotlin files, which Kotlin cannot do without. -/
  kotlinPackage : Json := .str ""
  /-- The imports at the top of generated Kotlin files. -/
  kotlinImports : Json := .arr
    [.str "expo.modules.kotlin.records.Record", .str "expo.modules.kotlin.records.Field",
      .str "expo.modules.kotlin.types.Enumerable"]
  /-- The modules imported at the top of generated Swift files. -/
  swiftImports : Json := .arr [.str "ExpoModulesCore"]
  /-- Whether files start with a comment that says that they are generated. -/
  generationComment : Json := .bool false
deriving BEq

namespace Settings

/-- The entries of a list of imports as an array. -/
def importList (raw : Json) : Except Failure Json :=
  match raw.items? with
  | some items => .ok (.arr items)
  | none => .error .notAList

/-- Takes in the entry of the Kotlin target. -/
def putKotlin (settings : Settings) (fields : List (String × Json)) : Except Failure Settings :=
  let settings :=
    match Json.field? "packageName" fields with
    | some name => { settings with kotlinPackage := name }
    | none => settings
  match Json.field? "imports" fields with
  | some raw => (importList raw).map fun imports => { settings with kotlinImports := imports }
  | none => .ok settings

/-- Takes in the entry of the Swift target. -/
def putSwift (settings : Settings) (fields : List (String × Json)) : Except Failure Settings :=
  match Json.field? "imports" fields with
  | some raw => (importList raw).map fun imports => { settings with swiftImports := imports }
  | none => .ok settings

/-- Takes in one entry. Entries that name no setting change nothing. Settings are data alone: a key
that is the name of an operation on them, such as `require_kotlin_package_name` or `to_dict`, names
no setting and cannot put anything in the place of the operation. -/
def put (settings : Settings) : String × Json → Except Failure Settings
  | ("kotlin", .obj fields) => settings.putKotlin fields
  | ("swift", .obj fields) => settings.putSwift fields
  | ("kotlin_package_name", value) => .ok { settings with kotlinPackage := value }
  | ("kotlin_imports", value) => .ok { settings with kotlinImports := value }
  | ("swift_imports", value) => .ok { settings with swiftImports := value }
  | ("add_generation_comment", value) => .ok { settings with generationComment := value }
  | _ => .ok settings

/-- Reads settings. -/
def ofJson : Json → Except Failure Settings
  | .obj fields => fields.foldlM put {}
  | _ => .error .settingsNotObject

/-- The settings as an object with one entry for each. -/
def toJson (settings : Settings) : Json :=
  .obj [("kotlin_package_name", settings.kotlinPackage), ("kotlin_imports", settings.kotlinImports),
    ("swift_imports", settings.swiftImports), ("add_generation_comment", settings.generationComment)]

/-- The package of Kotlin files, which must have been set. -/
def requirePackage (settings : Settings) : Except Failure Json :=
  if settings.kotlinPackage.truthy then .ok settings.kotlinPackage
  else .error (.missingSetting "kotlin.packageName")

end Settings
end NativeRecords
