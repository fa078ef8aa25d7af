/-
# NativeRecords.Failure -- why a document cannot be turned into code

Every failure stops the run it arises in. Failures with a cause in the document or in the settings
are reported by one line of text; the others arise where a value does not have the shape its use
asks for.
-/
import NativeRecords.Json.Text

namespace NativeRecords

/-- What is wrong with a declaration document. -/
inductive Malformed where
  | noDeclarationList
  | notAnObject (kind : String)
  | namelessDeclaration
  | unknownKind (name : String) (kind : Json)
  | aliasWithoutType (name : String)
  | namelessMember (enumName : String)
  | memberValue (enumName member : String)
  | namelessProperty (owner : String)
  | untypedProperty (owner name : String)
  | typeExpression (raw : Json)
  | literalType (value : Json)

/-- The sentence that describes a malformed document. -/
def Malformed.message : Malformed → String
  | .noDeclarationList =>
    "Declaration document must be a list or contain a 'declarations' list"
  | .notAnObject kind => "Declaration must be an object, got " ++ kind
  | .namelessDeclaration => "Declaration is missing a name"
  | .unknownKind name kind =>
    "Declaration " ++ name ++ " has unknown kind " ++ kind.shown
      ++ ", expected one of ['enum', 'interface', 'type-alias']"
  | .aliasWithoutType name => "Type alias " ++ name ++ " is missing its aliased type"
  | .namelessMember enumName => "Enum " ++ enumName ++ " has a member without a name"
  | .memberValue enumName member =>
    "Enum member " ++ enumName ++ "." ++ member ++ " must have a string or number value"
  | .namelessProperty owner => owner ++ " has a property without a name"
  | .untypedProperty owner name => "Property " ++ owner ++ "." ++ name ++ " is missing its type"
  | .typeExpression raw => "Invalid type expression: " ++ raw.shown
  | .literalType value => "Literal types must be strings or numbers, got " ++ value.shown

/-- Why no code is generated. -/
inductive Failure where
  /-- The document breaks the declaration format. -/
  | malformed (cause : Malformed)
  /-- A type has no counterpart in the schema. -/
  | unsupportedType (display : String)
  /-- An alias is neither a literal union nor an object shape. -/
  | unsupportedAlias (name : String)
  /-- An enum has both text and numeric members. -/
  | mixedEnum (name : String)
  /-- An enum has no members. -/
  | emptyEnum (name : String)
  /-- A numeric enum has a member that is not an integer. -/
  | fractionalValue (enumName : String) (value : Binary64)
  /-- Two declarations have one name. -/
  | duplicateName (name : String)
  /-- Declarations refer to each other in a circle. -/
  | circularReference (name : String)
  /-- A setting that the target needs is missing. -/
  | missingSetting (setting : String)
  /-- A schema type has a kind that no target knows. -/
  | unknownTypeWord (word : String)
  /-- There is no such target language. -/
  | unknownLanguage (name : String)
  /-- A declaration belongs to none of the three kinds. -/
  | unclassifiedDeclaration
  /-- A list was expected. -/
  | notAList
  /-- A part that the use asks for is missing. -/
  | missingPart
  /-- Settings were expected to be an object. -/
  | settingsNotObject
  /-- An enum without members has no case to start from. -/
  | noFirstCase
  /-- A text is not JSON. -/
  | notJson

namespace Failure

/-- The line of text that reports a failure. -/
def message : Failure → String
  | .malformed cause => cause.message
  | .unsupportedType display => "Unsupported TypeScript type: " ++ display
  | .unsupportedAlias name => "Unsupported type alias shape: " ++ name
  | .mixedEnum name => "Enum " ++ name ++ " mixes string and numeric member values"
  | .emptyEnum name => "Enum " ++ name ++ " has no members"
  | .fractionalValue enumName value =>
    "Enum " ++ enumName ++ " has non-integer member value " ++ value.text
  | .duplicateName name => "Duplicate declaration found: " ++ name
  | .circularReference name => "Circular dependency detected involving " ++ name
  | .missingSetting setting => "Config must specify " ++ setting
  | .unknownTypeWord word => "Unknown IR type kind: " ++ word
  | .unknownLanguage name => "Language '" ++ name ++ "' is not supported"
  | .unclassifiedDeclaration => "Unknown declaration node: DeclarationNode"
  | .notAList => "a list was expected"
  | .missingPart => "a part is missing"
  | .settingsNotObject => "settings must be an object"
  | .noFirstCase => "an enum without members has no first case"
  | .notJson => "the text is not JSON"

/-- Whether the failure lies in the document or in the settings, so that the command reports it.
-/
def isReported : Failure → Bool
  | .malformed _ | .unsupportedType _ | .unsupportedAlias _ | .mixedEnum _ | .emptyEnum _
  | .fractionalValue _ _ | .duplicateName _ | .circularReference _ | .missingSetting _ => true
  | _ => false

end Failure
end NativeRecords
