/-
# NativeRecords.Target.Language -- the two target languages

A target language is known by its words: how it names the primitive types, how it writes
containers and optional types, what a required field starts with, and which names it reserves.
-/
import NativeRecords.Schema.Type

namespace NativeRecords.Target

/-- A target language. -/
inductive Language where
  | swift
  | kotlin
deriving DecidableEq

namespace Language

/-- All target languages. -/
def all : List Language := [.swift, .kotlin]

/-- The name of the language, which is also the name of its directory. -/
def name : Language → String
  | .swift => "swift"
  | .kotlin => "kotlin"

/-- The extension of its files. -/
def extension : Language → String
  | .swift => "swift"
  | .kotlin => "kt"

/-- The language with this name. -/
def ofName? (name : String) : Option Language := all.find? (·.name = name)

/-- The type word of a primitive type. -/
def typeWord : Language → Primitive → String
  | _, .string => "String"
  | _, .number => "Double"
  | .swift, .boolean => "Bool"
  | .kotlin, .boolean => "Boolean"
  | _, .any => "Any"
  | .swift, .byteArray => "Data"
  | .kotlin, .byteArray => "ByteArray"

/-- What a required field of a primitive type starts with. -/
def primitiveDefault : Language → Primitive → String
  | _, .string => "\"\""
  | _, .number => "0.0"
  | _, .boolean => "false"
  | .swift, .any => "[:]"
  | .kotlin, .any => "mapOf()"
  | .swift, .byteArray => "Data()"
  | .kotlin, .byteArray => "ByteArray(0)"

/-- The empty array. -/
def emptyArray : Language → String
  | .swift => "[]"
  | .kotlin => "listOf()"

/-- The empty map. -/
def emptyMap : Language → String
  | .swift => "[:]"
  | .kotlin => "mapOf()"

/-- The null literal. -/
def nullLiteral : Language → String
  | .swift => "nil"
  | .kotlin => "null"

/-- The type of arrays of this element type. -/
def arrayType : Language → String → String
  | .swift, element => "[" ++ element ++ "]"
  | .kotlin, element => "List<" ++ element ++ ">"

/-- The type of maps from this key type to this value type. -/
def mapType : Language → String → String → String
  | .swift, key, value => "[" ++ key ++ ": " ++ value ++ "]"
  | .kotlin, key, value => "Map<" ++ key ++ ", " ++ value ++ ">"

/-- The type that also has the null value. -/
def optionalType (_ : Language) (type : String) : String := type ++ "?"

/-- The raw type of enums whose values are texts. -/
def textRawType (_ : Language) : String := "String"

/-- The raw type of enums whose values are numbers. -/
def integerRawType (_ : Language) : String := "Int"

/-- An expression for a case of an enum. Swift finds the enum from the declared type of the field.
-/
def caseReference : Language → String → String → String
  | .swift, _, caseName => "." ++ caseName
  | .kotlin, enumName, caseName => enumName ++ "." ++ caseName

/-- The words that are no identifiers unless they are escaped. -/
def reserved : Language → List String
  | .swift =>
    ["Any", "Self", "as", "associatedtype", "break", "case", "catch", "class", "continue", "default",
      "defer", "deinit", "do", "else", "enum", "extension", "fallthrough", "false", "fileprivate",
      "for", "func", "guard", "if", "import", "in", "init", "inout", "internal", "is", "let", "nil",
      "open", "operator", "private", "protocol", "public", "repeat", "rethrows", "return", "self",
      "static", "struct", "subscript", "super", "switch", "throw", "throws", "true", "try",
      "typealias", "var", "where", "while"]
  | .kotlin =>
    ["as", "break", "class", "continue", "do", "else", "false", "for", "fun", "if", "in",
      "interface", "is", "null", "object", "package", "return", "super", "this", "throw", "true",
      "try", "typealias", "typeof", "val", "var", "when", "while"]

end Language
end NativeRecords.Target
