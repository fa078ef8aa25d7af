/-
# NativeRecords.Json.Text -- how messages and generated files show a JSON value

Inside a message a value is shown so that its kind can be told: `None`, `True` and `False`,
numbers, quoted texts, lists in brackets and objects in braces. Where a value stands for a piece
of text, a string is the text itself and any other value is shown as in a message.
-/
import NativeRecords.Json.Basic
import NativeRecords.Number.Notation
import NativeRecords.Text.Quoted

namespace NativeRecords.Json

mutual

/-- A value as messages show it. -/
def shown : Json → String
  | .null => "None"
  | .bool b => if b then "True" else "False"
  | .int n => integerText n
  | .float x => x.text
  | .str s => quoted s
  | .arr items => "[" ++ ", ".intercalate (shownItems items) ++ "]"
  | .obj fields => "\x7b" ++ ", ".intercalate (shownFields fields) ++ "\x7d"

/-- The items of an array as messages show them. -/
def shownItems : List Json → List String
  | [] => []
  | item :: rest => shown item :: shownItems rest

/-- The fields of an object as messages show them. -/
def shownFields : List (String × Json) → List String
  | [] => []
  | (name, value) :: rest => (quoted name ++ ": " ++ shown value) :: shownFields rest

end

/-- A value where a piece of text is wanted. -/
def text : Json → String
  | .str s => s
  | value => shown value

/-- The word for the kind of a value. -/
def kindWord : Json → String
  | .null => "NoneType"
  | .bool _ => "bool"
  | .int _ => "int"
  | .float _ => "float"
  | .str _ => "str"
  | .arr _ => "list"
  | .obj _ => "dict"

end NativeRecords.Json
