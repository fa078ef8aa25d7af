/-
# NativeRecords.Source.Declaration -- source declarations

A source declaration is an enum, an interface or a type alias whose types are classified.
-/
import NativeRecords.Source.Descriptor

namespace NativeRecords.Source

/-- A declaration with classified types. -/
inductive Declaration where
  | enum (name : String) (members : List EnumMember)
  | interface (name : String) (properties : List Property)
  | typeAlias (name : String) (type : Descriptor)
  /-- An alias whose type is missing. -/
  | untypedAlias (name : String)
  /-- A declaration of none of the three kinds. -/
  | unclassified (name : String)

/-- The declared name. -/
def Declaration.name : Declaration → String
  | .enum name _ => name
  | .interface name _ => name
  | .typeAlias name _ => name
  | .untypedAlias name => name
  | .unclassified name => name

end NativeRecords.Source
