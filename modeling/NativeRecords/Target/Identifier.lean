/-
# NativeRecords.Target.Identifier -- source names as identifiers of a target

A source name may be any text. Its identifier keeps the word characters and puts an underscore for
every other character; it gets an underscore in front when it would be empty or start with a
digit, and is escaped when it is a reserved word. Names that stand side by side get distinct
identifiers: one that is taken is told apart by the least number, from two on, that gives a free
one.
-/
import NativeRecords.Number.Notation
import NativeRecords.Target.Language
import NativeRecords.Text.Word

namespace NativeRecords.Target.Language

/-- The characters of a name with an underscore for each that is no word character. -/
def wordChars (name : List Char) : List Char :=
  name.map fun c => if isWordChar c then c else '_'

/-- The characters with an underscore in front where they cannot begin an identifier. -/
def withLead : List Char → List Char
  | [] => ['_']
  | c :: rest => if isDigitChar c then '_' :: c :: rest else c :: rest

/-- The identifier of a name before reserved words are escaped. -/
def plainIdentifier (name : String) : String := String.ofList (withLead (wordChars name.toList))

/-- A reserved word made an identifier. -/
def escapeWord (word : String) : String := "`" ++ word ++ "`"

/-- The identifier of a name. -/
def identifier (language : Language) (name : String) : String :=
  let plain := plainIdentifier name
  if plain ∈ language.reserved then escapeWord plain else plain

/-- A name told apart by a number. -/
def numberedName (name : String) (number : Nat) : String :=
  name ++ "_" ++ integerText number

/-- The identifier of a name beside identifiers that are taken. Numbered names have distinct
identifiers, so among one more of them than are taken there is a free one. -/
def freeIdentifier (language : Language) (taken : List String) (name : String) : String :=
  let first := language.identifier name
  if first ∈ taken then
    let free := (List.range (taken.length + 1)).findSome? fun n =>
      let candidate := language.identifier (numberedName name (n + 2))
      if candidate ∈ taken then none else some candidate
    free.getD first
  else first

/-- The identifiers of names that stand side by side. -/
def identifiers (language : Language) (names : List String) : List String :=
  names.foldl (fun taken name => taken ++ [language.freeIdentifier taken name]) []

end NativeRecords.Target.Language
