/-
# NativeRecords.Command.Arguments -- the command line

Options and arguments may be mixed, and after `--` everything is an argument. An option with a
value takes it from the rest of its own word or else the next word, whatever that is. Short
options may share a word. Of several configurations the last one counts; languages add up.
-/

namespace NativeRecords.Command

/-- The options that take a value. -/
inductive ValueOption where
  | config
  | language

/-- What a command line says. -/
structure Arguments where
  config : Option String := none
  languages : List String := []
  verbose : Bool := false
  help : Bool := false
  words : List String := []

namespace Arguments

/-- Gives an option its value. -/
def put (arguments : Arguments) : ValueOption → String → Arguments
  | .config, value => { arguments with config := some value }
  | .language, value => { arguments with languages := arguments.languages ++ [value] }

/-- What one word of the command line is. -/
inductive Word where
  /-- An argument. -/
  | argument
  /-- Options that stand alone. -/
  | flags (verbose help : Bool)
  /-- Options of which the last one takes a value, perhaps one that the word itself holds. -/
  | option (verbose : Bool) (option : ValueOption) (value : Option String)
  /-- No word of this command. -/
  | unknown

/-- Reads the short options of one word. -/
def Word.ofShort (verbose : Bool) : List Char → Word
  | [] => .flags verbose false
  | 'v' :: rest => Word.ofShort true rest
  | 'c' :: rest => .option verbose .config (if rest.isEmpty then none else some (String.ofList rest))
  | 'l' :: rest =>
    .option verbose .language (if rest.isEmpty then none else some (String.ofList rest))
  | _ => .unknown

/-- Reads a long option, with the value behind its equals sign if it has one. -/
def Word.ofLong (name : String) (value : Option String) : Word :=
  match name, value with
  | "--config", value => .option false .config value
  | "--lang", value => .option false .language value
  | "--verbose", none => .flags true false
  | "--help", none => .flags false true
  | _, _ => .unknown

/-- Reads one word. -/
def Word.ofString (word : String) : Word :=
  match word.toList with
  | '-' :: '-' :: rest =>
    let name := String.ofList ('-' :: '-' :: rest.takeWhile (· ≠ '='))
    match rest.dropWhile (· ≠ '=') with
    | [] => .ofLong name none
    | _ :: value => .ofLong name (some (String.ofList value))
  | '-' :: c :: rest => .ofShort false (c :: rest)
  | _ => .argument

/-- Reads the words of a command line. -/
def read? (arguments : Arguments) : List String → Option Arguments
  | [] => some arguments
  | "--" :: rest => some { arguments with words := arguments.words ++ rest }
  | word :: rest =>
    match Word.ofString word with
    | .argument => read? { arguments with words := arguments.words ++ [word] } rest
    | .flags verbose help =>
      read? { arguments with
        verbose := arguments.verbose || verbose
        help := arguments.help || help } rest
    | .option verbose option (some value) =>
      read? ({ arguments with verbose := arguments.verbose || verbose }.put option value) rest
    | .option verbose option none =>
      match rest with
      | [] => none
      | value :: rest =>
        read? ({ arguments with verbose := arguments.verbose || verbose }.put option value) rest
    | .unknown => none

end Arguments
end NativeRecords.Command
