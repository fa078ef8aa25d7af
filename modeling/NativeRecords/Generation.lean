/-
# NativeRecords.Generation -- from source declarations to a file

Generation resolves all declarations, orders them, and writes the file. Each stage that ends well
leaves an event, so that a run can tell how far it came.
-/
import NativeRecords.Schema.Build
import NativeRecords.Target.Backend

namespace NativeRecords

/-- What a run has achieved. -/
inductive Event where
  | parsed (declarations : Nat)
  | resolved (declarations : Nat)
  | ordered (names : List String)
  | generated (characters : Nat) (language : Target.Language) (declarations : Nat)

/-- The line that logs an event. -/
def Event.line : Event → String
  | .parsed declarations =>
    "DEBUG:ts_to_records.pipeline.declarations.parser:Parsed " ++ integerText declarations
      ++ " declarations\n"
  | .resolved declarations =>
    "DEBUG:ts_to_records.pipeline.generator:Resolved " ++ integerText declarations
      ++ " declarations\n"
  | .ordered names =>
    "DEBUG:ts_to_records.pipeline.analyzer.declaration_set:Emission order: "
      ++ (Json.arr (names.map .str)).shown ++ "\n"
  | .generated characters language declarations =>
    "DEBUG:ts_to_records.pipeline.backends.base:Generated " ++ integerText characters
      ++ " characters of " ++ language.name ++ " code for " ++ integerText declarations
      ++ " declarations\n"

/-- The file that a backend writes for source declarations, with the events on the way. -/
def Target.Backend.generateTraced (backend : Backend) (declarations : List Source.Declaration) :
    List Event × Except Failure String :=
  match declarations.mapM Schema.resolve with
  | .error failure => ([], .error failure)
  | .ok resolved =>
    let events := [.resolved resolved.length]
    match Schema.order resolved with
    | .error failure => (events, .error failure)
    | .ok ordered =>
      let events := events ++ [.ordered (ordered.map Schema.Declaration.name)]
      match (backend.generate ordered).1 with
      | .error failure => (events, .error failure)
      | .ok code =>
        if ordered.isEmpty then (events, .ok code)
        else (events ++ [.generated code.length backend.language ordered.length], .ok code)

/-- The file in the language with this name. -/
def generate (languageName : String) (settings : Settings)
    (declarations : List Source.Declaration) : Except Failure String := do
  let backend ← Target.Backend.ofName languageName settings
  (backend.generateTraced declarations).2

end NativeRecords
