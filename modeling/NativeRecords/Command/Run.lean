/-
# NativeRecords.Command.Run -- a run of the command

A run reads a document and settings from files and writes one file for each requested language. It
is a function from the file tree before to a report: how the run ended, what it printed and
logged, and the file tree after. Nothing is written before the whole document has been read, and
the languages are done in turn, each written before the next is generated.
-/
import NativeRecords.Command.Arguments
import NativeRecords.Command.FileTree
import NativeRecords.Generation
import NativeRecords.Json.Reader
import NativeRecords.Path
import NativeRecords.Source.Reader
import NativeRecords.Text.ControlSequence

namespace NativeRecords.Command

/-- How a run ends. -/
inductive Ending where
  | success
  /-- The command line is none of this command. -/
  | usage
  /-- Something is wrong with the document or the settings, and is reported. -/
  | reported (failure : Failure)
  /-- A value does not have the shape that its use asks for. -/
  | broken (failure : Failure)
  /-- A file cannot be read or written. -/
  | blocked (fault : FileFault)

/-- The ending that a failure leads to. -/
def Ending.ofFailure (failure : Failure) : Ending :=
  if failure.isReported then .reported failure else .broken failure

/-- The code with which the command exits. -/
def Ending.exitCode : Ending → Nat
  | .success => 0
  | .usage => 2
  | _ => 1

/-- What a run has done so far. -/
structure Progress where
  tree : FileTree
  events : List Event := []
  /-- The lines printed. -/
  printed : List String := []

/-- The outcome of a run. -/
structure Report where
  ending : Ending
  progress : Progress
  verbose : Bool := false

/-- What a run prints. A path may hold control sequences, which are not shown. -/
def Report.stdout (report : Report) : String :=
  String.join (report.progress.printed.map visibleText)

/-- What a run logs, if it was asked to, and the failure that it reports. The log is written as it
is, the failure without control sequences. -/
def Report.stderr (report : Report) : String :=
  let log :=
    if report.verbose then String.join (report.progress.events.map Event.line) else ""
  match report.ending with
  | .reported failure => log ++ visibleText ("Error: " ++ failure.message ++ "\n")
  | _ => log

/-! ## What is to be done -/

/-- A run that the command line asks for; paths are absolute. -/
structure Job where
  config : List String
  languages : List Target.Language
  verbose : Bool
  document : List String
  output : List String

/-- The absolute path that a word on the command line means: `..` leads one level up. -/
def resolvePath (current : List String) (word : String) : List String :=
  let path := Path.ofString word
  let start := if path.root = "" then current else []
  path.components.foldl
    (fun above component => if component = ".." then above.dropLast else above ++ [component]) start

/-- Whether the output of a run may be at a path: it is no file. -/
def FileTree.admitsOutput (tree : FileTree) (path : List String) : Bool :=
  match tree.status path with
  | .file _ => false
  | _ => true

/-- The run that a command line asks for. The configuration and the document must be there.
Without a language all are meant. -/
def Job.ofArguments? (tree : FileTree) (current : List String) (arguments : Arguments) :
    Option Job := do
  let config := resolvePath current (← arguments.config)
  let languages ← arguments.languages.mapM Target.Language.ofName?
  match arguments.words with
  | [document, output] =>
    let document := resolvePath current document
    let output := resolvePath current output
    if tree.has config && tree.has document && tree.admitsOutput output then
      let languages := if languages.isEmpty then Target.Language.all else languages
      some { config, languages, verbose := arguments.verbose, document, output }
    else none
  | _ => none

/-! ## Doing it -/

/-- The written form of an absolute path. -/
def absoluteText (path : List String) : String := "/" ++ "/".intercalate path

/-- The path of the file that a run writes for a language. -/
def Job.target (job : Job) (language : Target.Language) : Path :=
  outputPath (absoluteText job.output) (absoluteText job.document) language.name language.extension

/-- Reads a JSON file. -/
def readJson (tree : FileTree) (path : List String) : Except Ending Json :=
  match tree.read path with
  | .error fault => .error (.blocked fault)
  | .ok text =>
    match Json.read? text with
    | none => .error (.broken .notJson)
    | some json => .ok json

/-- Writes a generated file, together with the directories above it. -/
def writeTarget (tree : FileTree) (path : Path) (code : String) : Except FileFault FileTree := do
  let tree ← tree.makeDirectory path.components.dropLast
  tree.write path.components code

/-- Generates and writes the file of one language. -/
def Job.emit (job : Job) (settings : Settings) (declarations : List Source.Declaration)
    (progress : Progress) (language : Target.Language) : Except (Ending × Progress) Progress :=
  match Target.Backend.make language settings with
  | .error failure => .error (.ofFailure failure, progress)
  | .ok backend =>
    let (events, outcome) := backend.generateTraced declarations
    let progress := { progress with events := progress.events ++ events }
    match outcome with
    | .error failure => .error (.ofFailure failure, progress)
    | .ok code =>
      let target := job.target language
      match writeTarget progress.tree target code with
      | .error fault => .error (.blocked fault, progress)
      | .ok tree =>
        .ok { progress with
          tree
          printed := progress.printed ++
            ["Generated " ++ language.name ++ " code at: " ++ target.toString ++ "\n"] }

/-- Generates and writes the files of the languages in turn. -/
def Job.emitAll (job : Job) (settings : Settings) (declarations : List Source.Declaration)
    (progress : Progress) : Ending × Progress :=
  match job.languages.foldlM (job.emit settings declarations) progress with
  | .error stopped => stopped
  | .ok progress => (.success, progress)

/-- What is read before anything is written: the settings and the declarations. The package is
asked for even when no Kotlin file is. -/
def Job.inputs (job : Job) (tree : FileTree) :
    Except Ending (Settings × List Source.Declaration) := do
  let document ← readJson tree job.document
  let config ← readJson tree job.config
  let settings ← (Settings.ofJson config).mapError Ending.ofFailure
  let _ ← settings.requirePackage.mapError Ending.ofFailure
  let declarations ← (Source.readDocument document).mapError Ending.ofFailure
  return (settings, declarations)

/-- Does what a command line asks for. -/
def Job.run (job : Job) (tree : FileTree) : Report :=
  match job.inputs tree with
  | .error ending => { ending, progress := { tree }, verbose := job.verbose }
  | .ok (settings, declarations) =>
    let progress : Progress := { tree, events := [.parsed declarations.length] }
    let (ending, progress) := job.emitAll settings declarations progress
    { ending, progress, verbose := job.verbose }

/-- How the command is used. -/
def usage : String := "Usage: ts_to_records [OPTIONS] PATH OUTPUT\n"

/-- Runs the command with the given words in the directory `current`. -/
def run (tree : FileTree) (current : List String) (words : List String) : Report :=
  match Arguments.read? {} words with
  | none => { ending := .usage, progress := { tree } }
  | some arguments =>
    if arguments.help then { ending := .success, progress := { tree, printed := [usage] } }
    else
      match Job.ofArguments? tree current arguments with
      | none => { ending := .usage, progress := { tree } }
      | some job => job.run tree

end NativeRecords.Command
