/-
# NativeRecords.Proofs.Backends -- what a backend keeps from one request to the next

All the steps of a backend work on one state, and the step that finds the first value of a field
looks deep inside a record at the enums that the state holds. One step alone puts other enums there,
and it does so before the first section of a file is written. So a file depends on the declarations
that it is asked for and on nothing that came before, and what is remembered are the enums of the
last file that had declarations, even if it could not be written.
-/
import Mathlib.Data.List.Induction
import NativeRecords.Target.Session

namespace NativeRecords.Target

open NativeRecords.Schema

/-! ## Steps that leave the backend as it is -/

namespace Writing

variable {α β : Type}

/-- What two steps in turn do to a backend: the second starts where the first has left it. -/
theorem bind_apply (step : Writing α) (next : α → Writing β) (backend : Backend) :
    (step >>= next) backend =
      match step backend with
      | (.ok a, after) => next a after
      | (.error failure, after) => (.error failure, after) := by
  simp only [bind, ExceptT.bind, ExceptT.mk, StateT.bind]
  obtain ⟨outcome, after⟩ := step backend
  cases outcome with
  | ok a => rfl
  | error failure => rfl

theorem pure_eq_ask (a : α) : (pure a : Writing α) = ask fun _ => .ok a := rfl

theorem get_eq_ask : (get : Writing Backend) = ask .ok := rfl

/-- Asking twice is asking once. -/
theorem ask_bind_ask (answer : Backend → Except Failure α) (next : α → Backend → Except Failure β) :
    (ask answer >>= fun a => ask (next a)) =
      ask fun backend => answer backend >>= fun a => next a backend := by
  funext backend
  rw [bind_apply, ask, ask]
  cases answer backend with
  | ok a => rfl
  | error failure => rfl

/-- Changing an answer is asking for the changed one. -/
theorem ask_map (answer : Backend → Except Failure α) (f : α → β) :
    (ask answer >>= fun a => pure (f a)) = ask fun backend => (answer backend).map f := by
  simp only [pure_eq_ask, ask_bind_ask]
  funext backend
  rw [ask, ask]
  cases answer backend with
  | ok a => rfl
  | error failure => rfl

/-- Asking for each part of a list is asking for all of them. -/
theorem mapM_ask (answer : α → Backend → Except Failure β) (parts : List α) :
    parts.mapM (fun part => ask (answer part)) =
      ask fun backend => parts.mapM fun part => answer part backend := by
  induction parts with
  | nil => rfl
  | cons part parts ih =>
    simp only [List.mapM_cons, ih, pure_eq_ask, ask_bind_ask]
    rfl

theorem fieldNamed_eq (name : String) (property : RecordProperty) :
    fieldNamed name property =
      ask fun backend => backend.language.fieldNamed backend.enums name property := by
  rw [fieldNamed]
  cases optional : property.optional with
  | true =>
    simp only [typeText, if_true, pure_eq_ask, get_eq_ask, ask_bind_ask, Language.fieldNamed,
      optional]
    rfl
  | false =>
    simp only [typeText, defaultText, Bool.false_eq_true, if_false, pure_eq_ask, get_eq_ask,
      ask_bind_ask, Language.fieldNamed, optional]
    rfl

theorem field_eq (property : RecordProperty) :
    field property = ask fun backend => backend.language.field backend.enums property := by
  simp only [field, fieldNamed_eq, get_eq_ask, ask_bind_ask]
  rfl

/-- A record is written with the enums that are remembered, and they stay as they are. -/
theorem recordText_eq (declaration : RecordDeclaration) :
    recordText declaration =
      ask fun backend => backend.language.recordText backend.enums declaration := by
  simp only [recordText, fieldNamed_eq, mapM_ask, ask_map, get_eq_ask, ask_bind_ask]
  rfl

/-! ## Files -/

theorem mapM_enumText (declarations : List EnumDeclaration) :
    declarations.mapM enumText =
      ask fun backend => .ok (declarations.map backend.language.enumText) := by
  unfold enumText
  rw [mapM_ask]
  funext backend
  exact congrArg (·, backend) List.mapM_pure

theorem mapM_recordText (declarations : List RecordDeclaration) :
    declarations.mapM recordText =
      ask fun backend => declarations.mapM (backend.language.recordText backend.enums) := by
  rw [funext recordText_eq, mapM_ask]

/-- A file is written with its own enums, whatever was remembered before, and the backend remembers
them whatever comes of it. -/
theorem file_apply (declarations : List Declaration) (backend : Backend) :
    file declarations backend =
      if declarations.isEmpty then (.ok "", backend)
      else
        ((Backend.sections backend.language backend.settings declarations).map
            ("\n\n".intercalate ·),
          { backend with enums := declarations.filterMap Declaration.enum? }) := by
  rw [file]
  split
  · rfl
  · have replaced : remember declarations backend =
        (.ok (), { backend with enums := declarations.filterMap Declaration.enum? }) := rfl
    simp only [bind_apply, replaced, mapM_enumText, mapM_recordText, header, ask_map, ask_bind_ask]
    rw [ask, Backend.sections]
    refine Prod.ext ?_ rfl
    -- enums can always be written, so records and top fail in the same order on both sides
    cases (declarations.filterMap Declaration.record?).mapM
        (backend.language.recordText (declarations.filterMap Declaration.enum?)) with
    | error failure => rfl
    | ok records =>
      cases backend.language.header backend.settings with
      | error failure => rfl
      | ok top => rfl

/-! ## One request -/

/-- Whatever is asked for but a file, the backend stays as it is. -/
theorem exists_respond_eq_ask {request : Request}
    (notFile : ∀ declarations, request ≠ .file declarations) :
    ∃ answer, respond request = ask answer := by
  cases request with
  | file declarations => exact absurd rfl (notFile declarations)
  | enumSection declaration =>
    cases declaration with
    | enum e => exact ⟨_, ask_map _ _⟩
    | record r => exact ⟨fun _ => .error .missingPart, rfl⟩
  | recordSection declaration =>
    cases declaration with
    | enum e => exact ⟨fun _ => .error .missingPart, rfl⟩
    | record r =>
      rw [respond, recordText_eq]
      exact ⟨_, ask_map _ _⟩
  | field property =>
    rw [respond, field_eq]
    exact ⟨_, ask_map _ _⟩
  | type type => exact ⟨_, ask_map _ _⟩
  | initial type => exact ⟨_, ask_map _ _⟩
  | literal value => exact ⟨_, pure_eq_ask _⟩
  | identifier name => exact ⟨_, ask_map .ok _⟩
  | identifiers names => exact ⟨_, ask_map .ok _⟩
  | knownEnums => exact ⟨_, ask_map .ok _⟩

end Writing

/-- The declarations that a request asks to write into a file. -/
def Request.declarations : Request → List Declaration
  | .file declarations => declarations
  | _ => []

namespace Backend

theorem generate_eq (backend : Backend) (declarations : List Declaration) :
    backend.generate declarations =
      if declarations.isEmpty then (.ok "", backend)
      else
        ((sections backend.language backend.settings declarations).map ("\n\n".intercalate ·),
          { backend with enums := declarations.filterMap Declaration.enum? }) :=
  Writing.file_apply declarations backend

theorem respond_file (backend : Backend) (declarations : List Declaration) :
    backend.respond (.file declarations) =
      ((backend.generate declarations).1.map .text, (backend.generate declarations).2) := by
  rw [respond, Writing.respond, Writing.bind_apply, ← generate]
  obtain ⟨outcome, after⟩ := backend.generate declarations
  cases outcome with
  | ok text => rfl
  | error failure => rfl

/-- The backend after a request: it remembers the enums of the declarations that were to be written,
if there were any. -/
theorem respond_snd (backend : Backend) (request : Request) :
    (backend.respond request).2 =
      if request.declarations.isEmpty then backend
      else { backend with enums := request.declarations.filterMap Declaration.enum? } := by
  by_cases isFile : ∃ declarations, request = .file declarations
  · obtain ⟨declarations, rfl⟩ := isFile
    rw [respond_file, generate_eq, Request.declarations]
    split <;> rfl
  · obtain ⟨answer, asked⟩ :=
      Writing.exists_respond_eq_ask fun declarations same => isFile ⟨declarations, same⟩
    have none : request.declarations = [] := by
      cases request with
      | file declarations => exact absurd ⟨declarations, rfl⟩ isFile
      | _ => rfl
    rw [respond, asked, none]
    rfl

/-! ## Requests in turn -/

/-- The backend after it has answered requests in turn. -/
def after (backend : Backend) (history : List Request) : Backend :=
  history.foldl (fun backend request => (backend.respond request).2) backend

theorem after_concat (backend : Backend) (history : List Request) (request : Request) :
    backend.after (history ++ [request]) = ((backend.after history).respond request).2 := by
  rw [after, List.foldl_append]
  rfl

theorem answer_concat (backend : Backend) (history : List Request) (request : Request) :
    backend.answer (history ++ [request]) =
      backend.answer history ++ [((backend.after history).respond request).1] := by
  induction history generalizing backend with
  | nil => rfl
  | cons first history ih =>
    -- the first request moves both sides on to the backend that it leaves
    change (backend.respond first).1 :: (backend.respond first).2.answer (history ++ [request]) = _
    rw [ih]
    rfl

/-- The declarations of the last file that had any. -/
def lastWritten (history : List Request) : List Declaration :=
  ((history.map Request.declarations).filter (!·.isEmpty)).getLast?.getD []

theorem lastWritten_concat (history : List Request) (request : Request) :
    lastWritten (history ++ [request]) =
      if request.declarations.isEmpty then lastWritten history else request.declarations := by
  unfold lastWritten
  rw [List.map_append, List.filter_append, List.map_singleton, List.filter_cons]
  cases request.declarations.isEmpty with
  | true => simp
  | false => simp

/-- After any requests a new backend is as it was made, but for the enums of the last file. -/
theorem after_eq (language : Language) (settings : Settings) (history : List Request) :
    after { language, settings } history =
      { language, settings, enums := (lastWritten history).filterMap Declaration.enum? } := by
  induction history using List.reverseRecOn with
  | nil => rfl
  | append_singleton history request ih =>
    rw [after_concat, respond_snd, ih, lastWritten_concat]
    split <;> rfl

end Backend

/-- **A backend forgets.** After any requests, answered or failed, a file comes out as from a new
backend, which is as its declarations alone determine. What is remembered are the enums of the last
file that had declarations. -/
theorem backend_forgets (language : Language) (settings : Settings) (history : List Request)
    (declarations : List Declaration) :
    let fresh : Backend := { language, settings }
    ((fresh.after history).generate declarations).1 = (fresh.generate declarations).1 ∧
    (fresh.generate declarations).1 =
      (if declarations = [] then .ok ""
        else (Backend.sections language settings declarations).map ("\n\n".intercalate ·)) ∧
    fresh.answer (history ++ [.file declarations]) =
      fresh.answer history ++ fresh.answer [.file declarations] ∧
    (fresh.after history).enums = (Backend.lastWritten history).filterMap Declaration.enum? := by
  intro fresh
  have alone :
      ((fresh.after history).generate declarations).1 = (fresh.generate declarations).1 := by
    rw [Backend.after_eq, Backend.generate_eq, Backend.generate_eq]
    split <;> rfl
  refine ⟨alone, ?_, ?_, ?_⟩
  · rw [Backend.generate_eq]
    cases declarations with
    | nil => rfl
    | cons declaration declarations => rfl
  · rw [Backend.answer_concat, Backend.respond_file, alone]
    rw [Backend.answer, Backend.respond_file]
    rfl
  · rw [Backend.after_eq]

-- the second file fails, its enum having no first case, and replaces the enums all the same
example :
    let box : RecordDeclaration := ⟨"Box", [⟨"size", .reference .enum "Size", false⟩]⟩
    let history : List Request :=
      [.file [.enum ⟨"Mode", []⟩], .file [.enum ⟨"Size", []⟩, .record box], .file []]
    (Backend.mk .swift {} []).answer history matches [.ok _, .error _, .ok _] ∧
    ((Backend.mk .swift {} []).after history).knownEnums = ["Size"] := by
  decide +kernel

end NativeRecords.Target
