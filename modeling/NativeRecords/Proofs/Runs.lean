/-
# NativeRecords.Proofs.Runs -- what a run of the command leaves behind

A run writes the file of one language before it generates that of the next, so a failure may find
files already written. What is reported to the user never does: a failure of the document or of the
settings arises before the languages part ways, and a document that has given one file gives all of
them. Only failures that are not reported, such as imports that are no list, concern one language
alone.

A run that ends well has written the files of the requested languages and nothing else. A language
may be requested again; its file is then written again with the same text. Two languages never write
to one path, since each has a directory of its own.
-/
import NativeRecords.Command.Run
import NativeRecords.Proofs.Emission
import NativeRecords.Proofs.OutputPaths

namespace NativeRecords

namespace Command

open Schema (build)
open Target (Language)

/-! ## Where the files lie -/

/-- The files of two languages have different paths. -/
theorem Job.target_injective {job : Job} {language other : Language}
    (h : (job.target language).components = (job.target other).components) : language = other := by
  have ends : ∀ language : Language, (job.target language).components =
      (Path.ofString (absoluteText job.output)).components ++
        [language.name, fileStem (absoluteText job.document) ++ "." ++ language.extension] := by
    intro language
    rw [Job.target, outputPath_eq _ _ language.isWritten_name.1 (language.isWritten_fileName _).1]
  rw [ends, ends, List.append_cancel_left_eq] at h
  have sameName : language.name = other.name := (List.cons.inj h).1
  revert sameName
  cases language <;> cases other <;> decide

/-! ## Writing one file -/

namespace FileTree

variable {tree made : FileTree} {path : List String} {content : String}

theorem lookup_putFile (files : List (List String × String)) :
    (putFile path content files).lookup path = some content := by
  induction files with
  | nil => simp [putFile]
  | cons entry files ih =>
    obtain ⟨other, old⟩ := entry
    rw [putFile]
    split
    · simp
    · rename_i different
      rw [List.lookup_cons, beq_false_of_ne (Ne.symm different)]
      exact ih

theorem lookup_putFile_of_ne {asked : List String} (h : asked ≠ path)
    (files : List (List String × String)) :
    (putFile path content files).lookup asked = files.lookup asked := by
  induction files with
  | nil => simp [putFile, h]
  | cons entry files ih =>
    obtain ⟨other, old⟩ := entry
    rw [putFile]
    split
    · rename_i same
      rw [List.lookup_cons, List.lookup_cons, same, beq_false_of_ne h]
    · simp [List.lookup_cons, ih]

/-- The one difference between two trees is the file at a path, and the directories that it needs.
-/
structure Gains (before after : FileTree) (path : List String) (content : String) : Prop where
  written : after.content? path = some content
  kept : ∀ other, other ≠ path → after.content? other = before.content? other
  directories : before.directories ⊆ after.directories
  made : ∀ directory ∈ after.directories, directory ∉ before.directories →
    directory <+: path.dropLast

/-- Making a directory adds nothing but beginnings of its path. -/
theorem of_makeDirectory (h : tree.makeDirectory path = .ok made) :
    made.files = tree.files ∧ tree.directories ⊆ made.directories ∧
      ∀ directory ∈ made.directories, directory ∉ tree.directories → directory <+: path := by
  unfold makeDirectory at h
  split at h
  · cases h
    exact ⟨rfl, fun _ inside => inside, fun _ inside outside => absurd inside outside⟩
  · cases h
  · cases h
  · cases h
    refine ⟨rfl, List.subset_append_left _ _, ?_⟩
    intro directory inside outside
    rcases List.mem_append.mp inside with inside | inside
    · exact absurd inside outside
    · rcases List.mem_append.mp (List.mem_of_mem_filter inside) with above | same
      · obtain ⟨length, _, rfl⟩ := List.mem_map.mp above
        exact List.take_prefix _ _
      · obtain rfl := List.mem_singleton.mp same
        exact List.prefix_refl _

theorem files_of_write (h : tree.write path content = .ok made) :
    made = { tree with files := putFile path content tree.files } := by
  unfold write at h
  split at h <;> cases h
  rfl

end FileTree

open FileTree

theorem gains_of_writeTarget {before after : FileTree} {path : Path} {code : String}
    (h : writeTarget before path code = .ok after) : before.Gains after path.components code := by
  obtain ⟨ready, made, wrote⟩ := bind_eq_ok_iff.mp h
  obtain ⟨sameFiles, grown, above⟩ := of_makeDirectory made
  obtain rfl := files_of_write wrote
  constructor
  · exact lookup_putFile _
  · intro other different
    rw [content?, lookup_putFile_of_ne different, sameFiles, content?]
  · exact grown
  · exact above

/-! ## Failures that are reported -/

variable {settings : Settings} {declarations : List Source.Declaration} {language : Language}
  {failure : Failure}

theorem failure_of_importText {imports : Json}
    (h : Language.importText imports = .error failure) : failure = .notAList := by
  unfold Language.importText at h
  split at h <;> cases h
  rfl

/-- The top of a file fails in one way only. -/
theorem failure_of_header (h : language.header settings = .error failure) :
    failure = .notAList := by
  have failed := map_eq_error_iff.mp h
  cases language with
  | swift => exact failure_of_importText (map_eq_error_iff.mp failed)
  | kotlin =>
    rw [Language.headerText] at failed
    split at failed
    · rcases bind_eq_error_iff.mp failed with unimported | ⟨_, _, impossible⟩
      · exact failure_of_importText (map_eq_error_iff.mp unimported)
      · cases impossible
    · cases failed

/-- Where the schema can be built, writing it fails only at the top of the file. -/
theorem failure_of_generate (package : settings.kotlinPackage.truthy = true)
    (h : generate language.name settings declarations = .error failure) :
    build declarations = .error failure ∨ failure = .notAList := by
  rw [Target.generate_of_package package] at h
  rcases bind_eq_error_iff.mp h with unbuilt | ⟨schema, built, unwritten⟩
  · exact .inl unbuilt
  · right
    rw [Target.Backend.generate_eq] at unwritten
    split at unwritten
    · cases unwritten
    · obtain ⟨records, recorded⟩ :=
        Target.exists_recordTexts (Schema.emittable_of_build built) language
      have failed := map_eq_error_iff.mp unwritten
      rcases bind_eq_error_iff.mp failed with unrecorded | ⟨_, _, failed⟩
      · rw [recorded] at unrecorded
        cases unrecorded
      · rcases bind_eq_error_iff.mp failed with headless | ⟨_, _, impossible⟩
        · exact failure_of_header headless
        · cases impossible

/-- A failure that is reported meets every language alike. -/
theorem generate_fails_alike (package : settings.kotlinPackage.truthy = true)
    (h : generate language.name settings declarations = .error failure)
    (reported : failure.isReported = true) (other : Language) :
    generate other.name settings declarations = .error failure := by
  rcases failure_of_generate package h with unbuilt | rfl
  · rw [Target.generate_of_package package, unbuilt]
    rfl
  · cases reported

/-! ## One language after another -/

variable {job : Job} {progress next stopped : Progress} {ending : Ending}

/-- What emitting one language does: it generates the file and then writes it. -/
theorem emit_eq (package : settings.kotlinPackage.truthy = true)
    (declarations : List Source.Declaration) (language : Language) (job : Job)
    (progress : Progress) :
    ∃ events printed, job.emit settings declarations progress language =
      match generate language.name settings declarations with
      | .error failure => .error (.ofFailure failure, { progress with events })
      | .ok code =>
        match writeTarget progress.tree (job.target language) code with
        | .error fault => .error (.blocked fault, { progress with events })
        | .ok tree => .ok { tree, events, printed } := by
  rw [Job.emit, Target.make_of_package package, Target.generate_of_package package,
    ← Target.generateTraced_snd]
  exact ⟨_, _, rfl⟩

/-- Emitting a language that ends well has generated its file and written it. -/
theorem exists_of_emit_ok (package : settings.kotlinPackage.truthy = true)
    (h : job.emit settings declarations progress language = .ok next) :
    ∃ code, generate language.name settings declarations = .ok code ∧
      progress.tree.Gains next.tree (job.target language).components code := by
  obtain ⟨events, printed, same⟩ := emit_eq package declarations language job progress
  rw [same] at h
  split at h
  · cases h
  · rename_i code generated
    split at h
    · cases h
    · rename_i after wrote
      cases h
      exact ⟨code, generated, gains_of_writeTarget wrote⟩

/-- Emitting a language ends well where its file can be generated and written. -/
theorem exists_emit_ok (package : settings.kotlinPackage.truthy = true) (job : Job)
    (progress : Progress) {code : String} {after : FileTree}
    (generated : generate language.name settings declarations = .ok code)
    (wrote : writeTarget progress.tree (job.target language) code = .ok after) :
    ∃ next, job.emit settings declarations progress language = .ok next ∧ next.tree = after := by
  obtain ⟨events, printed, same⟩ := emit_eq package declarations language job progress
  simp only [generated, wrote] at same
  exact ⟨_, same, rfl⟩

/-- Emitting a language that fails has written nothing: either the file is not generated, or it
cannot be written. -/
theorem tree_of_emit_error (package : settings.kotlinPackage.truthy = true)
    (h : job.emit settings declarations progress language = .error (ending, stopped)) :
    stopped.tree = progress.tree ∧
      ((∃ failure, generate language.name settings declarations = .error failure ∧
        ending = .ofFailure failure) ∨ ∃ fault, ending = .blocked fault) := by
  obtain ⟨events, printed, same⟩ := emit_eq package declarations language job progress
  rw [same] at h
  split at h
  · rename_i failure unwritten
    cases h
    exact ⟨rfl, .inl ⟨failure, unwritten, rfl⟩⟩
  · split at h
    · rename_i fault _
      cases h
      exact ⟨rfl, .inr ⟨fault, rfl⟩⟩
    · cases h

/-- Two trees differ by the files of some languages: each of them holds what generation gives, no
other file has changed, and no directory has been made but above these files. -/
structure Job.Wrote (job : Job) (settings : Settings) (declarations : List Source.Declaration)
    (languages : List Language) (before after : FileTree) : Prop where
  written : ∀ language ∈ languages, ∃ code,
    generate language.name settings declarations = .ok code ∧
      after.content? (job.target language).components = some code
  kept : ∀ path, (∀ language ∈ languages, path ≠ (job.target language).components) →
    after.content? path = before.content? path
  directories : before.directories ⊆ after.directories
  made : ∀ directory ∈ after.directories, directory ∉ before.directories →
    ∃ language ∈ languages, directory <+: (job.target language).components.dropLast

theorem Job.Wrote.nil (tree : FileTree) : job.Wrote settings declarations [] tree tree where
  written := by simp
  kept := fun _ _ => rfl
  directories := List.Subset.refl _
  made := fun _ inside outside => absurd inside outside

/-- One more language is written before the others. Where it is among them, its file is written
again; otherwise theirs leave it as it is. -/
theorem Job.Wrote.cons {languages : List Language} {before between after : FileTree} {code : String}
    (generated : generate language.name settings declarations = .ok code)
    (first : before.Gains between (job.target language).components code)
    (rest : job.Wrote settings declarations languages between after) :
    job.Wrote settings declarations (language :: languages) before after where
  written := by
    intro other inside
    by_cases again : other ∈ languages
    · exact rest.written other again
    · obtain rfl : other = language := by simpa [again] using inside
      refine ⟨code, generated, ?_⟩
      rw [rest.kept, first.written]
      intro later member same
      exact again (Job.target_injective same ▸ member)
  kept := by
    intro path apart
    rw [rest.kept path fun other inside => apart other (List.mem_cons_of_mem _ inside)]
    exact first.kept path (apart language List.mem_cons_self)
  directories := List.Subset.trans first.directories rest.directories
  made := by
    intro directory inside outside
    by_cases early : directory ∈ between.directories
    · exact ⟨language, List.mem_cons_self, first.made directory early outside⟩
    · obtain ⟨other, member, above⟩ := rest.made directory inside early
      exact ⟨other, List.mem_cons_of_mem _ member, above⟩

/-- Languages that are all emitted have been written. -/
theorem wrote_of_foldlM (package : settings.kotlinPackage.truthy = true)
    {languages : List Language}
    (h : languages.foldlM (job.emit settings declarations) progress = .ok next) :
    job.Wrote settings declarations languages progress.tree next.tree := by
  induction languages generalizing progress with
  | nil =>
    cases h
    exact Job.Wrote.nil _
  | cons language languages ih =>
    rw [List.foldlM_cons] at h
    obtain ⟨between, emitted, rest⟩ := bind_eq_ok_iff.mp h
    obtain ⟨code, generated, gained⟩ := exists_of_emit_ok package emitted
    exact Job.Wrote.cons generated gained (ih rest)

/-- How the emission of the languages of a job can end, and with which files: it writes all of
them, or it stops at one of them after it has written those before. -/
inductive Job.Emits (job : Job) (settings : Settings) (declarations : List Source.Declaration)
    (tree : FileTree) : Ending × Progress → Prop
  | finished {final : Progress} :
      job.Wrote settings declarations job.languages tree final.tree →
      Emits job settings declarations tree (.success, final)
  | failed {before after : List Language} {language : Language} {failure : Failure}
      {stopped : Progress} :
      job.languages = before ++ language :: after →
      job.Wrote settings declarations before tree stopped.tree →
      (before = [] → stopped.tree = tree) →
      generate language.name settings declarations = .error failure →
      Emits job settings declarations tree (.ofFailure failure, stopped)
  | blocked (fault : FileFault) (stopped : Progress) :
      Emits job settings declarations tree (.blocked fault, stopped)

theorem emits_emitAll (package : settings.kotlinPackage.truthy = true) (progress : Progress) :
    job.Emits settings declarations progress.tree (job.emitAll settings declarations progress) := by
  unfold Job.emitAll
  split
  · rename_i outcome failed
    obtain ⟨before, language, after, state, split, reached, failed⟩ :=
      exists_split_of_foldlM_error failed
    obtain ⟨ending, stopped⟩ := outcome
    obtain ⟨unchanged, ⟨failure, unwritten, rfl⟩ | ⟨fault, rfl⟩⟩ :=
      tree_of_emit_error package failed
    · refine .failed split ?_ ?_ unwritten
      · rw [unchanged]
        exact wrote_of_foldlM package reached
      · rintro rfl
        cases reached
        exact unchanged
    · exact .blocked fault stopped
  · rename_i final emitted
    exact .finished (wrote_of_foldlM package emitted)

theorem Ending.exitCode_eq_zero_iff : ending.exitCode = 0 ↔ ending = .success := by
  cases ending <;> simp [Ending.exitCode]

theorem Ending.ofFailure_ne_success (failure : Failure) : Ending.ofFailure failure ≠ .success := by
  unfold Ending.ofFailure
  split <;> simp

namespace Job.Emits

variable {tree : FileTree} {outcome : Ending × Progress}

/-- A failure that is reported stops emission at the first language: one that has been written
would have failed in the same way. -/
theorem tree_of_reported (h : job.Emits settings declarations tree outcome)
    (package : settings.kotlinPackage.truthy = true) (reported : outcome.1 = .reported failure) :
    outcome.2.tree = tree := by
  cases h with
  | finished _ => cases reported
  | blocked fault stopped => cases reported
  | @failed before after language reason stopped split wrote unchanged unwritten =>
    have shown : reason.isReported = true := by
      by_contra hidden
      rw [Ending.ofFailure, if_neg hidden] at reported
      cases reported
    cases before with
    | nil => exact unchanged rfl
    | cons first before =>
      obtain ⟨code, generated, _⟩ := wrote.written first List.mem_cons_self
      rw [generate_fails_alike package unwritten shown first] at generated
      cases generated

theorem wrote_of_success (h : job.Emits settings declarations tree outcome)
    (success : outcome.1 = .success) :
    job.Wrote settings declarations job.languages tree outcome.2.tree := by
  cases h with
  | finished wrote => exact wrote
  | failed _ _ _ _ => exact absurd success (Ending.ofFailure_ne_success _)
  | blocked fault stopped => cases success

/-- Unless a file is in the way, emission ends well exactly if every language can be generated. -/
theorem blocked_or_success_iff (h : job.Emits settings declarations tree outcome) :
    (∃ fault, outcome.1 = .blocked fault) ∨
      (outcome.1 = .success ↔ ∀ language ∈ job.languages, ∃ code,
        generate language.name settings declarations = .ok code) := by
  cases h with
  | finished wrote =>
    refine .inr (iff_of_true rfl ?_)
    intro language inside
    obtain ⟨code, generated, _⟩ := wrote.written language inside
    exact ⟨code, generated⟩
  | blocked fault stopped => exact .inl ⟨fault, rfl⟩
  | @failed before after language reason stopped split wrote unchanged unwritten =>
    refine .inr (iff_of_false (Ending.ofFailure_ne_success reason) ?_)
    intro each
    have inside : language ∈ job.languages := by
      rw [split]
      exact List.mem_append_right _ List.mem_cons_self
    obtain ⟨code, generated⟩ := each language inside
    rw [unwritten] at generated
    cases generated

end Job.Emits

/-! ## Whole runs -/

variable {tree : FileTree} {current words : List String} {arguments : Arguments}

/-- What a job reads before it writes anything: the document and the settings, from its files. -/
def Job.Reads (job : Job) (tree : FileTree) (settings : Settings)
    (declarations : List Source.Declaration) : Prop :=
  ∃ document config, readJson tree job.document = .ok document ∧
    Source.readDocument document = .ok declarations ∧ readJson tree job.config = .ok config ∧
    Settings.ofJson config = .ok settings ∧ settings.kotlinPackage.truthy = true

theorem inputs_eq_ok_iff :
    job.inputs tree = .ok (settings, declarations) ↔ job.Reads tree settings declarations := by
  unfold Job.inputs Job.Reads
  constructor
  · intro h
    obtain ⟨document, read, h⟩ := bind_eq_ok_iff.mp h
    obtain ⟨config, configured, h⟩ := bind_eq_ok_iff.mp h
    obtain ⟨_, understood, h⟩ := bind_eq_ok_iff.mp h
    obtain ⟨_, required, h⟩ := bind_eq_ok_iff.mp h
    obtain ⟨_, parsed, h⟩ := bind_eq_ok_iff.mp h
    cases h
    refine ⟨document, config, read, mapError_eq_ok_iff.mp parsed, configured,
      mapError_eq_ok_iff.mp understood, ?_⟩
    by_contra unnamed
    rw [Settings.requirePackage, if_neg unnamed] at required
    cases required
  · rintro ⟨document, config, read, parsed, configured, understood, package⟩
    have required : settings.requirePackage = .ok settings.kotlinPackage := by
      rw [Settings.requirePackage, if_pos package]
    refine bind_eq_ok_iff.mpr ⟨document, read, ?_⟩
    refine bind_eq_ok_iff.mpr ⟨config, configured, ?_⟩
    refine bind_eq_ok_iff.mpr ⟨settings, mapError_eq_ok_iff.mpr understood, ?_⟩
    refine bind_eq_ok_iff.mpr ⟨_, mapError_eq_ok_iff.mpr required, ?_⟩
    exact bind_eq_ok_iff.mpr ⟨declarations, mapError_eq_ok_iff.mpr parsed, rfl⟩

theorem Job.Reads.package (reads : job.Reads tree settings declarations) :
    settings.kotlinPackage.truthy = true := by
  obtain ⟨_, _, _, _, _, _, package⟩ := reads
  exact package

theorem Job.Reads.unique {otherSettings : Settings} {otherDeclarations : List Source.Declaration}
    (reads : job.Reads tree settings declarations)
    (others : job.Reads tree otherSettings otherDeclarations) :
    settings = otherSettings ∧ declarations = otherDeclarations := by
  have same := (inputs_eq_ok_iff.mpr reads).symm.trans (inputs_eq_ok_iff.mpr others)
  cases same
  exact ⟨rfl, rfl⟩

theorem ne_success_of_readJson {path : List String} (h : readJson tree path = .error ending) :
    ending ≠ .success := by
  unfold readJson at h
  split at h
  · cases h
    simp
  · split at h <;> cases h
    simp

theorem ne_success_of_inputs (h : job.inputs tree = .error ending) : ending ≠ .success := by
  have ofFailure : ∀ {α : Type} {x : Except Failure α},
      x.mapError Ending.ofFailure = .error ending → ending ≠ .success := by
    intro α x failed
    obtain ⟨failure, _, rfl⟩ := mapError_eq_error_iff.mp failed
    exact Ending.ofFailure_ne_success failure
  rcases bind_eq_error_iff.mp h with failed | ⟨_, _, h⟩
  · exact ne_success_of_readJson failed
  rcases bind_eq_error_iff.mp h with failed | ⟨_, _, h⟩
  · exact ne_success_of_readJson failed
  rcases bind_eq_error_iff.mp h with failed | ⟨_, _, h⟩
  · exact ofFailure failed
  rcases bind_eq_error_iff.mp h with failed | ⟨_, _, h⟩
  · exact ofFailure failed
  rcases bind_eq_error_iff.mp h with failed | ⟨_, _, h⟩
  · exact ofFailure failed
  · cases h

/-- A job stops before it touches the tree, or it reads its inputs and emits its languages. -/
theorem Job.run_cases (job : Job) (tree : FileTree) :
    ((job.run tree).ending ≠ .success ∧ (job.run tree).progress.tree = tree ∧
      ∀ settings declarations, ¬job.Reads tree settings declarations) ∨
    ∃ settings declarations, job.Reads tree settings declarations ∧
      job.Emits settings declarations tree ((job.run tree).ending, (job.run tree).progress) := by
  cases inputs : job.inputs tree with
  | error ending =>
    left
    rw [Job.run, inputs]
    refine ⟨ne_success_of_inputs inputs, rfl, ?_⟩
    intro settings declarations reads
    rw [inputs_eq_ok_iff.mpr reads] at inputs
    cases inputs
  | ok read =>
    right
    obtain ⟨settings, declarations⟩ := read
    have reads := inputs_eq_ok_iff.mp inputs
    refine ⟨settings, declarations, reads, ?_⟩
    rw [Job.run, inputs]
    exact emits_emitAll reads.package { tree, events := [.parsed declarations.length] }

theorem names_of_mapM {names : List String} {languages : List Language}
    (h : names.mapM Language.ofName? = some languages) : languages.map Language.name = names := by
  rw [← List.map_id names]
  refine map_eq_map_of_forall₂ (mapM_eq_some_iff.mp h).flip ?_
  intro language name found
  rw [Language.ofName?] at found
  simpa using List.find?_some found

/-- The languages of a job are those that the command line names, in its order, or all. -/
theorem names_of_ofArguments? (h : Job.ofArguments? tree current arguments = some job) :
    job.languages.map Language.name =
      if arguments.languages = [] then Language.all.map Language.name else arguments.languages := by
  obtain ⟨config, _, h⟩ := Option.bind_eq_some_iff.mp h
  obtain ⟨languages, found, h⟩ := Option.bind_eq_some_iff.mp h
  have named := names_of_mapM found
  have same : job.languages = if languages.isEmpty then Language.all else languages := by
    split at h
    · simp only [Option.ite_none_right_eq_some, Option.some.injEq] at h
      obtain ⟨_, rfl⟩ := h
      rfl
    · cases h
  rw [same, ← named]
  cases languages with
  | nil => rfl
  | cons first rest => simp

/-- **A run writes all of its files or none.** Whatever the command line asks for, a failure of the
document or of the settings ends the run with exit code 1 and leaves the file tree as it was. A run
with exit code 0 has written, for every requested language, the file that generation gives for the
document and the settings, and has changed no other file. Unless a file is in the way, this happens
exactly when both inputs can be read and every requested language can be generated. -/
theorem run_all_or_nothing (read : Arguments.read? {} words = some arguments)
    (noHelp : arguments.help = false)
    (asked : Job.ofArguments? tree current arguments = some job) :
    (∀ failure, (run tree current words).ending = .reported failure →
      (run tree current words).ending.exitCode = 1 ∧
        (run tree current words).progress.tree = tree) ∧
    ((run tree current words).ending.exitCode = 0 →
      ∃ settings declarations, job.Reads tree settings declarations ∧
        job.Wrote settings declarations job.languages tree
          (run tree current words).progress.tree) ∧
    ((∃ fault, (run tree current words).ending = .blocked fault) ∨
      ((run tree current words).ending.exitCode = 0 ↔
        ∃ settings declarations, job.Reads tree settings declarations ∧
          ∀ language ∈ job.languages, ∃ code,
            generate language.name settings declarations = .ok code)) ∧
    job.languages.map Language.name =
      if arguments.languages = [] then Language.all.map Language.name
      else arguments.languages := by
  have same : run tree current words = job.run tree := by
    simp [run, read, noHelp, asked]
  rw [same, Ending.exitCode_eq_zero_iff]
  have code : ∀ failure, (job.run tree).ending = .reported failure →
      (job.run tree).ending.exitCode = 1 := by
    intro failure reported
    rw [reported]
    rfl
  rcases job.run_cases tree with ⟨fails, unchanged, unread⟩ | ⟨settings, declarations, reads, emits⟩
  · refine ⟨fun failure reported => ⟨code failure reported, unchanged⟩,
      fun success => absurd success fails, .inr (iff_of_false fails ?_),
      names_of_ofArguments? asked⟩
    rintro ⟨settings, declarations, reads, _⟩
    exact unread settings declarations reads
  · have package := reads.package
    refine ⟨fun failure reported =>
        ⟨code failure reported, emits.tree_of_reported package reported⟩,
      fun success => ⟨settings, declarations, reads, emits.wrote_of_success success⟩, ?_,
      names_of_ofArguments? asked⟩
    rcases emits.blocked_or_success_iff with blocked | generated
    · exact .inl blocked
    · right
      rw [generated]
      constructor
      · intro each
        exact ⟨settings, declarations, reads, each⟩
      · rintro ⟨_, _, others, each⟩
        obtain ⟨rfl, rfl⟩ := reads.unique others
        exact each

/-- A directory with a document and settings. -/
def sampleTree : FileTree where
  files :=
    [(["work", "app-state.json"],
      "[\x7b\"kind\":\"interface\",\"name\":\"A\"," ++
        "\"properties\":[\x7b\"name\":\"x\",\"type\":\"string\"\x7d]\x7d]"),
    (["work", "config.json"], "\x7b\"kotlin\":\x7b\"packageName\":\"app\"\x7d\x7d")]
  directories := [["work"]]

/-- A command line that names one language twice. -/
def sampleWords : List String :=
  ["-c", "config.json", "-lkotlin", "--lang=swift", "-l", "kotlin", "app-state.json", "out"]

/-- What `sampleWords` says. -/
def sampleArguments : Arguments where
  config := some "config.json"
  languages := ["kotlin", "swift", "kotlin"]
  words := ["app-state.json", "out"]

/-- What `sampleWords` asks for. -/
def sampleJob : Job where
  config := ["work", "config.json"]
  languages := [.kotlin, .swift, .kotlin]
  verbose := false
  document := ["work", "app-state.json"]
  output := ["work", "out"]

theorem exists_sample_inputs : ∃ settings declarations,
    sampleJob.Reads sampleTree settings declarations ∧
      ∀ language : Language, ∃ code, generate language.name settings declarations = .ok code := by
  have complete : Settings.Complete { kotlinPackage := .str "app" } :=
    ⟨by decide, ⟨_, rfl⟩, ⟨_, rfl⟩⟩
  have built : build [.interface "A" [.typed "x" (.primitive .string "string") false]] =
      .ok [.record ⟨"A", [⟨"x", .primitive .string, false⟩]⟩] := by
    cbv
  refine ⟨{ kotlinPackage := .str "app" },
    [.interface "A" [.typed "x" (.primitive .string "string") false]],
    ⟨.arr [.obj [("kind", .str "interface"), ("name", .str "A"),
        ("properties", .arr [.obj [("name", .str "x"), ("type", .str "string")]])]],
      .obj [("kotlin", .obj [("packageName", .str "app")])],
      rfl, by cbv, rfl, rfl, complete.package⟩, ?_⟩
  intro language
  rw [Target.generate_of_complete complete, built]
  exact Target.exists_generate complete (Schema.emittable_of_build built) language []

/-- Nothing is in the way of the three files, whatever they hold. -/
theorem exists_sample_emitted {settings : Settings} {declarations : List Source.Declaration}
    (package : settings.kotlinPackage.truthy = true)
    (each : ∀ language : Language, ∃ code, generate language.name settings declarations = .ok code)
    (events : List Event) :
    ∃ final, sampleJob.languages.foldlM (sampleJob.emit settings declarations)
      { tree := sampleTree, events } = .ok final := by
  obtain ⟨kotlin, kotlinCode⟩ := each .kotlin
  obtain ⟨swift, swiftCode⟩ := each .swift
  have kotlinPath : sampleJob.target .kotlin = ⟨"/", ["work", "out", "kotlin", "AppState.kt"]⟩ := by
    decide +kernel
  have swiftPath : sampleJob.target .swift = ⟨"/", ["work", "out", "swift", "AppState.swift"]⟩ := by
    decide +kernel
  obtain ⟨first, emitFirst, firstTree⟩ := exists_emit_ok package sampleJob
    { tree := sampleTree, events } kotlinCode (by rw [kotlinPath]; rfl)
  obtain ⟨second, emitSecond, secondTree⟩ := exists_emit_ok package sampleJob first swiftCode
    (by rw [swiftPath, firstTree]; rfl)
  obtain ⟨third, emitThird, _⟩ := exists_emit_ok package sampleJob second kotlinCode
    (by rw [kotlinPath, secondTree]; rfl)
  refine ⟨third, ?_⟩
  show [Language.kotlin, .swift, .kotlin].foldlM (sampleJob.emit settings declarations) _ = _
  rw [List.foldlM_cons, emitFirst]
  show [Language.swift, .kotlin].foldlM (sampleJob.emit settings declarations) first = _
  rw [List.foldlM_cons, emitSecond]
  show [Language.kotlin].foldlM (sampleJob.emit settings declarations) second = _
  rw [List.foldlM_cons, emitThird]
  rfl

theorem run_all_or_nothing_sample :
    Arguments.read? {} sampleWords = some sampleArguments ∧ sampleArguments.help = false ∧
      Job.ofArguments? sampleTree ["work"] sampleArguments = some sampleJob ∧
      (run sampleTree ["work"] sampleWords).ending.exitCode = 0 ∧
      ∃ settings declarations, sampleJob.Reads sampleTree settings declarations ∧
        sampleJob.Wrote settings declarations [.kotlin, .swift, .kotlin] sampleTree
          (run sampleTree ["work"] sampleWords).progress.tree := by
  have read : Arguments.read? {} sampleWords = some sampleArguments := rfl
  have asked : Job.ofArguments? sampleTree ["work"] sampleArguments = some sampleJob := rfl
  have success : (run sampleTree ["work"] sampleWords).ending.exitCode = 0 := by
    obtain ⟨settings, declarations, reads, each⟩ := exists_sample_inputs
    obtain ⟨final, emitted⟩ :=
      exists_sample_emitted reads.package each [.parsed declarations.length]
    have same : run sampleTree ["work"] sampleWords = sampleJob.run sampleTree := by
      simp only [run, read, asked]
      rfl
    rw [same, Job.run, inputs_eq_ok_iff.mpr reads]
    show (sampleJob.emitAll settings declarations _).1.exitCode = 0
    rw [Job.emitAll, emitted]
    rfl
  exact ⟨read, rfl, asked, success, (run_all_or_nothing read rfl asked).2.1 success⟩

end Command
end NativeRecords
