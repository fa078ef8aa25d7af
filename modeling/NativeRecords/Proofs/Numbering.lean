/-
# NativeRecords.Proofs.Numbering -- which names are numbered, and with which number

Whether a name is numbered is decided by comparing identifiers, marks included. The languages
reserve different words, so they compare different texts. They decide alike all the same: within one
language marks never tell two identifiers apart, so every comparison comes out as it would without
them. Hence there is one list of written names, each a source name or a numbered one, and every
language puts its own marks on the identifiers of that list.

The numbers come from the same stock of identifiers as the names themselves. A number that was given
to an early name may lead to the very identifier that a later name has on its own, and then the
later name is numbered too, although no name before it has its identifier. This is the only way in
which the first of its kind is numbered, and it takes two names of one identifier among those before
it.
-/
import NativeRecords.Proofs.Identifiers

namespace NativeRecords.Target.Language

variable {language : Language} {taken sources names : List String} {name : String}

/-! ## One list of names for all languages -/

/-- What is written for a name: the name itself, or the name with a number from two on. -/
inductive Written (name : String) : String → Prop
  | own : Written name name
  | numbered {number : Nat} : 2 ≤ number → Written name (numberedName name number)

/-- Whether the identifier of a name is taken does not depend on the language. -/
theorem mem_map_identifier_iff {source : String} :
    language.identifier source ∈ sources.map language.identifier ↔
      plainIdentifier source ∈ sources.map plainIdentifier := by
  simp only [List.mem_map, identifier_eq_iff]

/-- One identifier is chosen, since there is one least number. -/
theorem Chosen.unique {chosen other : String} (h : language.Chosen taken name chosen)
    (h' : language.Chosen taken name other) : chosen = other := by
  cases h with
  | own free =>
    cases h' with
    | own _ => rfl
    | numbered first _ _ _ => exact absurd first free
  | @numbered number first least free skipped =>
    cases h' with
    | own free' => exact absurd first free'
    | @numbered number' _ least' free' skipped' =>
      -- of two numbers the lesser one was skipped in the search for the other
      rcases Nat.lt_trichotomy number number' with less | rfl | less
      · exact absurd (skipped' number least less) free
      · rfl
      · exact absurd (skipped number' least' less) free'

/-- What one language chooses every language chooses: the identifier of the same written name. -/
theorem Chosen.exists_written {chosen : String}
    (h : language.Chosen (sources.map language.identifier) name chosen) :
    ∃ written, Written name written ∧
      ∀ other : Language, other.Chosen (sources.map other.identifier) name
        (other.identifier written) := by
  cases h with
  | own free =>
    rw [mem_map_identifier_iff] at free
    exact ⟨name, .own, fun other => .own (mem_map_identifier_iff.not.mpr free)⟩
  | @numbered number first least free skipped =>
    rw [mem_map_identifier_iff] at first free
    refine ⟨numberedName name number, .numbered least, fun other => ?_⟩
    refine .numbered (mem_map_identifier_iff.mpr first) least
      (mem_map_identifier_iff.not.mpr free) fun lesser from2 less => ?_
    exact mem_map_identifier_iff.mpr (mem_map_identifier_iff.mp (skipped lesser from2 less))

/-- Beside the identifiers of the same names, every language writes the same name. -/
theorem exists_written_of_freeIdentifier (sources : List String) (name : String) :
    ∃ written, Written name written ∧
      ∀ language : Language, language.freeIdentifier (sources.map language.identifier) name
        = language.identifier written := by
  obtain ⟨written, form, chosen⟩ :=
    (chosen_freeIdentifier .swift (sources.map (identifier .swift)) name).exists_written
  exact ⟨written, form, fun language => (chosen_freeIdentifier language _ name).unique
    (chosen language)⟩

/-- The names that are written for names side by side, whatever the language. -/
theorem exists_written_names (names : List String) :
    ∃ sources, List.Forall₂ Written names sources ∧
      ∀ language : Language, language.identifiers names = sources.map language.identifier := by
  induction names using List.reverseRecOn with
  | nil => exact ⟨[], .nil, fun _ => rfl⟩
  | append_singleton names name ih =>
    -- all languages have written `sources` so far, so they find the same identifiers taken
    obtain ⟨sources, forms, same⟩ := ih
    obtain ⟨written, form, chosen⟩ := exists_written_of_freeIdentifier sources name
    refine ⟨sources ++ [written], List.rel_append forms (.cons form .nil), fun language => ?_⟩
    rw [identifiers_concat, same, chosen, List.map_append, List.map_singleton]

/-- **The languages agree on identifiers.** The identifiers of names side by side are the same in
every language once their marks are taken away, and a name that is numbered has the same number in
each. -/
theorem identifiers_agree_under_marks (names : List String) :
    (Language.swift.identifiers names).map unescaped
      = (Language.kotlin.identifiers names).map unescaped ∧
    ∃ sources, List.Forall₂ Written names sources ∧
      ∀ language : Language, language.identifiers names = sources.map language.identifier := by
  obtain ⟨sources, forms, same⟩ := exists_written_names names
  have plain : ∀ language : Language,
      (language.identifiers names).map unescaped = sources.map plainIdentifier := by
    intro language
    rw [same, List.map_map]
    exact List.map_congr_left fun source _ => unescaped_identifier language source
  exact ⟨by rw [plain, plain], sources, forms, same⟩

example : Language.swift.identifiers ["in", "func", "func", "in!"]
      = ["`in`", "`func`", "func_2", "in_"] ∧
    Language.kotlin.identifiers ["in", "func", "func", "in!"]
      = ["`in`", "func", "func_2", "in_"] := by decide +kernel

/-! ## First occurrences -/

/-- The identifiers of the first names do not depend on the names after them. -/
theorem take_identifiers (language : Language) {i : Nat} (bounded : i ≤ names.length) :
    (language.identifiers names).take i = language.identifiers (names.take i) := by
  have length : (language.identifiers (names.take i)).length = i := by
    rw [length_identifiers, List.length_take]
    omega
  obtain ⟨more, appended, _⟩ :=
    language.exists_identifiers_append (names.drop i) (language.identifiers (names.take i))
  have whole : language.identifiers names = language.identifiers (names.take i) ++ more := by
    rw [← appended, identifiers, identifiers, ← List.foldl_append, List.take_append_drop]
  rw [whole, List.take_left' length]

/-- Names of distinct identifiers keep them. -/
theorem identifiers_of_nodup (distinct : (names.map language.identifier).Nodup) :
    language.identifiers names = names.map language.identifier := by
  induction names using List.reverseRecOn with
  | nil => rfl
  | append_singleton names name ih =>
    rw [List.map_append, List.map_singleton] at distinct ⊢
    have free : language.identifier name ∉ names.map language.identifier := by
      intro inside
      exact List.disjoint_of_nodup_append distinct inside (List.mem_singleton.mpr rfl)
    rw [identifiers_concat, ih (List.Nodup.of_append_left distinct)]
    simp [freeIdentifier, free]

/-- A name keeps its identifier exactly if no name before it was given that one. -/
theorem keeps_iff_not_mem (language : Language) {i : Nat} (place : names[i]? = some name) :
    (language.identifiers names)[i]? = some (language.identifier name) ↔
      language.identifier name ∉ (language.identifiers names).take i := by
  obtain ⟨chosen, found, choice⟩ := language.chosen_of_getElem? place
  rw [found, Option.some_inj]
  constructor
  · rintro rfl
    exact choice.not_mem
  · intro free
    exact choice.unique (.own free)

theorem mem_take_iff_getElem? {α : Type} {entries : List α} {entry : α} {i : Nat} :
    entry ∈ entries.take i ↔ ∃ j < i, entries[j]? = some entry := by
  simp [List.mem_iff_getElem?, List.getElem?_take]

/-- The name at this place is the first that has its identifier. -/
structure FirstOccurrence (language : Language) (names : List String) (i : Nat) (name : String) :
    Prop where
  place : names[i]? = some name
  first : ∀ j < i, ∀ other, names[j]? = some other →
    language.identifier other ≠ language.identifier name

/-- The name at this place has found its own identifier taken, and was given a number that makes
this text its identifier. -/
def NumberedInto (language : Language) (names : List String) (j : Nat) (text : String) : Prop :=
  ∃ other number, names[j]? = some other ∧
    language.identifier other ∈ (language.identifiers names).take j ∧ 2 ≤ number ∧
    language.identifier (numberedName other number) = text ∧
    (language.identifiers names)[j]? = some text

/-- An identifier that a name was given, and that is not the name's own, came with a number. -/
theorem numberedInto_of_getElem? {j : Nat} {other text : String} (source : names[j]? = some other)
    (given : (language.identifiers names)[j]? = some text)
    (foreign : language.identifier other ≠ text) : language.NumberedInto names j text := by
  obtain ⟨chosen, found, choice⟩ := language.chosen_of_getElem? source
  rw [given, Option.some_inj] at found
  cases choice with
  | own _ => exact absurd found.symm foreign
  | @numbered number occupied least _ _ =>
    exact ⟨other, number, source, occupied, least, found.symm, given⟩

/-- Among the names before a first occurrence, only a numbered one can have been given its
identifier. -/
theorem FirstOccurrence.mem_take_iff {i : Nat} (h : language.FirstOccurrence names i name) :
    language.identifier name ∈ (language.identifiers names).take i ↔
      ∃ j < i, language.NumberedInto names j (language.identifier name) := by
  rw [mem_take_iff_getElem?]
  constructor
  · rintro ⟨j, less, given⟩
    have bounded : j < names.length := by
      rw [← length_identifiers language]
      exact (List.getElem?_eq_some_iff.mp given).1
    have source : names[j]? = some names[j] := List.getElem?_eq_getElem bounded
    exact ⟨j, less, numberedInto_of_getElem? source given (h.first j less _ source)⟩
  · rintro ⟨j, less, _, _, _, _, _, _, given⟩
    exact ⟨j, less, given⟩

/-- **When a first occurrence is renamed.** The first name with an identifier keeps it exactly if no
name before it was numbered into that identifier. In particular it does if the names before it have
distinct identifiers, so that none of them was numbered. -/
theorem first_occurrence_kept_iff {i : Nat} (h : language.FirstOccurrence names i name) :
    ((language.identifiers names)[i]? = some (language.identifier name) ↔
      ¬ ∃ j < i, language.NumberedInto names j (language.identifier name)) ∧
    (((names.take i).map language.identifier).Nodup →
      (language.identifiers names)[i]? = some (language.identifier name)) := by
  have kept := language.keeps_iff_not_mem h.place
  refine ⟨by rw [kept, h.mem_take_iff], fun distinct => kept.mpr ?_⟩
  have bounded : i ≤ names.length := (List.getElem?_eq_some_iff.mp h.place).1.le
  -- the names before kept their own identifiers, and this name has another one
  rw [take_identifiers language bounded, identifiers_of_nodup distinct]
  intro inside
  obtain ⟨other, early, same⟩ := List.mem_map.mp inside
  obtain ⟨j, less, found⟩ := mem_take_iff_getElem?.mp early
  exact h.first j less other found same

theorem first_occurrence_kept_iff_ahead :
    Language.swift.FirstOccurrence ["a-b", "a_b_2", "a_b"] 1 "a_b_2" ∧
      (Language.swift.identifiers ["a-b", "a_b_2", "a_b"])[1]?
        = some (Language.swift.identifier "a_b_2") ∧
      ¬ ∃ j < 1, Language.swift.NumberedInto ["a-b", "a_b_2", "a_b"] j
        (Language.swift.identifier "a_b_2") := by
  have first : Language.swift.FirstOccurrence ["a-b", "a_b_2", "a_b"] 1 "a_b_2" := by
    refine ⟨rfl, fun j less other found => ?_⟩
    obtain rfl : j = 0 := by omega
    cases found
    decide +kernel
  have holds := first_occurrence_kept_iff first
  have kept := holds.2 (by decide +kernel)
  exact ⟨first, kept, holds.1.mp kept⟩

/-- A first occurrence that is renamed: the number given to the second name makes its identifier the
one that the third name has on its own. -/
theorem first_occurrence_renamed :
    (Language.swift.FirstOccurrence ["a-b", "a_b", "a_b_2"] 2 "a_b_2" ∧
      Language.swift.identifier "a_b_2" = "a_b_2" ∧
      (Language.swift.identifiers ["a-b", "a_b", "a_b_2"])[2]? = some "a_b_2_2") ∧
    Language.kotlin.FirstOccurrence ["a-b", "a_b", "a_b_2"] 2 "a_b_2" ∧
      Language.kotlin.identifier "a_b_2" = "a_b_2" ∧
      (Language.kotlin.identifiers ["a-b", "a_b", "a_b_2"])[2]? = some "a_b_2_2" := by
  have first : ∀ language : Language,
      language.FirstOccurrence ["a-b", "a_b", "a_b_2"] 2 "a_b_2" := by
    refine fun language => ⟨rfl, fun j less other found => ?_⟩
    rw [Ne, identifier_eq_iff]
    obtain rfl | rfl : j = 0 ∨ j = 1 := by omega
    · cases found
      decide +kernel
    · cases found
      decide +kernel
  exact ⟨⟨first .swift, by decide +kernel, by decide +kernel⟩,
    first .kotlin, by decide +kernel, by decide +kernel⟩

end NativeRecords.Target.Language
