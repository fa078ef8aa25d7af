/-
# NativeRecords.Proofs.Identifiers -- distinct identifiers for names that stand side by side

A name becomes an identifier in three steps: characters that cannot stand in one are replaced, a lead
is put in front where the first character cannot begin one, and a reserved word is put between
marks. Different names may end in one identifier, so a name whose identifier is taken is numbered,
from two on, until its identifier is free.

Nothing in that search bounds the number. It ends because the three steps leave the number readable
at the end of the identifier: different numbers give different identifiers, and only finitely many
are taken. Marks never decide whether two identifiers differ, since a word between marks is reserved
and one without them is not.
-/
import NativeRecords.Proofs.FirstCase

namespace NativeRecords.Target.Language

variable {language : Language} {taken : List String} {name : String}

/-! ## Legal identifiers -/

theorem isWordChar_underscore : isWordChar '_' = true := by decide

theorem isDigitChar_underscore : isDigitChar '_' = false := by decide

theorem isWordChar_of_isDigit {c : Char} (h : c.isDigit = true) : isWordChar c = true := by
  have bounds : '0' ≤ c ∧ c ≤ '9' := by simpa [Char.isDigit, Char.le_def] using h
  have small : c.toNat < 128 := by
    have top : c.toNat ≤ '9'.toNat := bounds.2
    have nine : '9'.toNat = 57 := rfl
    omega
  simp [isWordChar, isAsciiWord, isAsciiDigit, small, bounds]

theorem isWordChar_of_mem_wordChars {chars : List Char} {c : Char} (h : c ∈ wordChars chars) :
    isWordChar c = true := by
  obtain ⟨source, _, rfl⟩ := List.mem_map.mp h
  by_cases word : isWordChar source = true
  · simp [word]
  · simp [word, isWordChar_underscore]

/-- The text consists of word characters and does not start with a digit. -/
structure IsWord (text : String) : Prop where
  nonempty : text ≠ ""
  chars : ∀ c ∈ text.toList, isWordChar c = true
  lead : ∀ c rest, text.toList = c :: rest → isDigitChar c = false

/-- The text is an identifier of the language: a reserved word between marks, or a word that is not
reserved. -/
inductive Legal (language : Language) : String → Prop
  | escaped {word : String} : word ∈ language.reserved → Legal language ("`" ++ word ++ "`")
  | plain {text : String} : IsWord text → text ∉ language.reserved → Legal language text

theorem toList_plainIdentifier (name : String) :
    (plainIdentifier name).toList = withLead (wordChars name.toList) := by
  simp [plainIdentifier]

theorem withLead_ne_nil (chars : List Char) : withLead chars ≠ [] := by
  cases chars with
  | nil => simp [withLead]
  | cons c rest =>
    rw [withLead]
    split <;> simp

theorem isDigitChar_of_withLead {chars rest : List Char} {c : Char}
    (h : withLead chars = c :: rest) : isDigitChar c = false := by
  cases chars with
  | nil =>
    have same : '_' = c := by simpa [withLead] using congrArg List.head? h
    rw [← same, isDigitChar_underscore]
  | cons first others =>
    rw [withLead] at h
    split at h
    · rw [← (List.cons.inj h).1, isDigitChar_underscore]
    · rename_i plain
      rw [← (List.cons.inj h).1]
      simpa using plain

theorem isWord_plainIdentifier (name : String) : IsWord (plainIdentifier name) where
  nonempty := by
    intro empty
    have chars := congrArg String.toList empty
    rw [toList_plainIdentifier] at chars
    exact withLead_ne_nil _ (by simpa using chars)
  chars := by
    intro c inside
    rw [toList_plainIdentifier] at inside
    rcases mem_withLead inside with rfl | inside
    · exact isWordChar_underscore
    · exact isWordChar_of_mem_wordChars inside
  lead := by
    intro c rest split
    rw [toList_plainIdentifier] at split
    exact isDigitChar_of_withLead split

theorem legal_identifier (language : Language) (name : String) :
    language.Legal (language.identifier name) := by
  rw [identifier]
  split
  · rename_i reserved
    exact .escaped reserved
  · rename_i free
    exact .plain (isWord_plainIdentifier name) free

/-! ## Marks -/

/-- The text without the marks around an escaped word. -/
def unescaped (text : String) : String := String.ofList (text.toList.filter (· ≠ '\x60'))

theorem filter_mark {text : String} (word : IsWord text) :
    text.toList.filter (· ≠ '\x60') = text.toList := by
  refine List.filter_eq_self.mpr ?_
  intro c inside
  have isWord := word.chars c inside
  have mark : isWordChar '\x60' = false := by decide
  simp only [decide_eq_true_eq]
  rintro rfl
  simp [mark] at isWord

theorem unescaped_of_isWord {text : String} (word : IsWord text) : unescaped text = text := by
  rw [unescaped, filter_mark word, String.ofList_toList]

theorem unescaped_escapeWord {text : String} (word : IsWord text) :
    unescaped (escapeWord text) = text := by
  have marks : (escapeWord text).toList = '\x60' :: (text.toList ++ ['\x60']) := by
    simp [escapeWord]
  rw [unescaped, marks]
  simp only [List.filter_cons, List.filter_append, filter_mark word]
  simp

/-- Under its marks an identifier is the same in every language. -/
theorem unescaped_identifier (language : Language) (name : String) :
    unescaped (language.identifier name) = plainIdentifier name := by
  have word := isWord_plainIdentifier name
  simp only [identifier]
  split
  · exact unescaped_escapeWord word
  · exact unescaped_of_isWord word

/-- Two identifiers of a language differ if and only if they do without their marks. -/
theorem identifier_eq_iff {name other : String} :
    language.identifier name = language.identifier other ↔
      plainIdentifier name = plainIdentifier other := by
  constructor
  · intro same
    rw [← unescaped_identifier language name, same, unescaped_identifier]
  · intro same
    simp only [identifier, same]

/-! ## Numbers -/

theorem toList_integerText (number : Nat) :
    (integerText number).toList = Nat.toDigits 10 number := by
  have positive : ¬ (number : Int) < 0 := by omega
  simp [integerText, digitsOf, positive]

theorem wordChars_toDigits (number : Nat) :
    wordChars (Nat.toDigits 10 number) = Nat.toDigits 10 number := by
  conv_rhs => rw [← List.map_id (Nat.toDigits 10 number)]
  refine List.map_congr_left fun c inside => ?_
  have digit := Nat.isDigit_of_mem_toDigits (by decide) (by decide) inside
  rw [isWordChar_of_isDigit digit]
  rfl

/-- A lead depends on the first character alone. -/
theorem withLead_append {chars : List Char} (nonempty : chars ≠ []) (more : List Char) :
    withLead (chars ++ more) = withLead chars ++ more := by
  cases chars with
  | nil => contradiction
  | cons c rest =>
    simp only [List.cons_append, withLead]
    split <;> rfl

/-- The number of a numbered name stands at the end of its identifier. -/
theorem toList_plainIdentifier_numberedName (name : String) (number : Nat) :
    (plainIdentifier (numberedName name number)).toList =
      withLead (wordChars (name.toList ++ ['_'])) ++ Nat.toDigits 10 number := by
  have chars : (numberedName name number).toList
      = (name.toList ++ ['_']) ++ Nat.toDigits 10 number := by
    simp [numberedName, toList_integerText]
  have parts : wordChars ((name.toList ++ ['_']) ++ Nat.toDigits 10 number)
      = wordChars (name.toList ++ ['_']) ++ Nat.toDigits 10 number := by
    rw [wordChars, List.map_append]
    exact congrArg _ (wordChars_toDigits number)
  rw [toList_plainIdentifier, chars, parts]
  exact withLead_append (by simp [wordChars]) _

/-- Different numbers give different identifiers. -/
theorem identifier_numberedName_injective (language : Language) (name : String) :
    Function.Injective fun number => language.identifier (numberedName name number) := by
  intro number other same
  have chars := congrArg String.toList (identifier_eq_iff.mp same)
  simp only [toList_plainIdentifier_numberedName] at chars
  have digits := List.append_cancel_left chars
  rw [← Nat.ofDigitChars_ten_toDigits (n := number), digits, Nat.ofDigitChars_ten_toDigits]

/-! ## The search for a free identifier -/

/-- Among one more numbers than identifiers are taken there is one with a free identifier. -/
theorem exists_free_number (language : Language) (taken : List String) (name : String) :
    ∃ n < taken.length + 1, language.identifier (numberedName name (n + 2)) ∉ taken := by
  by_contra allTaken
  push Not at allTaken
  let candidates := (List.range (taken.length + 1)).map fun n =>
    language.identifier (numberedName name (n + 2))
  have distinct : candidates.Nodup := by
    refine List.nodup_range.map fun n m same => ?_
    have numbers := identifier_numberedName_injective language name same
    omega
  have subset : candidates ⊆ taken := by
    intro candidate inside
    obtain ⟨n, inRange, rfl⟩ := List.mem_map.mp inside
    exact allTaken n (List.mem_range.mp inRange)
  have bound := distinct.length_le_of_subset subset
  simp only [candidates, List.length_map, List.length_range] at bound
  omega

/-- The identifier that a name gets beside identifiers that are taken: its own if that is free, and
otherwise that of the least number from two on whose identifier is. -/
inductive Chosen (language : Language) (taken : List String) (name : String) : String → Prop
  | own : language.identifier name ∉ taken → Chosen language taken name (language.identifier name)
  | numbered {number : Nat} : language.identifier name ∈ taken → 2 ≤ number →
      language.identifier (numberedName name number) ∉ taken →
      (∀ lesser, 2 ≤ lesser → lesser < number →
        language.identifier (numberedName name lesser) ∈ taken) →
      Chosen language taken name (language.identifier (numberedName name number))

/-- A search through the numbers below a bound stops at the least one that has an answer. -/
theorem exists_least_of_findSome? {α : Type} {f : Nat → Option α} {bound : Nat} {answer : α}
    (h : (List.range bound).findSome? f = some answer) :
    ∃ n, f n = some answer ∧ ∀ lesser < n, f lesser = none := by
  obtain ⟨before, n, after, split, found, skipped⟩ := List.findSome?_eq_some_iff.mp h
  refine ⟨n, found, fun lesser less => skipped lesser ?_⟩
  have bounded : n < bound := List.mem_range.mp (by simp [split])
  have inRange : lesser ∈ List.range bound := List.mem_range.mpr (by omega)
  -- the range ascends, so nothing from `n` on is less than `n`
  have ascending : (before ++ n :: after).Pairwise (· < ·) := split ▸ List.pairwise_lt_range
  have later := (List.pairwise_cons.mp (List.pairwise_append.mp ascending).2.1).1
  rw [split, List.mem_append, List.mem_cons] at inRange
  rcases inRange with inside | rfl | inside
  · exact inside
  · omega
  · have greater := later lesser inside
    omega

theorem exists_number_of_taken (first : language.identifier name ∈ taken) :
    ∃ n, language.freeIdentifier taken name = language.identifier (numberedName name (n + 2)) ∧
      language.identifier (numberedName name (n + 2)) ∉ taken ∧
      ∀ lesser < n, language.identifier (numberedName name (lesser + 2)) ∈ taken := by
  simp only [freeIdentifier, if_pos first]
  cases found : (List.range (taken.length + 1)).findSome? fun n =>
      if language.identifier (numberedName name (n + 2)) ∈ taken then none
      else some (language.identifier (numberedName name (n + 2))) with
  | none =>
    obtain ⟨n, bounded, free⟩ := exists_free_number language taken name
    have skipped := List.findSome?_eq_none_iff.mp found n (List.mem_range.mpr bounded)
    simp [free] at skipped
  | some candidate =>
    obtain ⟨n, picked, skipped⟩ := exists_least_of_findSome? found
    have free : language.identifier (numberedName name (n + 2)) ∉ taken := by
      intro inside
      simp [inside] at picked
    refine ⟨n, ?_, free, fun lesser less => ?_⟩
    · simpa [free] using picked.symm
    · simpa using skipped lesser less

theorem chosen_freeIdentifier (language : Language) (taken : List String) (name : String) :
    language.Chosen taken name (language.freeIdentifier taken name) := by
  by_cases first : language.identifier name ∈ taken
  · obtain ⟨n, chosen, free, skipped⟩ := exists_number_of_taken first
    rw [chosen]
    refine .numbered first (by omega) free fun lesser least less => ?_
    have inside := skipped (lesser - 2) (by omega)
    rwa [Nat.sub_add_cancel least] at inside
  · have alone : language.freeIdentifier taken name = language.identifier name := by
      simp [freeIdentifier, first]
    rw [alone]
    exact .own first

/-- One identifier after the other is tried: the search ends at one that is free, and goes on to the
next number from one that is taken. -/
inductive Settles (language : Language) (taken : List String) (name : String) :
    String → Nat → String → Prop
  | free {candidate : String} {number : Nat} : candidate ∉ taken →
      Settles language taken name candidate number candidate
  | next {candidate result : String} {number : Nat} : candidate ∈ taken →
      Settles language taken name (language.identifier (numberedName name number)) (number + 1)
        result →
      Settles language taken name candidate number result

/-- The search goes through the numbers whose identifiers are taken. -/
theorem settles_of_taken {candidate : String} {start gap : Nat} (first : candidate ∈ taken)
    (skipped : ∀ lesser, start ≤ lesser → lesser < start + gap →
      language.identifier (numberedName name lesser) ∈ taken)
    (free : language.identifier (numberedName name (start + gap)) ∉ taken) :
    language.Settles taken name candidate start
      (language.identifier (numberedName name (start + gap))) := by
  induction gap generalizing candidate start with
  | zero => exact .next first (.free free)
  | succ gap ih =>
    have here : language.identifier (numberedName name start) ∈ taken :=
      skipped start (by omega) (by omega)
    have shift : start + (gap + 1) = start + 1 + gap := by omega
    rw [shift] at free ⊢
    refine .next first (ih here (fun lesser least less => ?_) free)
    exact skipped lesser (by omega) (by omega)

/-- The search for the identifier that is chosen ends, and ends there. -/
theorem Chosen.settles {chosen : String} (h : language.Chosen taken name chosen) :
    language.Settles taken name (language.identifier name) 2 chosen := by
  cases h with
  | own free => exact .free free
  | @numbered number first least free skipped =>
    obtain ⟨gap, rfl⟩ := Nat.exists_eq_add_of_le least
    exact settles_of_taken first skipped free

theorem Chosen.not_mem {chosen : String} (h : language.Chosen taken name chosen) :
    chosen ∉ taken := by
  cases h with
  | own free => exact free
  | numbered _ _ free _ => exact free

/-- What is chosen is the identifier of some name. -/
theorem Chosen.exists_identifier {chosen : String} (h : language.Chosen taken name chosen) :
    ∃ source, chosen = language.identifier source := by
  cases h with
  | own _ => exact ⟨name, rfl⟩
  | @numbered number _ _ _ _ => exact ⟨numberedName name number, rfl⟩

/-! ## Names side by side -/

theorem identifiers_concat (language : Language) (names : List String) (name : String) :
    language.identifiers (names ++ [name]) = language.identifiers names
      ++ [language.freeIdentifier (language.identifiers names) name] := by
  simp [identifiers]

/-- The identifiers are distinct, and each is that of some name. -/
theorem nodup_identifiers (language : Language) (names : List String) :
    (language.identifiers names).Nodup ∧
      ∀ entry ∈ language.identifiers names, ∃ source, entry = language.identifier source := by
  induction names using List.reverseRecOn with
  | nil => simp [identifiers]
  | append_singleton names name ih =>
    obtain ⟨distinct, sources⟩ := ih
    have chosen := chosen_freeIdentifier language (language.identifiers names) name
    rw [identifiers_concat]
    constructor
    · refine List.nodup_append.mpr ⟨distinct, List.nodup_singleton _, ?_⟩
      intro entry inside other added same
      rw [List.mem_singleton.mp added] at same
      exact chosen.not_mem (same ▸ inside)
    · intro entry inside
      rcases List.mem_append.mp inside with earlier | added
      · exact sources entry earlier
      · rw [List.mem_singleton.mp added]
        exact chosen.exists_identifier

/-- Marks do not tell identifiers apart. -/
theorem nodup_unescaped_identifiers (language : Language) (names : List String) :
    ((language.identifiers names).map unescaped).Nodup := by
  obtain ⟨distinct, sources⟩ := nodup_identifiers language names
  refine List.Nodup.map_on ?_ distinct
  intro entry inside other inside' same
  obtain ⟨source, rfl⟩ := sources entry inside
  obtain ⟨source', rfl⟩ := sources other inside'
  rw [unescaped_identifier, unescaped_identifier] at same
  exact identifier_eq_iff.mpr same

/-- Each name gets an identifier beside those of the names before it. -/
theorem exists_identifiers_split (language : Language) (before after : List String)
    (name : String) :
    ∃ more, language.identifiers (before ++ name :: after) = language.identifiers before
      ++ language.freeIdentifier (language.identifiers before) name :: more := by
  obtain ⟨more, appended, _⟩ :=
    language.exists_identifiers_append after (language.identifiers (before ++ [name]))
  refine ⟨more, ?_⟩
  have split : before ++ name :: after = (before ++ [name]) ++ after := by simp
  calc language.identifiers (before ++ name :: after)
      = language.identifiers (before ++ [name]) ++ more := by
        rw [split, identifiers, List.foldl_append]
        exact appended
    _ = language.identifiers before
          ++ language.freeIdentifier (language.identifiers before) name :: more := by
        rw [identifiers_concat, List.append_assoc, List.singleton_append]

/-- The identifier of a name in its place. -/
theorem chosen_of_getElem? (language : Language) {names : List String} {i : Nat}
    (h : names[i]? = some name) :
    ∃ chosen, (language.identifiers names)[i]? = some chosen ∧
      language.Chosen ((language.identifiers names).take i) name chosen := by
  obtain ⟨bounded, found⟩ := List.getElem?_eq_some_iff.mp h
  have split : names = names.take i ++ name :: names.drop (i + 1) := by
    rw [← found, List.getElem_cons_drop, List.take_append_drop]
  have length : (language.identifiers (names.take i)).length = i := by
    rw [length_identifiers, List.length_take]
    omega
  obtain ⟨more, parts⟩ :=
    language.exists_identifiers_split (names.take i) (names.drop (i + 1)) name
  rw [← split] at parts
  refine ⟨_, ?_, chosen_freeIdentifier language _ name⟩
  rw [parts]
  simp [length]

/-- **Names that stand side by side get distinct identifiers.** Every name gets a legal identifier,
and no two are the same, with or without their marks. A name keeps its own identifier unless a name
before it has that one; it then gets the identifier of the least number that makes it free. The
search that tries one number after the other always ends, and it ends there. -/
theorem identifiers_distinct_legal_least (language : Language) (names : List String) :
    (language.identifiers names).length = names.length ∧
    (language.identifiers names).Nodup ∧
    ((language.identifiers names).map unescaped).Nodup ∧
    (∀ entry ∈ language.identifiers names, language.Legal entry) ∧
    ∀ i name, names[i]? = some name →
      ∃ chosen, (language.identifiers names)[i]? = some chosen ∧
        language.Chosen ((language.identifiers names).take i) name chosen ∧
        language.Settles ((language.identifiers names).take i) name (language.identifier name) 2
          chosen := by
  obtain ⟨distinct, sources⟩ := nodup_identifiers language names
  refine ⟨length_identifiers language names, distinct, nodup_unescaped_identifiers language names,
    ?_, ?_⟩
  · intro entry inside
    obtain ⟨source, rfl⟩ := sources entry inside
    exact legal_identifier language source
  · intro i name found
    obtain ⟨chosen, place, choice⟩ := chosen_of_getElem? language found
    exact ⟨chosen, place, choice, choice.settles⟩

example : Language.kotlin.identifiers ["a_b", "a-b", "a b", "a_b_2", "", "7", "in", "in"]
    = ["a_b", "a_b_2", "a_b_3", "a_b_2_2", "_", "_7", "`in`", "in_2"] := by decide +kernel

end NativeRecords.Target.Language
