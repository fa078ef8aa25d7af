/-
# NativeRecords.Proofs.OutputPaths -- where generated files lie

The name of a generated file is made from the last component of the path of the input: cut at a dot,
taken apart at hyphens and underscores, and written with capitals. It then becomes part of a path
again, where a slash, or a name of nothing but dots, would lead somewhere else. None of these can
come up. A component has no slash, no word has a separator, and no capital is any of them unless it
is its own capital. The extension keeps the name from being a dot or two.
-/
import NativeRecords.Command.Run

namespace NativeRecords

/-! ## Pieces between separators -/

section Pieces

variable {isSeparator : Char → Bool} {text piece : List Char}

/-- A piece has characters of the text and no separator. -/
theorem mem_splitAtAny (inside : piece ∈ splitAtAny isSeparator text) {c : Char}
    (member : c ∈ piece) :
    c ∈ text ∧ isSeparator c = false := by
  induction text generalizing piece with
  | nil =>
    rw [splitAtAny, List.mem_singleton] at inside
    simp [inside] at member
  | cons first rest ih =>
    rw [splitAtAny] at inside
    split at inside
    · rcases List.mem_cons.mp inside with rfl | inside
      · simp at member
      · exact (ih inside member).imp_left (List.mem_cons_of_mem first)
    · rename_i plain
      split at inside
      · rw [List.mem_singleton] at inside
        simp_all
      · rename_i head pieces split
        rcases List.mem_cons.mp inside with rfl | inside
        · rcases List.mem_cons.mp member with rfl | member
          · exact ⟨List.mem_cons_self, by simpa using plain⟩
          · have headInside : head ∈ splitAtAny isSeparator rest := split ▸ List.mem_cons_self
            exact (ih headInside member).imp_left (List.mem_cons_of_mem first)
        · have pieceInside : piece ∈ splitAtAny isSeparator rest :=
            split ▸ List.mem_cons_of_mem head inside
          exact (ih pieceInside member).imp_left (List.mem_cons_of_mem first)

/-- A text without separators is one piece. -/
theorem splitAtAny_of_plain (plain : ∀ c ∈ piece, isSeparator c = false) :
    splitAtAny isSeparator piece = [piece] := by
  induction piece with
  | nil => rfl
  | cons c piece ih =>
    rw [List.forall_mem_cons] at plain
    simp [splitAtAny, plain.1, ih plain.2]

/-- A separator ends the first piece. -/
theorem splitAtAny_append {c : Char} (plain : ∀ c ∈ piece, isSeparator c = false)
    (separates : isSeparator c = true) (rest : List Char) :
    splitAtAny isSeparator (piece ++ c :: rest) = piece :: splitAtAny isSeparator rest := by
  induction piece with
  | nil => simp [splitAtAny, separates]
  | cons first piece ih =>
    rw [List.forall_mem_cons] at plain
    simp [splitAtAny, plain.1, ih plain.2]

/-- Pieces that are put together with separators come apart again. -/
theorem splitAtAny_intercalate {c : Char} (separates : isSeparator c = true)
    {pieces : List (List Char)} (some : pieces ≠ [])
    (plain : ∀ piece ∈ pieces, ∀ c ∈ piece, isSeparator c = false) :
    splitAtAny isSeparator ([c].intercalate pieces) = pieces := by
  induction pieces with
  | nil => exact absurd rfl some
  | cons piece pieces ih =>
    rw [List.forall_mem_cons] at plain
    cases pieces with
    | nil => simpa using splitAtAny_of_plain plain.1
    | cons next pieces =>
      rw [List.intercalate_cons_cons, List.append_assoc, List.singleton_append,
        splitAtAny_append plain.1 separates, ih (List.cons_ne_nil _ _) plain.2]

end Pieces

/-! ## Capitals -/

/-- The characters that separate components, words and the extension of a file name. -/
def marks : List Char := ['/', '.', '-', '_']

/-- What a character of an upper-case form can be. -/
theorem mem_upperCase {c d : Char} (inside : d ∈ upperCase c) :
    d = c ∨ (97 ≤ c.toNat ∧ c.toNat ≤ 122 ∧ d = Char.ofNat (c.toNat - 32)) ∨
      (∃ entry ∈ expandedCapitals, ∃ n ∈ entry.2, d = Char.ofNat n) ∨
      ∃ run ∈ caseRuns, run.covers c.toNat = true ∧
        d = Char.ofNat ((c.toNat : Int) + run.offset).toNat := by
  simp only [upperCase] at inside
  by_cases ascii : c.toNat < 128
  · rw [if_pos ascii, List.mem_singleton] at inside
    split at inside
    · rename_i letter
      rw [Bool.and_eq_true, decide_eq_true_eq, decide_eq_true_eq] at letter
      exact .inr (.inl ⟨letter.1, letter.2, inside⟩)
    · exact .inl inside
  · rw [if_neg ascii] at inside
    split at inside
    · rename_i capitals found
      obtain ⟨n, member, rfl⟩ := List.mem_map.mp inside
      obtain ⟨before, after, same, _⟩ := List.lookup_eq_some_iff.mp found
      have entry : (c.toNat, capitals) ∈ expandedCapitals := by simp [same]
      exact .inr (.inr (.inl ⟨_, entry, n, member, rfl⟩))
    · split at inside
      · rename_i run found
        have covers := List.find?_some found
        exact .inr (.inr (.inr ⟨run, List.mem_of_find?_eq_some found, covers,
          List.mem_singleton.mp inside⟩))
      · exact .inl (List.mem_singleton.mp inside)

/-- None of the characters of the run has the mark as its capital. -/
def CaseRun.avoids (run : CaseRun) (mark : Char) : Bool :=
  mark.toNat < run.first + run.offset || run.last + run.offset < mark.toNat

theorem caseRuns_avoid_marks : ∀ run ∈ caseRuns, ∀ mark ∈ marks, run.avoids mark = true := by
  have avoided : (caseRuns.all fun run => marks.all run.avoids) = true := by decide +kernel
  intro run member mark isMark
  exact List.all_eq_true.mp (List.all_eq_true.mp avoided run member) mark isMark

theorem expandedCapitals_avoid_marks :
    ∀ entry ∈ expandedCapitals, ∀ n ∈ entry.2, Char.ofNat n ∉ marks := by
  decide +kernel

/-- A number that is no character does not stand for a mark either. -/
theorem toNat_of_mem_marks {n : Nat} (mark : Char.ofNat n ∈ marks) : (Char.ofNat n).toNat = n := by
  by_cases valid : n.isValidChar
  · rw [Char.ofNat, dif_pos valid]
    rfl
  · have zero : Char.ofNat n = '\x00' := by
      rw [Char.ofNat, dif_neg valid]
      rfl
    rw [zero] at mark
    exact absurd mark (by decide)

/-- No capital is a mark, unless the character is that mark itself. -/
theorem eq_of_mem_upperCase {c mark : Char} (isMark : mark ∈ marks) (inside : mark ∈ upperCase c) :
    mark = c := by
  rcases mem_upperCase inside with same | ⟨low, high, rfl⟩ | ⟨entry, member, n, capital, rfl⟩ |
    ⟨run, member, covers, rfl⟩
  · exact same
  · -- a capital of the alphabet
    have code := toNat_of_mem_marks isMark
    have codes : ∀ mark ∈ marks, mark.toNat < 65 ∨ 90 < mark.toNat := by simp [marks]
    have outside := codes _ isMark
    omega
  · exact absurd isMark (expandedCapitals_avoid_marks entry member n capital)
  · have code := toNat_of_mem_marks isMark
    have avoids := caseRuns_avoid_marks run member _ isMark
    have positive : ∀ mark ∈ marks, 0 < mark.toNat := by simp [marks]
    have nonzero := positive _ isMark
    simp only [CaseRun.avoids, CaseRun.covers, Bool.or_eq_true, Bool.and_eq_true,
      decide_eq_true_eq] at avoids covers
    omega

/-! ## Paths and how they are written -/

namespace Path

/-- A component as it can be written: it has no slash and does not vanish when it is read. -/
def IsWritten (component : String) : Prop :=
  isComponent component = true ∧ '/' ∉ component.toList

theorem isWritten_iff {component : String} :
    IsWritten component ↔ component ≠ "" ∧ component ≠ "." ∧ '/' ∉ component.toList := by
  rw [IsWritten, isComponent, Bool.and_eq_true, decide_eq_true_eq, decide_eq_true_eq, and_assoc]

/-- A path as reading gives it. -/
structure WellFormed (path : Path) : Prop where
  root : path.root ∈ ["", "/", "//"]
  components : ∀ component ∈ path.components, IsWritten component

theorem isWritten_of_componentsOf {text component : String}
    (inside : component ∈ componentsOf text) : IsWritten component := by
  obtain ⟨member, kept⟩ := List.mem_filter.mp inside
  obtain ⟨piece, split, rfl⟩ := List.mem_map.mp member
  refine ⟨kept, fun slash => ?_⟩
  rw [String.toList_ofList] at slash
  simpa using (mem_splitAtAny split slash).2

theorem wellFormed_ofString (text : String) : (ofString text).WellFormed where
  root := by
    show rootOf text ∈ _
    unfold rootOf
    split <;> simp
  components := fun _ inside => isWritten_of_componentsOf inside

/-- A component starts with a character that is no slash. -/
theorem IsWritten.exists_cons {component : String} (written : IsWritten component) :
    ∃ c rest, component.toList = c :: rest ∧ c ≠ '/' := by
  obtain ⟨some, _, plain⟩ := isWritten_iff.mp written
  cases chars : component.toList with
  | nil => exact absurd (String.toList_eq_nil_iff.mp chars) some
  | cons c rest =>
    refine ⟨c, rest, rfl, fun slash => plain ?_⟩
    rw [chars, slash]
    exact List.mem_cons_self

/-- The slashes of a root are no components. -/
theorem componentsOf_append {root : String} (isRoot : root ∈ ["", "/", "//"]) (text : String) :
    componentsOf (root ++ text) = componentsOf text := by
  simp only [List.mem_cons, List.not_mem_nil, or_false] at isRoot
  rcases isRoot with rfl | rfl | rfl <;>
    simp [componentsOf, String.toList_append, splitAtAny, isComponent]

/-- The root of a path is read off the slashes before its first component. -/
theorem rootOf_append {root text : String} (isRoot : root ∈ ["", "/", "//"]) {c : Char}
    {rest : List Char} (start : text.toList = c :: rest) (noSlash : c ≠ '/') :
    rootOf (root ++ text) = root := by
  simp only [List.mem_cons, List.not_mem_nil, or_false] at isRoot
  rcases isRoot with rfl | rfl | rfl <;>
    simp [rootOf, String.toList_append, start, noSlash]

/-- Components that are written one after the other are read as they are. -/
theorem componentsOf_intercalate {components : List String} (some : components ≠ [])
    (written : ∀ component ∈ components, IsWritten component) :
    componentsOf ("/".intercalate components) = components := by
  have split : splitAtAny (· = '/') (['/'].intercalate (components.map String.toList)) =
      components.map String.toList := by
    refine splitAtAny_intercalate rfl (by simpa using some) ?_
    intro piece inside c member
    obtain ⟨component, listed, rfl⟩ := List.mem_map.mp inside
    exact decide_eq_false fun slash => (written component listed).2 (slash ▸ member)
  have kept : components.filter isComponent = components :=
    List.filter_eq_self.mpr fun component inside => (written component inside).1
  calc componentsOf ("/".intercalate components)
      _ = ((components.map String.toList).map String.ofList).filter isComponent := by
        rw [componentsOf, String.toList_intercalate]
        exact congrArg (fun pieces => (pieces.map String.ofList).filter isComponent) split
      _ = components := by simp [Function.comp_def, kept]

theorem IsWritten.exists_intercalate {first : String} (written : IsWritten first)
    (others : List String) :
    ∃ c rest, ("/".intercalate (first :: others)).toList = c :: rest ∧ c ≠ '/' := by
  obtain ⟨c, rest, start, noSlash⟩ := written.exists_cons
  cases others with
  | nil => exact ⟨c, rest, by simpa using start, noSlash⟩
  | cons next others =>
    refine ⟨c, rest ++ '/' :: ("/".intercalate (next :: others)).toList, ?_, noSlash⟩
    simp [String.intercalate_cons_cons, String.toList_append, start]

/-- A path is read as it is written. -/
theorem WellFormed.ofString_toString {path : Path} (wf : path.WellFormed) :
    ofString path.toString = path := by
  obtain ⟨root, components⟩ := path
  obtain ⟨isRoot, written⟩ := wf
  cases components with
  | nil =>
    simp only [List.mem_cons, List.not_mem_nil, or_false] at isRoot
    rcases isRoot with rfl | rfl | rfl <;> decide
  | cons first others =>
    obtain ⟨c, rest, start, noSlash⟩ :=
      (written first List.mem_cons_self).exists_intercalate others
    have some : root ++ "/".intercalate (first :: others) ≠ "" := by
      intro empty
      have chars := congrArg String.toList empty
      simp [String.toList_append, start] at chars
    simp only [toString, if_neg some, ofString]
    rw [rootOf_append isRoot start noSlash, componentsOf_append isRoot,
      componentsOf_intercalate (List.cons_ne_nil _ _) written]

/-- A text that is a component is a path with this one component. -/
theorem IsWritten.ofString_eq {text : String} (written : IsWritten text) :
    ofString text = ⟨"", [text]⟩ := by
  have wf : WellFormed ⟨"", [text]⟩ := ⟨List.mem_cons_self, by simpa using written⟩
  have shown : (Path.mk "" [text]).toString = text := by
    simp [toString, (isWritten_iff.mp written).1]
  rw [← wf.ofString_toString, shown]

theorem WellFormed.join {path below : Path} (wf : path.WellFormed) (wf' : below.WellFormed) :
    (path.join below).WellFormed := by
  unfold Path.join
  split
  · refine ⟨wf.root, ?_⟩
    intro component inside
    rcases List.mem_append.mp inside with inside | inside
    · exact wf.components component inside
    · exact wf'.components component inside
  · exact wf'

theorem mem_stemOf {name : List Char} {c : Char} (inside : c ∈ stemOf name) : c ∈ name := by
  simp only [stemOf] at inside
  split at inside
  · exact inside
  · have start := List.mem_of_mem_drop (List.mem_reverse.mp inside)
    exact List.mem_reverse.mp ((List.dropWhile_sublist _).subset start)

theorem WellFormed.slash_not_mem_stem {path : Path} (wf : path.WellFormed) :
    '/' ∉ path.stem.toList := by
  intro slash
  rw [stem, String.toList_ofList] at slash
  have inside := mem_stemOf slash
  rw [name] at inside
  cases last : path.components.getLast? with
  | none => simp [last] at inside
  | some component =>
    rw [last] at inside
    exact (wf.components component (List.mem_of_getLast? last)).2 inside

end Path

/-! ## The name of a generated file -/

/-- A mark in the name of a generated file stood in the name of the input and separated no words. -/
theorem mem_fileStem {input : String} {mark : Char} (isMark : mark ∈ marks)
    (inside : mark ∈ (fileStem input).toList) :
    mark ∈ (Path.ofString input).stem.toList ∧ isWordSeparator mark = false := by
  rw [fileStem, String.toList_ofList] at inside
  obtain ⟨piece, split, inside⟩ := List.mem_flatMap.mp inside
  refine mem_splitAtAny split ?_
  cases piece with
  | nil => simp [capitalize] at inside
  | cons c rest =>
    rcases List.mem_append.mp inside with capital | inside
    · rw [eq_of_mem_upperCase isMark capital]
      exact List.mem_cons_self
    · exact List.mem_cons_of_mem c inside

theorem slash_not_mem_fileStem (input : String) : '/' ∉ (fileStem input).toList := by
  intro slash
  have stem := (mem_fileStem (by decide) slash).1
  exact (Path.wellFormed_ofString input).slash_not_mem_stem stem

/-- The words of the name are written without what separated them. -/
theorem isWordSeparator_of_mem_fileStem {input : String} {c : Char}
    (inside : c ∈ (fileStem input).toList) : isWordSeparator c = false := by
  by_cases isMark : c ∈ marks
  · exact (mem_fileStem isMark inside).2
  · simp_all [marks, isWordSeparator]

/-- A name with an extension is a component of a path that leads one level down. -/
theorem isWritten_fileName {start extension : String} (plain : '/' ∉ start.toList)
    (letters : extension ≠ "" ∧ '/' ∉ extension.toList ∧ '.' ∉ extension.toList) :
    Path.IsWritten (start ++ "." ++ extension) ∧ start ++ "." ++ extension ≠ ".." := by
  obtain ⟨some, noSlash, noDot⟩ := letters
  have chars : (start ++ "." ++ extension).toList
      = start.toList ++ '.' :: extension.toList := by simp [String.toList_append]
  obtain ⟨letter, inside⟩ : ∃ letter, letter ∈ extension.toList :=
    List.exists_mem_of_ne_nil _ (mt String.toList_eq_nil_iff.mp some)
  -- the extension has a letter that is no dot, and `""`, `"."` and `".."` have none
  have other : ∀ text, (∀ c ∈ text.toList, c = '.') → start ++ "." ++ extension ≠ text := by
    rintro text dots rfl
    have dot : letter = '.' := dots letter (by simp [chars, inside])
    exact noDot (dot ▸ inside)
  refine ⟨Path.isWritten_iff.mpr ⟨other "" (by simp), other "." (by simp), ?_⟩,
    other ".." (by simp)⟩
  rw [chars]
  simp [plain, noSlash]

theorem wellFormed_outputPath (output input language extension : String) :
    (outputPath output input language extension).WellFormed :=
  ((Path.wellFormed_ofString output).join (Path.wellFormed_ofString language)).join
    (Path.wellFormed_ofString _)

/-- The path of a generated file is that of the output directory and two components more. -/
theorem outputPath_eq (output input : String) {language extension : String}
    (directory : Path.IsWritten language)
    (file : Path.IsWritten (fileStem input ++ "." ++ extension)) :
    outputPath output input language extension =
      ⟨(Path.ofString output).root, (Path.ofString output).components ++
        [language, fileStem input ++ "." ++ extension]⟩ := by
  rw [outputPath, directory.ofString_eq, file.ofString_eq]
  simp [Path.join]

namespace Target.Language

theorem isWritten_name (language : Language) :
    Path.IsWritten language.name ∧ language.name ≠ ".." := by
  rw [Path.isWritten_iff]
  cases language <;> decide

theorem isWritten_fileName (language : Language) (input : String) :
    Path.IsWritten (fileStem input ++ "." ++ language.extension) ∧
      fileStem input ++ "." ++ language.extension ≠ ".." := by
  refine NativeRecords.isWritten_fileName (slash_not_mem_fileStem input) ?_
  cases language <;> decide

end Target.Language

/-- **A generated file lies in the directory of its language.** Whatever the output directory and
the input are called, the path of the file has the components of the output directory, the name of
the language and one more: the name made from the input, which has no word separators, and the
extension. From any directory the path leads to that file below the output directory and nowhere
else. -/
theorem output_lies_below (output input : String) (language other : Target.Language) :
    let name := fileStem input ++ "." ++ other.extension
    let path := outputPath output input language.name other.extension
    path.root = (Path.ofString output).root ∧
    path.components = (Path.ofString output).components ++ [language.name, name] ∧
    ('/' ∉ name.toList ∧ name ≠ "" ∧ name ≠ "." ∧ name ≠ "..") ∧
    ('-' ∉ (fileStem input).toList ∧ '_' ∉ (fileStem input).toList) ∧
    Path.ofString path.toString = path ∧
    ∀ current, Command.resolvePath current path.toString =
      Command.resolvePath current output ++ [language.name, name] := by
  intro name path
  obtain ⟨directory, down⟩ := language.isWritten_name
  have file : Path.IsWritten name ∧ name ≠ ".." := other.isWritten_fileName input
  have whole : path = ⟨(Path.ofString output).root, (Path.ofString output).components ++
      [language.name, name]⟩ := outputPath_eq output input directory file.1
  have read : Path.ofString path.toString = path :=
    (wellFormed_outputPath output input language.name other.extension).ofString_toString
  obtain ⟨some, noDot, noSlash⟩ := Path.isWritten_iff.mp file.1
  refine ⟨by rw [whole], by rw [whole], ⟨noSlash, some, noDot, file.2⟩, ⟨?_, ?_⟩, read, ?_⟩
  · exact fun inside => absurd (isWordSeparator_of_mem_fileStem inside) (by decide)
  · exact fun inside => absurd (isWordSeparator_of_mem_fileStem inside) (by decide)
  · intro current
    simp only [Command.resolvePath, read]
    simp [whole, down, file.2]

end NativeRecords
