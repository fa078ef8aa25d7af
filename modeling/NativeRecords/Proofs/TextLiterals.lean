/-
# NativeRecords.Proofs.TextLiterals -- what a target reads in the literal of a text

A text is written between double quotes, with a backslash before each backslash and each quote. A
target reads the characters between the quotes from the left, and a backslash takes the next
character with it. So it does not matter how many backslashes stand in a row or whether the text
ends with one: the body of the literal falls into one piece for each character of the text
(`pieces_flatMap_literalChar`), and all that the target sees is read off these pieces.

Two things are not escaped. A line break stays in the literal as it is, and so does a dollar sign,
which starts a template in Kotlin if a name or a brace comes next. The literal stands for the text
exactly if the text has neither (`literal_denotes_iff`).
-/
import NativeRecords.Target.Render
import Mathlib.Data.List.Infix

namespace NativeRecords.Target.Language

/-! ## Reading a literal -/

/-- What a target reads at once between the quotes of a literal. -/
inductive Piece
  | plain (c : Char)
  | escaped (c : Char)

/-- The pieces of the body of a literal. A backslash with nothing after it stands alone. -/
def pieces : List Char → List Piece
  | [] => []
  | '\\' :: c :: rest => .escaped c :: pieces rest
  | c :: rest => .plain c :: pieces rest

/-- The character that a piece stands for, if all that may be escaped are backslash and quote. -/
def Piece.value? : Piece → Option Char
  | .plain c => if c = '\\' then none else some c
  | .escaped c => if c = '\\' || c = '"' then some c else none

/-- The body of a literal with its escapes undone. -/
def unescape (body : List Char) : Option (List Char) := (pieces body).mapM Piece.value?

/-- No line ends within the characters. -/
def IsOneLine (chars : List Char) : Prop := '\n' ∉ chars ∧ '\r' ∉ chars

section Denotes

variable (isLetter : Char → Bool)

/-- The character makes a template of a dollar sign before it. -/
def StartsTemplate (c : Char) : Prop := isLetter c = true ∨ c = '_' ∨ c = '\x7b'

/-- A template starts among the pieces. -/
def HasTemplate (body : List Piece) : Prop :=
  ∃ c, [.plain '$', .plain c] <:+: body ∧ StartsTemplate isLetter c

/-- Between quotes, the body is a literal on one line that the target reads as the text. -/
structure Denotes (language : Language) (body text : List Char) : Prop where
  closed : Piece.plain '"' ∉ pieces body
  undone : unescape body = some text
  oneLine : IsOneLine body
  noTemplate : language = .kotlin → ¬ HasTemplate isLetter (pieces body)

end Denotes

/-! ## The pieces of a text -/

/-- The piece that a character of a text is written as. -/
def pieceOf (c : Char) : Piece := if c = '\\' || c = '"' then .escaped c else .plain c

theorem ne_of_unmarked {c : Char} (h : ¬ (c = '\\' || c = '"') = true) : c ≠ '\\' ∧ c ≠ '"' := by
  simpa using h

theorem pieces_cons_of_ne {c : Char} (rest : List Char) (h : c ≠ '\\') :
    pieces (c :: rest) = .plain c :: pieces rest := by
  rw [pieces]
  rintro _ _ rfl
  exact absurd rfl h

theorem pieces_flatMap_literalChar (text : List Char) :
    pieces (text.flatMap literalChar) = text.map pieceOf := by
  induction text with
  | nil => rfl
  | cons c text ih =>
    rw [List.flatMap_cons, List.map_cons, literalChar, pieceOf]
    split
    · rw [List.cons_append, List.singleton_append, pieces, ih]
    · rename_i unmarked
      rw [List.singleton_append, pieces_cons_of_ne _ (ne_of_unmarked unmarked).1, ih]

theorem value?_pieceOf (c : Char) : (pieceOf c).value? = some c := by
  rw [pieceOf]
  split
  · rename_i marked
    exact if_pos marked
  · rename_i unmarked
    exact if_neg (ne_of_unmarked unmarked).1

theorem unescape_flatMap_literalChar (text : List Char) :
    unescape (text.flatMap literalChar) = some text := by
  rw [unescape, pieces_flatMap_literalChar]
  induction text with
  | nil => rfl
  | cons c text ih =>
    rw [List.map_cons, List.mapM_cons, value?_pieceOf, ih]
    rfl

theorem pieceOf_eq_plain_iff {c d : Char} :
    pieceOf c = .plain d ↔ c = d ∧ d ≠ '\\' ∧ d ≠ '"' := by
  rw [pieceOf]
  split
  · rename_i marked
    constructor
    · nofun
    · rintro ⟨rfl, noBackslash, noQuote⟩
      simp [noBackslash, noQuote] at marked
  · rename_i unmarked
    constructor
    · rintro ⟨⟩
      exact ⟨rfl, ne_of_unmarked unmarked⟩
    · rintro ⟨rfl, _⟩
      rfl

/-- Every quote of a text is escaped. -/
theorem quote_not_mem_pieces (text : List Char) :
    Piece.plain '"' ∉ pieces (text.flatMap literalChar) := by
  rw [pieces_flatMap_literalChar]
  intro inside
  obtain ⟨c, _, plain⟩ := List.mem_map.mp inside
  exact (pieceOf_eq_plain_iff.mp plain).2.2 rfl

theorem mem_flatMap_literalChar {text : List Char} {c : Char} (h : c ≠ '\\') :
    c ∈ text.flatMap literalChar ↔ c ∈ text := by
  have written (d : Char) : c ∈ literalChar d ↔ c = d := by
    rw [literalChar]
    split <;> simp [h]
  simp [List.mem_flatMap, written]

theorem isOneLine_flatMap_literalChar (text : List Char) :
    IsOneLine (text.flatMap literalChar) ↔ IsOneLine text := by
  rw [IsOneLine, IsOneLine, mem_flatMap_literalChar (by decide),
    mem_flatMap_literalChar (by decide)]

theorem pieces_infix_iff {text : List Char} {c d : Char} :
    [.plain c, .plain d] <:+: pieces (text.flatMap literalChar) ↔
      [c, d] <:+: text ∧ pieceOf c = .plain c ∧ pieceOf d = .plain d := by
  rw [pieces_flatMap_literalChar, List.infix_map_iff]
  constructor
  · rintro ⟨chars, inside, same⟩
    obtain ⟨c', tail, rfl, first, tails⟩ := List.map_eq_cons_iff.mp same.symm
    obtain ⟨d', rest, rfl, second, rests⟩ := List.map_eq_cons_iff.mp tails
    obtain rfl := (pieceOf_eq_plain_iff.mp first).1
    obtain rfl := (pieceOf_eq_plain_iff.mp second).1
    obtain rfl := List.map_eq_nil_iff.mp rests
    exact ⟨inside, first, second⟩
  · rintro ⟨inside, first, second⟩
    exact ⟨[c, d], inside, by rw [List.map_cons, List.map_singleton, first, second]⟩

/-- A template starts in the literal where the text has a dollar sign and the start of one. -/
theorem hasTemplate_pieces_iff {isLetter : Char → Bool} (backslash : isLetter '\\' = false)
    (quote : isLetter '"' = false) (text : List Char) :
    HasTemplate isLetter (pieces (text.flatMap literalChar)) ↔
      ∃ c, ['$', c] <:+: text ∧ StartsTemplate isLetter c := by
  have plain {c : Char} (starts : StartsTemplate isLetter c) : pieceOf c = .plain c := by
    refine pieceOf_eq_plain_iff.mpr ⟨rfl, ?_, ?_⟩
    · rintro rfl
      simp [StartsTemplate, backslash] at starts
    · rintro rfl
      simp [StartsTemplate, quote] at starts
  constructor
  · rintro ⟨c, inside, starts⟩
    exact ⟨c, (pieces_infix_iff.mp inside).1, starts⟩
  · rintro ⟨c, inside, starts⟩
    exact ⟨c, pieces_infix_iff.mpr ⟨inside, rfl, plain starts⟩, starts⟩

/-! ## What the literal stands for -/

/-- **The literal of a text stands for the text unless it has a line break, or in Kotlin the start
of a template.** Undoing the escapes gives the text in any case, and no quote ends the literal
early. -/
theorem literal_denotes_iff {isLetter : Char → Bool} (backslash : isLetter '\\' = false)
    (quote : isLetter '"' = false) (language : Language) (s : String) :
    ∃ body, (literal (some (.text s))).toList = '"' :: body ++ ['"'] ∧
      Piece.plain '"' ∉ pieces body ∧ unescape body = some s.toList ∧
      (Denotes isLetter language body s.toList ↔
        IsOneLine s.toList ∧ (language = .kotlin →
          ¬ ∃ c, ['$', c] <:+: s.toList ∧ StartsTemplate isLetter c)) := by
  have closed := quote_not_mem_pieces s.toList
  have undone := unescape_flatMap_literalChar s.toList
  refine ⟨s.toList.flatMap literalChar, String.toList_ofList, closed, undone, ?_⟩
  rw [← isOneLine_flatMap_literalChar, ← hasTemplate_pieces_iff backslash quote]
  constructor
  · intro denotes
    exact ⟨denotes.oneLine, denotes.noTemplate⟩
  · rintro ⟨oneLine, noTemplate⟩
    exact ⟨closed, undone, oneLine, noTemplate⟩

/-- A price after a quote and a backslash, with a dollar sign that starts no template. -/
theorem literal_denotes_iff_price :
    ∃ body, (literal (some (.text "\"\\$5"))).toList = '"' :: body ++ ['"'] ∧
      Denotes Char.isAlpha .kotlin body ['"', '\\', '$', '5'] := by
  obtain ⟨body, written, _, _, denotes⟩ :=
    @literal_denotes_iff Char.isAlpha rfl rfl .kotlin "\"\\$5"
  refine ⟨body, written, denotes.mpr ⟨⟨by decide, by decide⟩, ?_⟩⟩
  rintro - ⟨c, inside, starts⟩
  have digit : c = '5' := by simpa [List.infix_cons_iff] using inside
  subst digit
  revert starts
  rw [StartsTemplate]
  decide

/-- A line break and the start of a template are written as they are. -/
theorem literal_of_break_and_template :
    literal (some (.text "a\nb")) = "\"a\nb\"" ∧
      literal (some (.text "$x")) = "\"$x\"" ∧
      (∀ language, ¬ Denotes Char.isAlpha language ['a', '\n', 'b'] ['a', '\n', 'b']) ∧
      ¬ Denotes Char.isAlpha .kotlin ['$', 'x'] ['$', 'x'] := by
  refine ⟨by decide, by decide, ?_, ?_⟩
  · intro language denotes
    exact denotes.oneLine.1 (by decide)
  · intro denotes
    exact denotes.noTemplate rfl ⟨'x', List.infix_rfl, .inl rfl⟩

end NativeRecords.Target.Language
