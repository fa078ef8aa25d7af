/-
# NativeRecords.Text.ControlSequence -- removing terminal control sequences from a text

A control sequence is what a terminal obeys instead of showing it: an escape character and an
opening bracket, then parameter characters, then intermediate characters, then one final character.
The three classes are disjoint, so a text starts with at most one control sequence. What only starts
like one is ordinary text.
-/

namespace NativeRecords

/-- Whether `c` may be a parameter of a control sequence. -/
def isParameterChar (c : Char) : Bool := 0x30 ≤ c.toNat && c.toNat ≤ 0x3F

/-- Whether `c` may stand between the parameters of a control sequence and its end. -/
def isIntermediateChar (c : Char) : Bool := 0x20 ≤ c.toNat && c.toNat ≤ 0x2F

/-- Whether `c` may end a control sequence. -/
def isFinalChar (c : Char) : Bool := 0x40 ≤ c.toNat && c.toNat ≤ 0x7E

/-- What follows the control sequence that a text starts with, if it starts with one. -/
def afterControlSequence? : List Char → Option (List Char)
  | '\x1b' :: '[' :: cs =>
    match (cs.dropWhile isParameterChar).dropWhile isIntermediateChar with
    | [] => none
    | final :: rest => if isFinalChar final then some rest else none
  | _ => none

/-- A control sequence is not empty. -/
theorem length_lt_of_afterControlSequence? {cs rest : List Char}
    (h : afterControlSequence? cs = some rest) : rest.length < cs.length := by
  unfold afterControlSequence? at h
  split at h
  · next cs =>
    split at h
    · simp at h
    · next final tail hdrop =>
      have houter := (List.dropWhile_sublist isIntermediateChar
        (l := cs.dropWhile isParameterChar)).length_le
      have hinner := (List.dropWhile_sublist isParameterChar (l := cs)).length_le
      rw [hdrop] at houter
      split at h
      · cases h
        simp only [List.length_cons] at houter ⊢
        omega
      · simp at h
  · simp at h

/-- The characters of a text that stand outside of control sequences. -/
def visibleChars (cs : List Char) : List Char :=
  match h : afterControlSequence? cs with
  | some rest =>
    have := length_lt_of_afterControlSequence? h
    visibleChars rest
  | none =>
    match cs with
    | [] => []
    | c :: cs => c :: visibleChars cs
termination_by cs.length

/-- A text as it is shown where there is no terminal: without control sequences. What is left is
not searched again, even if it reads like a control sequence. -/
def visibleText (text : String) : String := String.ofList (visibleChars text.toList)

end NativeRecords
