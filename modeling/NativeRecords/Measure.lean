/-
# NativeRecords.Measure -- counts that go down

Two walks of this library follow names and mark them as they go: the expansion of aliases and the
search for an emission order. Both end because each step leaves fewer names without a mark, which
is the one fact about counting stated here.
-/

namespace NativeRecords

/-- If `p` holds of no more elements than `q`, and some element of the list satisfies only `q`,
then fewer elements satisfy `p`. -/
theorem countP_lt_of_mem {α : Type} {p q : α → Bool} {l : List α} {a : α}
    (weaker : ∀ x, p x = true → q x = true) (mem : a ∈ l) (out : p a = false) (into : q a = true) :
    l.countP p < l.countP q := by
  induction l with
  | nil => simp at mem
  | cons x l ih =>
    have tail : l.countP p ≤ l.countP q := List.countP_mono_left fun y _ => weaker y
    have head : (if p x = true then 1 else 0) ≤ (if q x = true then 1 else 0) := by
      by_cases h : p x = true
      · simp [h, weaker x h]
      · simp [h]
    simp only [List.countP_cons]
    rcases List.mem_cons.mp mem with rfl | inside
    · simp only [out, into, if_true]
      simp
      omega
    · have := ih inside
      omega

end NativeRecords
