/-
# NativeRecords.Proofs.Outcome -- computations that may fail

Every stage of this library answers with a result or with a failure, and goes through a list of
parts by asking each part in turn. A stage that ends well has had an answer from every part: the
lemmas here take a good answer apart, once for each way of putting stages together. Parts are
looked up by their names, which works wherever the names are distinct.
-/
import Mathlib.Data.List.Forall2
import Mathlib.Data.List.Nodup

namespace NativeRecords

variable {ε α β σ : Type}

/-! ## One stage after another -/

/-- Two stages end well when the first does and the second does with its result. -/
theorem bind_eq_ok_iff {x : Except ε α} {f : α → Except ε β} {b : β} :
    (x >>= f) = .ok b ↔ ∃ a, x = .ok a ∧ f a = .ok b := by
  cases x with
  | error failure => simp [bind, Except.bind]
  | ok a => simp [bind, Except.bind]

/-- A changed result comes from a result. -/
theorem map_eq_ok_iff {x : Except ε α} {f : α → β} {b : β} :
    x.map f = .ok b ↔ ∃ a, x = .ok a ∧ f a = b := by
  cases x with
  | error failure => simp [Except.map]
  | ok a => simp [Except.map]

/-- Two stages fail when the first does, or when the second does with its result. -/
theorem bind_eq_error_iff {x : Except ε α} {f : α → Except ε β} {failure : ε} :
    (x >>= f) = .error failure ↔ x = .error failure ∨ ∃ a, x = .ok a ∧ f a = .error failure := by
  cases x with
  | error reason => simp [bind, Except.bind]
  | ok a => simp [bind, Except.bind]

/-- A changed result does not change the failure. -/
theorem map_eq_error_iff {x : Except ε α} {f : α → β} {failure : ε} :
    x.map f = .error failure ↔ x = .error failure := by
  cases x with
  | error reason => simp [Except.map]
  | ok a => simp [Except.map]

/-- A changed failure does not change the result. -/
theorem mapError_eq_ok_iff {x : Except ε α} {f : ε → σ} {a : α} :
    x.mapError f = .ok a ↔ x = .ok a := by
  cases x with
  | error failure => simp [Except.mapError]
  | ok b => simp [Except.mapError]

/-- A changed failure comes from a failure. -/
theorem mapError_eq_error_iff {x : Except ε α} {f : ε → σ} {failure : σ} :
    x.mapError f = .error failure ↔ ∃ reason, x = .error reason ∧ f reason = failure := by
  cases x with
  | error reason => simp [Except.mapError]
  | ok a => simp [Except.mapError]

/-- Changing the result does not change whether there is one. -/
theorem exists_map_eq_ok_iff {x : Except ε α} {f : α → β} :
    (∃ b, x.map f = .ok b) ↔ ∃ a, x = .ok a := by
  cases x with
  | error failure => simp [Except.map]
  | ok a => simp [Except.map]

/-! ## A list of parts -/

/-- A walk over a list ends well when it does at every part, and it gives one result for each. -/
theorem mapM_eq_ok_iff {f : α → Except ε β} {parts : List α} {results : List β} :
    parts.mapM f = .ok results ↔ List.Forall₂ (fun part result => f part = .ok result) parts results := by
  induction parts generalizing results with
  | nil =>
    rw [List.mapM_nil, List.forall₂_nil_left_iff]
    constructor
    · intro h
      cases h
      rfl
    · rintro rfl
      rfl
  | cons part parts ih =>
    rw [List.mapM_cons, bind_eq_ok_iff, List.forall₂_cons_left_iff]
    constructor
    · rintro ⟨result, head, h⟩
      obtain ⟨rest, tail, h⟩ := bind_eq_ok_iff.mp h
      cases h
      exact ⟨result, rest, head, ih.mp tail, rfl⟩
    · rintro ⟨result, rest, head, tail, rfl⟩
      exact ⟨result, head, bind_eq_ok_iff.mpr ⟨rest, ih.mpr tail, rfl⟩⟩

/-- The same for parts that have a result or none. -/
theorem mapM_eq_some_iff {f : α → Option β} {parts : List α} {results : List β} :
    parts.mapM f = some results ↔
      List.Forall₂ (fun part result => f part = some result) parts results := by
  induction parts generalizing results with
  | nil => simp [eq_comm]
  | cons part parts ih =>
    rw [List.mapM_cons, List.forall₂_cons_left_iff]
    constructor
    · intro h
      obtain ⟨result, head, h⟩ := Option.bind_eq_some_iff.mp h
      obtain ⟨rest, tail, h⟩ := Option.bind_eq_some_iff.mp h
      cases h
      exact ⟨result, rest, head, ih.mp tail, rfl⟩
    · rintro ⟨result, rest, head, tail, rfl⟩
      rw [head, ih.mpr tail]
      rfl

/-- If every part has a counterpart, then so has the list of them. -/
theorem exists_forall₂ {R : α → β → Prop} {parts : List α} (each : ∀ part ∈ parts, ∃ b, R part b) :
    ∃ counterparts, List.Forall₂ R parts counterparts := by
  induction parts with
  | nil => exact ⟨[], .nil⟩
  | cons part parts ih =>
    obtain ⟨b, head⟩ := each part List.mem_cons_self
    obtain ⟨rest, tail⟩ := ih fun other inside => each other (List.mem_cons_of_mem part inside)
    exact ⟨b :: rest, .cons head tail⟩

/-- A walk over parts that all have a result ends well. -/
theorem exists_mapM_eq_ok {f : α → Except ε β} {parts : List α}
    (each : ∀ part ∈ parts, ∃ result, f part = .ok result) :
    ∃ results, parts.mapM f = .ok results := by
  obtain ⟨results, found⟩ := exists_forall₂ each
  exact ⟨results, mapM_eq_ok_iff.mpr found⟩

/-- A walk that fails has failed at one of the parts. -/
theorem exists_of_mapM_eq_error {f : α → Except ε β} {parts : List α} {failure : ε}
    (h : parts.mapM f = .error failure) : ∃ part ∈ parts, f part = .error failure := by
  induction parts with
  | nil => cases h
  | cons part parts ih =>
    rw [List.mapM_cons] at h
    rcases bind_eq_error_iff.mp h with head | ⟨result, _, h⟩
    · exact ⟨part, List.mem_cons_self, head⟩
    · rcases bind_eq_error_iff.mp h with tail | ⟨_, _, impossible⟩
      · obtain ⟨other, inside, failed⟩ := ih tail
        exact ⟨other, List.mem_cons_of_mem part inside, failed⟩
      · cases impossible

/-- A walk that changes each result with its part is a walk and then the changes. -/
theorem mapM_map {f : α → Except ε β} {g : α → β → σ} {parts : List α} :
    parts.mapM (fun part => (f part).map (g part)) =
      (parts.mapM f).map (List.zipWith g parts) := by
  induction parts with
  | nil => rfl
  | cons part parts ih =>
    rw [List.mapM_cons, List.mapM_cons, ih]
    cases f part with
    | error failure => rfl
    | ok result =>
      cases parts.mapM f with
      | error failure => rfl
      | ok results => rfl

/-- A walk that hands a state on fails at one of the parts, after those before it have ended well.
-/
theorem exists_split_of_foldlM_error {f : σ → α → Except ε σ} {parts : List α} {start : σ}
    {failure : ε} (h : parts.foldlM f start = .error failure) :
    ∃ before part after state, parts = before ++ part :: after ∧
      before.foldlM f start = .ok state ∧ f state part = .error failure := by
  induction parts generalizing start with
  | nil => cases h
  | cons first parts ih =>
    rw [List.foldlM_cons] at h
    cases step : f start first with
    | error reason =>
      rw [step] at h
      cases h
      exact ⟨[], first, parts, start, rfl, rfl, step⟩
    | ok next =>
      rw [step] at h
      obtain ⟨before, part, after, state, rfl, reached, stopped⟩ := ih h
      refine ⟨first :: before, part, after, state, rfl, ?_, stopped⟩
      rw [List.foldlM_cons, step]
      exact reached

/-! ## Lists that correspond part by part -/

variable {R : α → β → Prop} {as : List α} {bs : List β}

/-- Each part on the left has its counterpart on the right. -/
theorem exists_right_of_forall₂ (h : List.Forall₂ R as bs) {a : α} (inside : a ∈ as) :
    ∃ b ∈ bs, R a b := by
  induction h with
  | nil => simp at inside
  | cons head _ ih =>
    rcases List.mem_cons.mp inside with rfl | inside
    · exact ⟨_, List.mem_cons_self, head⟩
    · obtain ⟨b, member, related⟩ := ih inside
      exact ⟨b, List.mem_cons_of_mem _ member, related⟩

/-- Each part on the right has its counterpart on the left. -/
theorem exists_left_of_forall₂ (h : List.Forall₂ R as bs) {b : β} (inside : b ∈ bs) :
    ∃ a ∈ as, R a b :=
  exists_right_of_forall₂ h.flip inside

/-- Two lists that correspond in two steps correspond through a list between them. -/
theorem exists_between_of_forall₂ {S : α → σ → Prop} {T : σ → β → Prop} (h : List.Forall₂ R as bs)
    (step : ∀ a b, R a b → ∃ c, S a c ∧ T c b) :
    ∃ cs, List.Forall₂ S as cs ∧ List.Forall₂ T cs bs := by
  induction h with
  | nil => exact ⟨[], .nil, .nil⟩
  | cons head _ ih =>
    obtain ⟨c, left, right⟩ := step _ _ head
    obtain ⟨cs, lefts, rights⟩ := ih
    exact ⟨c :: cs, .cons left lefts, .cons right rights⟩

/-- Two lists that correspond through a list between them correspond. -/
theorem forall₂_trans {S : β → σ → Prop} {T : α → σ → Prop} {cs : List σ} (h : List.Forall₂ R as bs)
    (h' : List.Forall₂ S bs cs) (step : ∀ a b c, R a b → S b c → T a c) : List.Forall₂ T as cs := by
  induction h generalizing cs with
  | nil =>
    cases h'
    exact .nil
  | cons head _ ih =>
    cases h' with
    | cons head' tail' => exact .cons (step _ _ _ head head') (ih tail')

/-- What holds between any two parts on the left holds between their counterparts. -/
theorem pairwise_of_forall₂ {S : α → α → Prop} {T : β → β → Prop} (h : List.Forall₂ R as bs)
    (apart : as.Pairwise S) (step : ∀ a b a' b', R a b → R a' b' → S a a' → T b b') :
    bs.Pairwise T := by
  induction h with
  | nil => exact .nil
  | @cons a b as bs head tail ih =>
    rw [List.pairwise_cons] at apart ⊢
    refine ⟨fun b' inside => ?_, ih apart.2⟩
    obtain ⟨a', member, related⟩ := exists_left_of_forall₂ tail inside
    exact step a b a' b' head related (apart.1 a' member)

/-- A walk ends well exactly if it does at every part. -/
theorem exists_mapM_eq_ok_iff {f : α → Except ε β} {parts : List α} :
    (∃ results, parts.mapM f = .ok results) ↔ ∀ part ∈ parts, ∃ result, f part = .ok result := by
  constructor
  · rintro ⟨results, h⟩ part inside
    obtain ⟨result, _, found⟩ := exists_right_of_forall₂ (mapM_eq_ok_iff.mp h) inside
    exact ⟨result, found⟩
  · exact exists_mapM_eq_ok

/-- What corresponding parts have in common the whole lists have in common. -/
theorem map_eq_map_of_forall₂ {f : α → σ} {g : β → σ} (h : List.Forall₂ R as bs)
    (same : ∀ a b, R a b → f a = g b) : as.map f = bs.map g := by
  induction h with
  | nil => rfl
  | cons head _ ih => rw [List.map_cons, List.map_cons, same _ _ head, ih]

/-- Walks that do the same at corresponding parts end alike. -/
theorem mapM_congr_of_forall₂ {f : α → Except ε σ} {g : β → Except ε σ} (h : List.Forall₂ R as bs)
    (same : ∀ a b, R a b → f a = g b) : as.mapM f = bs.mapM g := by
  induction h with
  | nil => rfl
  | cons head _ ih => rw [List.mapM_cons, List.mapM_cons, same _ _ head, ih]

theorem mapM_congr_of_mem {f g : α → Except ε β} {parts : List α}
    (same : ∀ part ∈ parts, f part = g part) : parts.mapM f = parts.mapM g := by
  have paired : List.Forall₂ (fun a b => f a = g b) parts parts := List.forall₂_same.mpr same
  exact mapM_congr_of_forall₂ paired fun _ _ h => h

/-! ## Parts with distinct names -/

/-- Where names are distinct, a part is found by its name. -/
theorem find?_of_distinct {name : α → String} (distinct : (as.map name).Nodup) {a : α}
    (inside : a ∈ as) : as.find? (name · = name a) = some a := by
  cases found : as.find? (name · = name a) with
  | none =>
    have missing := List.find?_eq_none.mp found a inside
    simp at missing
  | some other =>
    have named : name other = name a := by simpa using List.find?_some found
    rw [List.inj_on_of_nodup_map distinct (List.mem_of_find?_eq_some found) inside named]

end NativeRecords
