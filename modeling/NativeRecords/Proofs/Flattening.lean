/-
# NativeRecords.Proofs.Flattening -- the alternatives of a union, each literal once

Flattening goes through the members of a union in order. A member that is a union itself is
flattened first, by a run of its own that drops its own repeated literals, and what is left of it
goes through the outer run, which drops literals again. So a literal is looked at once for every
union around it, each time among other literals.

It is shown here that all this comes to one pass over the leaves of the union. The pass keeps the
first literal of each kind and value, and it keeps everything else (`firstOfEach`). The reason is
that dropping repetitions does not lose a value: whatever is dropped has an equal that is kept.
-/
import NativeRecords.Proofs.Meanings
import NativeRecords.Proofs.Stripping

namespace NativeRecords

/-! ## The first item of each key -/

section FirstOfEach

variable {α β κ μ : Type} [DecidableEq κ] [DecidableEq μ]

/-- Whether the item has a key, and it is the key of an item in the list. -/
def hasKeyOf (key? : α → Option κ) (before : List α) (item : α) : Bool :=
  (key? item).any fun key => before.any fun earlier => key? earlier = some key

/-- The items without each one that has the key of an earlier item. The items in `before` are
earlier than all others; an item without a key is kept. -/
def firstOfEach (key? : α → Option κ) (before : List α) : List α → List α
  | [] => []
  | item :: rest =>
    if hasKeyOf key? before item then firstOfEach key? (before ++ [item]) rest
    else item :: firstOfEach key? (before ++ [item]) rest

variable {key? : α → Option κ} {before before' items : List α} {item : α}

theorem hasKeyOf_iff : hasKeyOf key? before item = true ↔
    ∃ key, key? item = some key ∧ some key ∈ before.map key? := by
  simp [hasKeyOf, Option.any_eq_true]

/-- Of the earlier items only the keys matter. -/
theorem firstOfEach_congr (same : ∀ key, some key ∈ before.map key? ↔ some key ∈ before'.map key?)
    (items : List α) : firstOfEach key? before items = firstOfEach key? before' items := by
  induction items generalizing before before' with
  | nil => rfl
  | cons item rest ih =>
    have repeated : hasKeyOf key? before item = hasKeyOf key? before' item := by
      rw [Bool.eq_iff_iff, hasKeyOf_iff, hasKeyOf_iff]
      simp only [same]
    have next : firstOfEach key? (before ++ [item]) rest =
        firstOfEach key? (before' ++ [item]) rest := by
      apply ih
      intro key
      rw [List.map_append, List.map_append, List.mem_append, List.mem_append, same]
    rw [firstOfEach, firstOfEach, repeated, next]

/-- An item adds nothing to the earlier ones if it has no key or its key is there already. -/
theorem firstOfEach_concat (known : ∀ key, key? item = some key → some key ∈ before.map key?)
    (items : List α) :
    firstOfEach key? (before ++ [item]) items = firstOfEach key? before items := by
  apply firstOfEach_congr
  intro key
  rw [List.map_append, List.mem_append]
  constructor
  · rintro (old | new)
    · exact old
    · exact known key (List.mem_singleton.mp new).symm
  · exact .inl

theorem mem_keys_of_hasKeyOf (repeated : hasKeyOf key? before item = true) (key : κ)
    (own : key? item = some key) : some key ∈ before.map key? := by
  obtain ⟨other, same, there⟩ := hasKeyOf_iff.mp repeated
  rwa [← own, same]

theorem firstOfEach_append (more : List α) : firstOfEach key? before (items ++ more) =
    firstOfEach key? before items ++ firstOfEach key? (before ++ items) more := by
  induction items generalizing before with
  | nil => simp [firstOfEach]
  | cons item rest ih =>
    rw [List.cons_append, firstOfEach, firstOfEach, ih, List.append_assoc, List.singleton_append]
    split
    · rfl
    · rw [List.cons_append]

/-- Every key of the items is the key of one that is kept or of an earlier item. -/
theorem mem_keys_firstOfEach (key : κ) :
    some key ∈ (before ++ firstOfEach key? before items).map key? ↔
      some key ∈ (before ++ items).map key? := by
  induction items generalizing before with
  | nil => rfl
  | cons item rest ih =>
    have all : before ++ item :: rest = (before ++ [item]) ++ rest := by simp
    rw [firstOfEach, all, ← ih]
    split
    · rename_i repeated
      obtain ⟨own, keyed, there⟩ := hasKeyOf_iff.mp repeated
      simp only [List.map_append, List.mem_append, List.map_singleton, List.mem_singleton, keyed]
      constructor
      · rintro (old | new)
        · exact .inl (.inl old)
        · exact .inr new
      · rintro ((old | same) | new)
        · exact .inl old
        · exact .inl (same ▸ there)
        · exact .inr new
    · simp

/-- So those that are kept do as earlier items. -/
theorem firstOfEach_append_firstOfEach (more : List α) :
    firstOfEach key? (before ++ firstOfEach key? before items) more =
      firstOfEach key? (before ++ items) more :=
  firstOfEach_congr mem_keys_firstOfEach more

/-- A second pass that knows of all earlier items makes a first one needless. -/
theorem firstOfEach_firstOfEach {inner : List α}
    (known : ∀ key, some key ∈ inner.map key? → some key ∈ before.map key?) :
    firstOfEach key? before (firstOfEach key? inner items) = firstOfEach key? before items := by
  induction items generalizing before inner with
  | nil => rfl
  | cons item rest ih =>
    have further : ∀ key, some key ∈ (inner ++ [item]).map key? →
        some key ∈ (before ++ [item]).map key? := by
      intro key
      rw [List.map_append, List.map_append, List.mem_append, List.mem_append]
      exact Or.imp_left (known key)
    rw [firstOfEach]
    split
    · -- dropped by the first pass, and the second one would drop it as well
      rename_i repeated
      obtain ⟨key, own, there⟩ := hasKeyOf_iff.mp repeated
      have outer : hasKeyOf key? before item = true := hasKeyOf_iff.mpr ⟨key, own, known key there⟩
      rw [firstOfEach, if_pos outer, ← ih further, firstOfEach_concat (mem_keys_of_hasKeyOf outer)]
    · rw [firstOfEach, firstOfEach, ih further]

/-- Items without a key are all kept. -/
theorem filter_firstOfEach {p : α → Bool} (unkeyed : ∀ item, p item = true → key? item = none) :
    (firstOfEach key? before items).filter p = items.filter p := by
  induction items generalizing before with
  | nil => rfl
  | cons item rest ih =>
    rw [firstOfEach]
    split
    · rename_i repeated
      obtain ⟨key, own, _⟩ := hasKeyOf_iff.mp repeated
      have outside : ¬p item = true := by
        intro inside
        rw [unkeyed item inside] at own
        cases own
      rw [ih, List.filter_cons_of_neg outside]
    · rw [List.filter_cons, List.filter_cons, ih]

/-- Nothing that is kept has the key of an earlier item. -/
theorem hasKeyOf_of_mem_firstOfEach (kept : item ∈ firstOfEach key? before items) :
    ¬hasKeyOf key? before item = true := by
  induction items generalizing before with
  | nil => cases kept
  | cons first rest ih =>
    have later : item ∈ firstOfEach key? (before ++ [first]) rest →
        ¬hasKeyOf key? before item = true := by
      intro kept repeated
      obtain ⟨key, own, there⟩ := hasKeyOf_iff.mp repeated
      refine ih kept (hasKeyOf_iff.mpr ⟨key, own, ?_⟩)
      rw [List.map_append]
      exact List.mem_append_left _ there
    rw [firstOfEach] at kept
    split at kept
    · exact later kept
    · rename_i fresh
      rcases List.mem_cons.mp kept with rfl | kept
      · exact fresh
      · exact later kept

theorem firstOfEach_sublist : (firstOfEach key? before items).Sublist items := by
  induction items generalizing before with
  | nil => exact .slnil
  | cons item rest ih =>
    rw [firstOfEach]
    split
    · exact ih.cons item
    · exact ih.cons_cons item

/-- No two of the items that are kept have one key. -/
theorem pairwise_firstOfEach : (firstOfEach key? before items).Pairwise fun earlier later =>
    ¬∃ key, key? later = some key ∧ key? earlier = some key := by
  induction items generalizing before with
  | nil => exact .nil
  | cons item rest ih =>
    rw [firstOfEach]
    split
    · exact ih
    · refine .cons ?_ ih
      rintro later kept ⟨key, own, same⟩
      refine hasKeyOf_of_mem_firstOfEach kept (hasKeyOf_iff.mpr ⟨key, own, ?_⟩)
      simp [same]

end FirstOfEach

/-! ## Flattening -/

namespace Source.Descriptor

/-- The kind of a literal and what its value means, by which literals are told apart. A literal
without a value is like others without one, and not-a-number is like no other. -/
def literalKey? : Descriptor → Option (LiteralKind × Option RawValue.Meaning)
  | .literal kind _ none => some (kind, none)
  | .literal kind _ (some value) => value.meaning?.map fun meaning => (kind, some meaning)
  | _ => none

/-- Whether this is a literal. -/
def isLiteral : Descriptor → Bool
  | .literal _ _ _ => true
  | _ => false

theorem sameLiteral_literal_iff {kind kind' : LiteralKind} {display display' : String}
    {value value' : Option RawValue} :
    sameLiteral (.literal kind display value) (.literal kind' display' value') = true ↔
      ∃ key, literalKey? (.literal kind display value) = some key ∧
        literalKey? (.literal kind' display' value') = some key := by
  cases value with
  | none => cases value' <;> simp [sameLiteral, sameValue, literalKey?, eq_comm]
  | some v => cases value' with
    | none => simp [sameLiteral, sameValue, literalKey?]
    | some w =>
      simp only [sameLiteral, sameValue, literalKey?, Bool.and_eq_true, decide_eq_true_eq,
        RawValue.same_iff, Option.map_eq_some_iff]
      constructor
      · rintro ⟨rfl, meaning, left, right⟩
        exact ⟨_, ⟨meaning, left, rfl⟩, meaning, right, rfl⟩
      · rintro ⟨_, ⟨meaning, left, rfl⟩, meaning', right, same⟩
        cases same
        exact ⟨rfl, meaning, left, right⟩

/-- Literals are the same exactly if they have one key. -/
theorem sameLiteral_iff {type other : Descriptor} : type.sameLiteral other = true ↔
    ∃ key, type.literalKey? = some key ∧ other.literalKey? = some key := by
  cases type with
  | literal kind display value => cases other with
    | literal kind' display' value' => exact sameLiteral_literal_iff
    | _ => simp [sameLiteral, literalKey?]
  | _ => simp [sameLiteral, literalKey?]

/-- Adding what is new to a list is a pass over the items with the list before them. -/
theorem keepNew_eq (kept items : List Descriptor) :
    keepNew kept items = kept ++ firstOfEach literalKey? kept items := by
  induction items generalizing kept with
  | nil => simp [keepNew, firstOfEach]
  | cons item rest ih =>
    have repeated : kept.any (sameLiteral item) = hasKeyOf literalKey? kept item := by
      rw [Bool.eq_iff_iff, List.any_eq_true, hasKeyOf_iff]
      simp only [sameLiteral_iff, List.mem_map]
      grind
    have step : keepNew kept (item :: rest) =
        keepNew (if hasKeyOf literalKey? kept item then kept else kept ++ [item]) rest := by
      rw [keepNew, List.foldl_cons, repeated]
      rfl
    rw [step, firstOfEach]
    split
    · rename_i known
      rw [ih, firstOfEach_concat (mem_keys_of_hasKeyOf known)]
    · rw [ih, List.append_assoc, List.singleton_append]

/-- Flattening onto a list is a pass over the leaves with the list before them. -/
theorem flattenOnto_eq (kept members : List Descriptor) :
    flattenOnto kept members = kept ++ firstOfEach literalKey? kept (leavesOf members) := by
  fun_induction flattenOnto kept members with
  | case1 kept => simp [leavesOf, firstOfEach]
  | case2 kept display aliasName members rest ihMembers ihRest =>
    -- the nested union went through a pass of its own, which the pass after it makes needless
    have nested : keepNew kept (flattenOnto [] members) =
        kept ++ firstOfEach literalKey? kept (leavesOf members) := by
      rw [keepNew_eq, ihMembers, List.nil_append, firstOfEach_firstOfEach (by simp)]
    rw [ihRest, nested, firstOfEach_append_firstOfEach, leavesOf, leaves, firstOfEach_append,
      List.append_assoc]
  | case3 kept member rest plain ih =>
    have leaf : member.leaves = [member] := by
      cases member with
      | union display aliasName members => exact absurd rfl (plain display aliasName members)
      | _ => rfl
    rw [ih, keepNew_eq, firstOfEach_append_firstOfEach, leavesOf, leaf, firstOfEach_append,
      List.append_assoc]

theorem flatten_eq (members : List Descriptor) :
    flatten members = firstOfEach literalKey? [] (leavesOf members) := by
  rw [flatten, flattenOnto_eq, List.nil_append]

theorem mem_leavesOf_of_flatten {members : List Descriptor} {type : Descriptor}
    (kept : type ∈ flatten members) : type ∈ leavesOf members := by
  rw [flatten_eq] at kept
  exact firstOfEach_sublist.mem kept

theorem literalKey?_eq_none {type : Descriptor} (plain : type.isLiteral = false) :
    type.literalKey? = none := by
  cases type with
  | literal kind display value => cases plain
  | _ => rfl

/-- **Flattening is one pass over the leaves.** The alternatives of a union with these members are
the leaves that its members reach through unions of any depth, in order, without each literal that
has the kind of an earlier literal and a value with the same meaning. Leaves that are no literals
are all there, as often as they occur. -/
theorem flatten_eq_firstOfEach (members : List Descriptor) :
    flatten members = firstOfEach literalKey? [] (leavesOf members) ∧
      (flatten members).filter (!·.isLiteral) = (leavesOf members).filter (!·.isLiteral) := by
  refine ⟨flatten_eq members, ?_⟩
  rw [flatten_eq]
  apply filter_firstOfEach
  intro type plain
  exact literalKey?_eq_none (by simpa using plain)

end Source.Descriptor

end NativeRecords
