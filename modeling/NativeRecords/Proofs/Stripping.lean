/-
# NativeRecords.Proofs.Stripping -- what is left of a type without null

A union offers alternatives, and a member that is a union itself offers its own (`leaves`). Removing
null goes through a union member by member and puts together what is left, as a union again, as the
one member that is left, or as `never` where nothing is. Three things are shown of it.

* It is complete: no null is left at any depth, and a type without null is not touched.
* It undoes the adding of null. A type that null has been added to, however often and wherever among
  the members, is the type it was, and a field of it is optional.
* It keeps all other alternatives in their order. It may add one that was not there: a union of
  nothing but null becomes `never` also where it is a member of another union, and stays there as an
  alternative. No other alternative is added, and none for any other reason (`voids`).
-/
import Mathlib.Data.List.Flatten
import Mathlib.Data.List.Perm.Basic
import NativeRecords.Proofs.Nullability

namespace NativeRecords

namespace Source.Descriptor

open Relation (TransGen)

/-! ## Walks through unions -/

mutual

/-- The alternatives of a type at any depth of unions, named or not. -/
def leaves : Descriptor → List Descriptor
  | .union _ _ members => leavesOf members
  | type => [type]

/-- The alternatives of each of the types. -/
def leavesOf : List Descriptor → List Descriptor
  | [] => []
  | member :: rest => member.leaves ++ leavesOf rest

end

/-- There are members, and all are null or undefined. -/
def isVoid (members : List Descriptor) : Bool := !members.isEmpty && members.all isNullish

mutual

/-- The unions of nothing but null, at any depth of unions. -/
def voids : Descriptor → List Descriptor
  | .union display aliasName members =>
    if isVoid members then [.union display aliasName members] else voidsOf members
  | _ => []

/-- The unions of nothing but null in each of the types. -/
def voidsOf : List Descriptor → List Descriptor
  | [] => []
  | member :: rest => member.voids ++ voidsOf rest

end

/-- The type is neither a union nor null, so that it is its own only alternative and there is no
null to remove. -/
structure IsPlain (type : Descriptor) : Prop where
  leaves : type.leaves = [type]
  voids : type.voids = []
  isNullable : type.isNullable = false
  nonNullable : type.nonNullable = type

/-- What holds of plain types and of null, and of a union if it holds of its members, holds of every
type. -/
theorem union_induction {motive : Descriptor → Prop}
    (plain : ∀ type : Descriptor, type.IsPlain → motive type)
    (nullish : ∀ kind display, motive (.nullish kind display))
    (union : ∀ display aliasName members, (∀ member ∈ members, motive member) →
      motive (.union display aliasName members)) (type : Descriptor) : motive type := by
  cases type with
  | nullish kind display => exact nullish kind display
  | union display aliasName members =>
    exact union display aliasName members fun member _ =>
      union_induction plain nullish union member
  | _ => exact plain _ ⟨rfl, rfl, rfl, rfl⟩

-- The walks over lists of members are those of the library, and so have its lemmas.

theorem leavesOf_eq_flatMap (members : List Descriptor) :
    leavesOf members = members.flatMap leaves := by
  induction members with
  | nil => rfl
  | cons member rest ih => rw [leavesOf, ih, List.flatMap_cons]

theorem voidsOf_eq_flatMap (members : List Descriptor) :
    voidsOf members = members.flatMap voids := by
  induction members with
  | nil => rfl
  | cons member rest ih => rw [voidsOf, ih, List.flatMap_cons]

theorem anyNullable_eq_any (members : List Descriptor) :
    anyNullable members = members.any isNullable := by
  induction members with
  | nil => rfl
  | cons member rest ih => rw [anyNullable, ih, List.any_cons]

theorem exists_of_isNullish {type : Descriptor} (null : type.isNullish = true) :
    ∃ kind display, type = .nullish kind display := by
  cases type <;> cases null
  exact ⟨_, _, rfl⟩

variable {type wider : Descriptor} {members : List Descriptor} {display : String}
  {aliasName : Option String}

/-! ## No null is left -/

theorem isNullable_rebuild (free : ∀ member ∈ members, member.isNullable = false) :
    (rebuild display aliasName members).isNullable = false := by
  have union : anyNullable members = false := by simpa [anyNullable_eq_any] using free
  cases members with
  | nil => rfl
  | cons member rest =>
    rw [rebuild]
    split
    · exact union
    · split
      · exact free member List.mem_cons_self
      · exact union

theorem isNullable_nonNullable (type : Descriptor) : type.nonNullable.isNullable = false := by
  induction type using union_induction with
  | plain type plain => rw [plain.nonNullable, plain.isNullable]
  | nullish kind display => rfl
  | union display aliasName members ih =>
    rw [nonNullable]
    split
    · apply isNullable_rebuild
      rw [stripMembers_eq_map, List.forall_mem_map]
      intro member kept
      exact ih member (mem_remaining.mp kept).1
    · rename_i free
      simpa [isNullable] using free

theorem nonNullable_of_not_nullable (free : type.isNullable = false) : type.nonNullable = type := by
  cases type with
  | nullish kind display => cases free
  | union display aliasName members =>
    rw [isNullable] at free
    rw [nonNullable, free, if_neg Bool.false_ne_true]
  | _ => rfl

theorem isNullish_of_not_nullable (free : type.isNullable = false) : type.isNullish = false := by
  cases type with
  | nullish kind display => cases free
  | _ => rfl

/-- **Removing null is complete and stops.** The type that is left is not nullable, and null is not
among its alternatives at any depth. A type is left as it is exactly if it is not nullable, so
removing null a second time changes nothing. -/
theorem nonNullable_complete_and_stable (type : Descriptor) :
    type.nonNullable.isNullable = false ∧ ¬ type.nonNullable.AdmitsNull ∧
      (type.nonNullable = type ↔ type.isNullable = false) ∧
      type.nonNullable.nonNullable = type.nonNullable := by
  have free := type.isNullable_nonNullable
  refine ⟨free, ?_, ⟨?_, nonNullable_of_not_nullable⟩, nonNullable_of_not_nullable free⟩
  · rw [← isNullable_iff, free]
    exact Bool.false_ne_true
  · intro same
    rw [← same]
    exact free

/-! ## Null that is added -/

/-- The wider type is a union without a name, of the type once and of null and undefined besides, in
any order. -/
inductive WithNull (type : Descriptor) : Descriptor → Prop
  | intro {display : String} {aliasName : Option String} {members nulls : List Descriptor} :
      aliasName.any (· ≠ "") = false → nulls ≠ [] → (∀ null ∈ nulls, null.isNullish = true) →
      members.Perm (type :: nulls) → WithNull type (.union display aliasName members)

theorem anyNullable_of_isNullish {member : Descriptor} (inside : member ∈ members)
    (null : member.isNullish = true) : anyNullable members = true := by
  obtain ⟨kind, display, rfl⟩ := exists_of_isNullish null
  rw [anyNullable_eq_any, List.any_eq_true]
  exact ⟨_, inside, rfl⟩

theorem WithNull.isNullable (added : type.WithNull wider) : wider.isNullable = true := by
  obtain ⟨_, nonempty, null, perm⟩ := added
  obtain ⟨first, inside⟩ := List.exists_mem_of_ne_nil _ nonempty
  have among := perm.mem_iff.mpr (List.mem_cons_of_mem type inside)
  exact anyNullable_of_isNullish among (null first inside)

/-- The type that is left is what is left of the type that null was added to. -/
theorem WithNull.nonNullable_eq (added : type.WithNull wider) :
    wider.nonNullable = type.nonNullable := by
  have nullable := added.isNullable
  obtain @⟨display, aliasName, members, nulls, unnamed, _, null, perm⟩ := added
  have gone : remaining nulls = [] := by simpa [remaining] using null
  rw [Descriptor.isNullable] at nullable
  rw [nonNullable, if_pos nullable, stripMembers_eq_map]
  have left : (remaining members).Perm (remaining (type :: nulls)) := perm.filter _
  rw [remaining_cons, gone] at left
  by_cases nothing : type.isNullish = true
  · -- the type is null as well, and nothing is left of either
    rw [if_pos nothing] at left
    obtain ⟨kind, _, rfl⟩ := exists_of_isNullish nothing
    rw [left.eq_nil]
    rfl
  · -- one member is left, and a union without a name gives it back
    rw [if_neg nothing] at left
    rw [left.eq_singleton, List.map_singleton, rebuild, unnamed, if_neg Bool.false_ne_true]
    rfl

/-- The same after any number of additions. -/
theorem nonNullable_of_transGen (added : TransGen WithNull type wider) :
    wider.isNullable = true ∧ wider.nonNullable = type.nonNullable := by
  induction added with
  | single last => exact ⟨last.isNullable, last.nonNullable_eq⟩
  | tail _ last ih => exact ⟨last.isNullable, last.nonNullable_eq.trans ih.2⟩

/-- **Adding null to a type only makes it optional.** If a type resolves once null is removed from
it, then so does the type with null added to it, any number of times and wherever among the members,
and to the same schema type. A property of that type is an optional field of the schema type,
whether it is marked so or not. -/
theorem added_null_only_makes_optional {resolved : SchemaType}
    (found : type.nonNullable.resolve = .ok resolved) (added : TransGen WithNull type wider) :
    wider.isNullable = true ∧ wider.nonNullable.resolve = .ok resolved ∧
      ∀ name optional,
        Schema.resolveProperty (.typed name wider optional) = .ok ⟨name, resolved, true⟩ := by
  obtain ⟨nullable, same⟩ := nonNullable_of_transGen added
  have resolves : wider.nonNullable.resolve = .ok resolved := by rw [same, found]
  refine ⟨nullable, resolves, ?_⟩
  intro name optional
  rw [Schema.resolveProperty, resolves, nullable, Bool.or_true]
  rfl

/-- `undefined | (Status | null) | null`, where `Status` is an alias that has null among its members
itself. -/
def doublyNullable : Descriptor :=
  .union "undefined | Status | null | null" none [.nullish .undefined "undefined",
    .union "Status | null" none [nullableStatus "Status" (some "Status"), .nullish .null "null"],
    .nullish .null "null"]

theorem added_null_only_makes_optional_twice :
    (nullableStatus "Status" (some "Status")).nonNullable.resolve
        = .ok (.reference .enum "Status") ∧
      TransGen WithNull (nullableStatus "Status" (some "Status")) doublyNullable ∧
      Schema.resolveProperty (.typed "status" doublyNullable false)
        = .ok ⟨"status", .reference .enum "Status", true⟩ := by
  have found : (nullableStatus "Status" (some "Status")).nonNullable.resolve
      = .ok (.reference .enum "Status") := rfl
  have inner : WithNull (nullableStatus "Status" (some "Status")) (.union "Status | null" none
      [nullableStatus "Status" (some "Status"), .nullish .null "null"]) :=
    .intro rfl (List.cons_ne_nil _ _) (by simp [isNullish]) (.refl _)
  have outer : WithNull (.union "Status | null" none
      [nullableStatus "Status" (some "Status"), .nullish .null "null"]) doublyNullable :=
    .intro rfl (List.cons_ne_nil _ _) (by simp [isNullish]) (.swap _ _ _)
  have added := TransGen.tail (.single inner) outer
  exact ⟨found, added, (added_null_only_makes_optional found added).2.2 "status" false⟩

/-! ## Alternatives other than null -/

theorem isVoid_iff : isVoid members = true ↔ members ≠ [] ∧ remaining members = [] := by
  simp [isVoid, remaining]

theorem remaining_ne_nil (left : isVoid members = false) (nonempty : members ≠ []) :
    remaining members ≠ [] := by
  intro gone
  rw [isVoid_iff.mpr ⟨nonempty, gone⟩] at left
  cases left

/-- Nothing is left of a union of nothing but null. -/
theorem nonNullable_of_isVoid (nothing : isVoid members = true) :
    (union display aliasName members).nonNullable = never := by
  obtain ⟨nonempty, gone⟩ := isVoid_iff.mp nothing
  obtain ⟨first, inside⟩ := List.exists_mem_of_ne_nil _ nonempty
  have null : first.isNullish = true := by simpa using List.filter_eq_nil_iff.mp gone first inside
  rw [nonNullable, if_pos (anyNullable_of_isNullish inside null), stripMembers_eq_map, gone]
  rfl

/-- Members that are null do not matter to what null has no part in. -/
theorem flatMap_remaining {f : Descriptor → List Descriptor}
    (nothing : ∀ kind display, f (.nullish kind display) = []) (members : List Descriptor) :
    (remaining members).flatMap f = members.flatMap f := by
  induction members with
  | nil => rfl
  | cons member rest ih =>
    rw [remaining_cons, List.flatMap_cons]
    split
    · rename_i null
      obtain ⟨kind, display, rfl⟩ := exists_of_isNullish null
      rw [nothing, List.nil_append, ih]
    · rw [List.flatMap_cons, ih]

theorem remaining_leaves_union :
    remaining (union display aliasName members).leaves
      = (remaining members).flatMap fun member => remaining member.leaves := by
  rw [flatMap_remaining fun _ _ => rfl, leaves, leavesOf_eq_flatMap, remaining, List.filter_flatMap]
  rfl

theorem voids_union (left : isVoid members = false) :
    (union display aliasName members).voids = (remaining members).flatMap voids := by
  rw [flatMap_remaining fun _ _ => rfl, voids, left, if_neg Bool.false_ne_true, voidsOf_eq_flatMap]

theorem leaves_rebuild (nonempty : members ≠ []) :
    (rebuild display aliasName members).leaves = members.flatMap leaves := by
  rw [← leavesOf_eq_flatMap]
  cases members with
  | nil => contradiction
  | cons member rest =>
    rw [rebuild]
    split
    · rfl
    · split
      · rename_i alone
        rw [List.isEmpty_iff.mp alone, leavesOf, leavesOf, List.append_nil]
      · rfl

/-- What is left of a union offers what is left of its members, unless there is nothing left. -/
theorem leaves_nonNullable_union (left : isVoid members = false) :
    (union display aliasName members).nonNullable.leaves
      = (remaining members).flatMap fun member => member.nonNullable.leaves := by
  rw [nonNullable]
  split
  · rename_i nullable
    have nonempty : members ≠ [] := by
      rintro rfl
      cases nullable
    rw [stripMembers_eq_map, leaves_rebuild (by simpa using remaining_ne_nil left nonempty),
      List.flatMap_map]
  · -- the union is kept as it is, which comes to the same
    rename_i free
    have each : ∀ member ∈ members, member.isNullable = false := by
      simpa [anyNullable_eq_any] using free
    have all : remaining members = members := by
      rw [remaining, List.filter_eq_self]
      intro member inside
      rw [isNullish_of_not_nullable (each member inside)]
      rfl
    rw [all, leaves, leavesOf_eq_flatMap]
    refine List.flatMap_congr fun member inside => ?_
    rw [nonNullable_of_not_nullable (each member inside)]

/-- No alternative other than null is lost, and they stay in order. -/
theorem remaining_leaves_sublist (type : Descriptor) (notNull : type.isNullish = false) :
    (remaining type.leaves).Sublist type.nonNullable.leaves := by
  induction type using union_induction with
  | plain type plain =>
    rw [plain.nonNullable]
    exact List.filter_sublist
  | nullish kind display => cases notNull
  | union display aliasName members ih =>
    rw [remaining_leaves_union]
    by_cases nothing : isVoid members = true
    · rw [(isVoid_iff.mp nothing).2]
      exact List.nil_sublist _
    · rw [leaves_nonNullable_union (by simpa using nothing)]
      refine List.Sublist.flatMap_right _ fun member kept => ?_
      obtain ⟨inside, notNull⟩ := mem_remaining.mp kept
      exact ih member inside notNull

/-- Besides the alternatives other than null there is one `never` for each union of nothing but
null. -/
theorem leaves_nonNullable_perm (type : Descriptor) (notNull : type.isNullish = false) :
    type.nonNullable.leaves.Perm (remaining type.leaves ++ type.voids.map fun _ => never) := by
  induction type using union_induction with
  | plain type plain =>
    rw [plain.nonNullable, plain.leaves, plain.voids, remaining_cons, notNull]
    exact .refl _
  | nullish kind display => cases notNull
  | union display aliasName members ih =>
    rw [remaining_leaves_union]
    by_cases nothing : isVoid members = true
    · -- all members go, and `never` comes in their place
      rw [nonNullable_of_isVoid nothing, (isVoid_iff.mp nothing).2, voids, if_pos nothing]
      exact .refl _
    · have left : isVoid members = false := by simpa using nothing
      rw [leaves_nonNullable_union left, voids_union left, List.map_flatMap]
      have each : ((remaining members).flatMap fun member => member.nonNullable.leaves).Perm
          ((remaining members).flatMap fun member =>
            remaining member.leaves ++ member.voids.map fun _ => never) := by
        refine List.Perm.flatMap_left _ fun member kept => ?_
        obtain ⟨inside, notNull⟩ := mem_remaining.mp kept
        exact ih member inside notNull
      exact each.trans (List.flatMap_append_perm _ _ _).symm

/-- **Removing null keeps every other alternative, and may add `never`.** Of a type with an
alternative other than null, all these are left and in order. What is left has one `never` besides
for each union of nothing but null inside the type, and nothing else. So it offers exactly the
alternatives other than null if and only if there is no such union. -/
theorem alternatives_kept_iff_no_void (type : Descriptor)
    (offers : ∃ leaf ∈ type.leaves, leaf.isNullish = false) :
    (remaining type.leaves).Sublist type.nonNullable.leaves ∧
      type.nonNullable.leaves.Perm (remaining type.leaves ++ type.voids.map fun _ => never) ∧
      (type.nonNullable.leaves = remaining type.leaves ↔ type.voids = []) := by
  have notNull : type.isNullish = false := by
    by_contra null
    obtain ⟨kind, display, rfl⟩ := exists_of_isNullish (by simpa using null)
    obtain ⟨leaf, inside, notNull⟩ := offers
    rw [List.mem_singleton.mp inside] at notNull
    cases notNull
  have kept := type.remaining_leaves_sublist notNull
  have perm := type.leaves_nonNullable_perm notNull
  -- both lists have the same order, so it is enough to count
  have count := perm.length_eq
  rw [List.length_append, List.length_map] at count
  refine ⟨kept, perm, ?_, ?_⟩
  · intro same
    rw [same] at count
    exact List.length_eq_zero_iff.mp (by omega)
  · intro noVoid
    rw [noVoid, List.length_nil] at count
    exact (kept.eq_of_length count.symm).symm

/-- `"on" | ("off" | null) | undefined`. -/
def nestedSwitch : Descriptor :=
  .union "\"on\" | \"off\" | null | undefined" none
    [.literal .string "\"on\"" (some (.text "on")),
      .union "\"off\" | null" none
        [.literal .string "\"off\"" (some (.text "off")), .nullish .null "null"],
      .nullish .undefined "undefined"]

theorem alternatives_kept_iff_no_void_nested :
    (∃ leaf ∈ nestedSwitch.leaves, leaf.isNullish = false) ∧ nestedSwitch.voids = [] ∧
      nestedSwitch.nonNullable.leaves = remaining nestedSwitch.leaves := by
  have offers : ∃ leaf ∈ nestedSwitch.leaves, leaf.isNullish = false := ⟨_, .head _, rfl⟩
  have noVoid : nestedSwitch.voids = [] := rfl
  exact ⟨offers, noVoid, (alternatives_kept_iff_no_void nestedSwitch offers).2.2.mpr noVoid⟩

/-- `string | (null | undefined)`. -/
def textOrNothing : Descriptor :=
  .union "string | null | undefined" none [.primitive .string "string",
    .union "null | undefined" none [.nullish .null "null", .nullish .undefined "undefined"]]

/-- An interface with a property of that type. -/
def textOrNothingDocument : Json :=
  .arr [.obj [("kind", .str "interface"), ("name", .str "Device"), ("properties",
    .arr [.obj [("name", .str "label"), ("type", .obj [("union", .arr [.str "string",
      .obj [("union", .arr [.str "null", .str "undefined"])]])])]])]]

/-- The type that is left has an alternative that was not there. The property is refused, although
text is its only alternative other than null. -/
theorem never_added_for_void_member :
    readDocument textOrNothingDocument
        = .ok [.interface "Device" [.typed "label" textOrNothing false]] ∧
      textOrNothing.leaves = [.primitive .string "string", .nullish .null "null",
        .nullish .undefined "undefined"] ∧
      textOrNothing.nonNullable.leaves = [.primitive .string "string", never] ∧
      textOrNothing.nonNullable.leaves ≠ remaining textOrNothing.leaves ∧
      Schema.resolveProperty (.typed "label" textOrNothing false)
        = .error (.unsupportedType "string | never") := by
  refine ⟨by cbv, rfl, rfl, ?_, ?_⟩
  · intro same
    cases congrArg List.length same
  · rfl

end Source.Descriptor

end NativeRecords
