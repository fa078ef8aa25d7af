/-
# NativeRecords.Proofs.MissingParts -- a document that is read leaves nothing out

A property may lack its type, and a schema is not made from such a property. No document gives one:
reading fails at a property without a type and names it. So every type that is read has all its
parts (`isTyped_of_readDocument`), and two things follow. Each has a profile, which shows all that
the type offers. And a schema that cannot be made from a document is refused for a cause in the
document, which is reported (`isReported_of_build`).
-/
import NativeRecords.Proofs.Aliases
import NativeRecords.Proofs.Rearrangement
import NativeRecords.Source.Profile

namespace NativeRecords

namespace Source

/-! ## Types with all their parts -/

/-- The property has a type, and that has all its parts. -/
inductive Property.IsTyped : Property → Prop
  | intro {name : String} {type : Descriptor} {optional : Bool} :
      type.isTyped = true → IsTyped (.typed name type optional)

/-- Whether every property in the declaration has a type. -/
def Declaration.isTyped : Declaration → Bool
  | .enum _ _ => true
  | .interface _ properties => Descriptor.propertiesTyped properties
  | .typeAlias _ type => type.isTyped
  | .untypedAlias _ | .unclassified _ => false

namespace Descriptor

variable {type : Descriptor} {types members : List Descriptor} {display : String}
  {aliasName : Option String}

theorem allTyped_iff : allTyped types = true ↔ ∀ type ∈ types, type.isTyped = true := by
  induction types with
  | nil => simp [allTyped]
  | cons type rest ih => simp [allTyped, ih]

theorem propertiesTyped_iff {properties : List Property} :
    propertiesTyped properties = true ↔ ∀ property ∈ properties, property.IsTyped := by
  induction properties with
  | nil => simp [propertiesTyped]
  | cons property rest ih =>
    rw [List.forall_mem_cons, ← ih]
    cases property with
    | typed name type optional =>
      rw [propertiesTyped, Bool.and_eq_true]
      refine and_congr_left fun _ => ⟨.intro, ?_⟩
      rintro ⟨typed⟩
      exact typed
    | untyped name optional =>
      refine ⟨nofun, ?_⟩
      rintro ⟨⟨⟩, _⟩

theorem isTyped_aliased (name : String) : (type.aliased name).isTyped = type.isTyped := by
  cases type <;> rfl

/-- Removing null takes no part away. -/
theorem isTyped_nonNullable (typed : type.isTyped = true) : type.nonNullable.isTyped = true := by
  induction type using union_induction with
  | plain type plain => rwa [plain.nonNullable]
  | nullish kind display => rfl
  | union display aliasName members ih =>
    rw [isTyped, allTyped_iff] at typed
    have left : ∀ member ∈ stripMembers members, member.isTyped = true := by
      rw [stripMembers_eq_map, List.forall_mem_map]
      intro member kept
      have inside := (mem_remaining.mp kept).1
      exact ih member inside (typed member inside)
    rw [nonNullable]
    split
    · cases kept : stripMembers members with
      | nil => rfl
      | cons member rest =>
        rw [kept] at left
        rw [rebuild]
        split
        · exact allTyped_iff.mpr left
        · split
          · exact left member List.mem_cons_self
          · exact allTyped_iff.mpr left
    · exact allTyped_iff.mpr typed

theorem isTyped_of_mem_leaves (typed : type.isTyped = true) {leaf : Descriptor}
    (inside : leaf ∈ type.leaves) : leaf.isTyped = true := by
  induction type using union_induction with
  | plain type plain =>
    rw [plain.leaves, List.mem_singleton] at inside
    rwa [inside]
  | nullish kind display =>
    rw [List.mem_singleton.mp inside]
    rfl
  | union display aliasName members ih =>
    rw [isTyped, allTyped_iff] at typed
    rw [leaves, leavesOf_eq_flatMap, List.mem_flatMap] at inside
    obtain ⟨member, among, inside⟩ := inside
    exact ih member among (typed member among) inside

theorem allTyped_flatten (typed : allTyped members = true) : allTyped (flatten members) = true := by
  rw [allTyped_iff] at typed ⊢
  intro leaf kept
  have inside := mem_leavesOf_of_flatten kept
  rw [leavesOf_eq_flatMap, List.mem_flatMap] at inside
  obtain ⟨member, among, inside⟩ := inside
  exact isTyped_of_mem_leaves (typed member among) inside

end Descriptor

/-- **What a profile shows.** A union with all its parts has a profile. It says that the union is
nullable exactly if null is an alternative at some depth, what it shows as the type without null has
no such alternative, and it lists the alternatives at all depths in order, of literals with one
value only the first. -/
theorem Profile.exists_make {display : String} {aliasName : Option String}
    {members : List Descriptor} (typed : (Descriptor.union display aliasName members).isTyped = true) :
    ∃ profile, Profile.make (.union display aliasName members) members = .ok profile ∧
      (profile.nullable = true ↔ (Descriptor.union display aliasName members).AdmitsNull) ∧
      ¬profile.nonNullable.AdmitsNull ∧
      profile.alternatives =
        firstOfEach Descriptor.literalKey? [] (Descriptor.union display aliasName members).leaves := by
  have shown : ((Descriptor.union display aliasName members).nonNullable.isTyped &&
      Descriptor.allTyped (Descriptor.flatten members)) = true := by
    rw [Bool.and_eq_true]
    exact ⟨Descriptor.isTyped_nonNullable typed, Descriptor.allTyped_flatten typed⟩
  refine ⟨⟨_, _, _⟩, if_pos shown, Descriptor.isNullable_iff _, ?_, Descriptor.flatten_eq members⟩
  rw [← Descriptor.isNullable_iff, Descriptor.isNullable_nonNullable]
  exact Bool.false_ne_true

/-! ## Types that are read -/

section Classification

variable {refer : String → Except Failure Descriptor}

theorem isTyped_of_builtin? {name : String} {type : Descriptor} (h : builtin? name = some type) :
    type.isTyped = true := by
  unfold builtin? at h
  split at h <;> cases h <;> rfl

theorem isTyped_of_classifyName
    (looked : ∀ name type, refer name = .ok type → type.isTyped = true) {reversed : List Char}
    {type : Descriptor} (h : classifyName refer reversed = .ok type) : type.isTyped = true := by
  induction reversed using classifyName.induct generalizing type with
  | case1 rest ih =>
    rw [classifyName] at h
    obtain ⟨element, found, rfl⟩ := map_eq_ok_iff.mp h
    show element.isTyped = true
    exact ih found
  | case2 reversed plain name builtin =>
    rename_i found
    rw [classifyName_of_builtin? plain found] at h
    cases h
    exact isTyped_of_builtin? found
  | case3 reversed plain name =>
    rename_i missing
    rw [classifyName_of_not_builtin? plain missing] at h
    exact looked _ type h

mutual

/-- An expression is classified only if each property in it has a type. -/
theorem isTyped_of_classify (looked : ∀ name type, refer name = .ok type → type.isTyped = true)
    (expr : TypeExpr) {type : Descriptor} (h : expr.classify refer = .ok type) :
    type.isTyped = true := by
  match expr with
  | .named name =>
    rw [TypeExpr.classify] at h
    exact isTyped_of_classifyName looked h
  | .array element =>
    rw [TypeExpr.classify] at h
    obtain ⟨inner, found, rfl⟩ := map_eq_ok_iff.mp h
    show inner.isTyped = true
    exact isTyped_of_classify looked element found
  | .bareArray =>
    rw [TypeExpr.classify] at h
    cases h
    rfl
  | .generic name arguments =>
    rw [TypeExpr.classify] at h
    obtain ⟨types, found, rfl⟩ := map_eq_ok_iff.mp h
    exact allTyped_of_classifyAll looked arguments found
  | .union members =>
    rw [TypeExpr.classify] at h
    obtain ⟨types, found, rfl⟩ := map_eq_ok_iff.mp h
    exact allTyped_of_classifyAll looked members found
  | .literal value =>
    rw [TypeExpr.classify] at h
    cases h
    cases value <;> rfl
  | .object properties =>
    rw [TypeExpr.classify] at h
    obtain ⟨typed, found, rfl⟩ := map_eq_ok_iff.mp h
    exact propertiesTyped_of_classifyAll looked properties found
  | .malformed failure =>
    rw [TypeExpr.classify] at h
    cases h

theorem allTyped_of_classifyAll (looked : ∀ name type, refer name = .ok type → type.isTyped = true)
    (exprs : List TypeExpr) {types : List Descriptor}
    (h : TypeExpr.classifyAll refer exprs = .ok types) : Descriptor.allTyped types = true := by
  match exprs with
  | [] =>
    rw [TypeExpr.classifyAll] at h
    cases h
    rfl
  | expr :: rest =>
    rw [TypeExpr.classifyAll] at h
    obtain ⟨first, found, h⟩ := bind_eq_ok_iff.mp h
    obtain ⟨others, foundRest, h⟩ := bind_eq_ok_iff.mp h
    cases h
    rw [Descriptor.allTyped, Bool.and_eq_true]
    exact ⟨isTyped_of_classify looked expr found, allTyped_of_classifyAll looked rest foundRest⟩

theorem propertiesTyped_of_classifyAll
    (looked : ∀ name type, refer name = .ok type → type.isTyped = true)
    (exprs : List PropertyExpr) {properties : List Property}
    (h : PropertyExpr.classifyAll refer exprs = .ok properties) :
    Descriptor.propertiesTyped properties = true := by
  match exprs with
  | [] =>
    rw [PropertyExpr.classifyAll] at h
    cases h
    rfl
  | .malformed failure :: rest =>
    rw [PropertyExpr.classifyAll, PropertyExpr.classify] at h
    cases h
  | .typed name expr optional :: rest =>
    rw [PropertyExpr.classifyAll, PropertyExpr.classify] at h
    obtain ⟨first, typed, h⟩ := bind_eq_ok_iff.mp h
    obtain ⟨others, foundRest, h⟩ := bind_eq_ok_iff.mp h
    obtain ⟨type, found, rfl⟩ := map_eq_ok_iff.mp typed
    cases h
    rw [Descriptor.propertiesTyped, Bool.and_eq_true]
    exact ⟨isTyped_of_classify looked expr found,
      propertiesTyped_of_classifyAll looked rest foundRest⟩

end

end Classification

theorem isTyped_of_reference {table : List Outline} {expanding : List String} {name : String}
    {type : Descriptor} (h : reference table expanding name = .ok type) : type.isTyped = true := by
  fun_induction reference table expanding name generalizing type with
  | case6 => cases h
  | case7 expanding name own shaped plain fresh expr found _ ih =>
    obtain ⟨target, classified, rfl⟩ := map_eq_ok_iff.mp h
    rw [Descriptor.isTyped_aliased]
    exact isTyped_of_classify (fun other type looked => ih other looked) expr classified
  | _ =>
    cases h
    rfl

/-- The declarations of a document have all their parts. -/
theorem isTyped_of_readDocument {document : Json} {declarations : List Declaration}
    (read : readDocument document = .ok declarations) {declaration : Declaration}
    (inside : declaration ∈ declarations) : declaration.isTyped = true := by
  obtain ⟨_, table, _, _, classified⟩ := readDocument_eq_ok_iff.mp read
  obtain ⟨outline, _, given⟩ := exists_left_of_forall₂ classified inside
  cases outline with
  | enum name members =>
    obtain ⟨_, _, rfl⟩ := map_eq_ok_iff.mp given
    rfl
  | interface name properties =>
    obtain ⟨_, found, rfl⟩ := map_eq_ok_iff.mp given
    exact propertiesTyped_of_classifyAll (fun _ _ => isTyped_of_reference) properties found
  | typeAlias name shaped aliased =>
    cases aliased with
    | none => cases given
    | some expr =>
      obtain ⟨_, found, rfl⟩ := map_eq_ok_iff.mp given
      exact isTyped_of_classify (fun _ _ => isTyped_of_reference) expr found

end Source

/-! ## Schemas that are refused -/

namespace Schema

variable {name : String} {failure : Failure}

theorem isReported_of_numberMembers {next : Option RawValue} {members : List EnumMember}
    (refused : numberMembers name next members = .error failure) : failure.isReported = true := by
  induction members generalizing next with
  | nil => cases refused
  | cons member rest ih =>
    rw [numberMembers] at refused
    split at refused
    · cases refused
      rfl
    · exact ih (map_eq_error_iff.mp refused)

theorem isReported_of_makeEnum {members : List EnumMember}
    (refused : makeEnum name members = .error failure) : failure.isReported = true := by
  rw [makeEnum] at refused
  split at refused
  · cases refused
    rfl
  · split at refused
    · cases refused
      rfl
    · split at refused <;> cases refused
      rfl

theorem isReported_of_resolveEnum {members : List EnumMember}
    (refused : resolveEnum name members = .error failure) : failure.isReported = true := by
  rcases bind_eq_error_iff.mp refused with uncounted | ⟨_, _, unmade⟩
  · exact isReported_of_numberMembers uncounted
  · exact isReported_of_makeEnum unmade

theorem isReported_of_resolveRecord {properties : List Source.Property}
    (typed : Source.Descriptor.propertiesTyped properties = true)
    (refused : resolveRecord name properties = .error failure) : failure.isReported = true := by
  rw [Source.Descriptor.propertiesTyped_iff] at typed
  rcases failure_of_resolveRecord refused with ⟨_, own, optional, inside⟩ | ⟨display, rfl⟩
  · cases typed _ inside
  · rfl

/-- A declaration with all its parts is refused for a cause that is reported. -/
theorem isReported_of_resolve {declaration : Source.Declaration}
    (typed : declaration.isTyped = true) (refused : resolve declaration = .error failure) :
    failure.isReported = true := by
  cases declaration with
  | enum name members => exact isReported_of_resolveEnum (map_eq_error_iff.mp refused)
  | interface name properties =>
    exact isReported_of_resolveRecord typed (map_eq_error_iff.mp refused)
  | typeAlias name type =>
    rw [resolve] at refused
    unfold resolveAlias at refused
    split at refused
    · split at refused
      · exact isReported_of_makeEnum (map_eq_error_iff.mp refused)
      · cases refused
        rfl
    · exact isReported_of_resolveRecord typed (map_eq_error_iff.mp refused)
    · cases refused
      rfl
  | untypedAlias name => cases typed
  | unclassified name => cases typed

theorem isReported_of_order {declarations : List Declaration}
    (complete : ∀ declaration ∈ declarations, declaration.isComplete = true)
    (refused : order declarations = .error failure) : failure.isReported = true := by
  by_cases distinct : (declarations.map Declaration.name).Nodup
  · rcases order_of_distinct_cases complete distinct with ⟨_, _, circular⟩ | ⟨_, _, ordered⟩
    · rw [circular] at refused
      cases refused
      rfl
    · rw [ordered] at refused
      cases refused
  · obtain ⟨_, _, _, _, _, _, repeated⟩ := order_of_not_distinct distinct
    rw [repeated] at refused
    cases refused
    rfl

/-- **Every failure after the reading is reported.** A document that is read but gives no schema
fails for a cause in the document, which the command reports; no part turns out to be missing. -/
theorem isReported_of_build {document : Json} {declarations : List Source.Declaration}
    (read : Source.readDocument document = .ok declarations)
    (refused : build declarations = .error failure) : failure.isReported = true := by
  rcases bind_eq_error_iff.mp refused with unresolved | ⟨resolved, made, unordered⟩
  · obtain ⟨declaration, inside, unresolved⟩ := exists_of_mapM_eq_error unresolved
    exact isReported_of_resolve (Source.isTyped_of_readDocument read inside) unresolved
  · refine isReported_of_order ?_ unordered
    intro declaration inside
    obtain ⟨source, _, found⟩ := exists_left_of_forall₂ (mapM_eq_ok_iff.mp made) inside
    exact isComplete_of_resolve found

end Schema

end NativeRecords
