/-
# NativeRecords.Proofs.References -- where the references of a schema come from

A field of a schema refers to a declaration because some name in the document was looked up. This
module follows references back through the stages: a reference in a schema type stands in the
descriptor that was resolved, removing null adds none to a descriptor, and a descriptor has only
the references that the look-up of a name gave it. So every reference answers to an entry of the
symbol table, in one of four ways (`ReferredAs`).

Two stages decide what an alias is, its uses and its own declaration, and they may expand different
aliases. `isUnion_classify_of_fewer` says that this makes no difference to unions: what is a union
while some aliases are being expanded is a union while fewer are.
-/
import NativeRecords.Proofs.Classification
import NativeRecords.Proofs.Resolution

namespace NativeRecords.Source

/-! ## References inside descriptors -/

/-- A reference to `name` of this kind stands in the type at any depth, or a union of that name,
which counts as a reference to an enum. -/
inductive Descriptor.Uses : Descriptor → ReferenceKind → String → Prop
  | reference {kind : ReferenceKind} {name : String} : Uses (.reference kind name) kind name
  | named {display name : String} {members : List Descriptor} :
      Uses (.union display (some name) members) .enum name
  | element {display name : String} {element : Descriptor} {kind : ReferenceKind} :
      Uses element kind name → Uses (.array display element) kind name
  | argument {display generic name : String} {arguments : List Descriptor} {argument : Descriptor}
      {kind : ReferenceKind} : argument ∈ arguments → Uses argument kind name →
      Uses (.generic display generic arguments) kind name
  | member {display name : String} {aliasName : Option String} {members : List Descriptor}
      {member : Descriptor} {kind : ReferenceKind} : member ∈ members → Uses member kind name →
      Uses (.union display aliasName members) kind name
  | property {display owner name : String} {properties : List Property} {type : Descriptor}
      {optional : Bool} {kind : ReferenceKind} : .typed owner type optional ∈ properties →
      Uses type kind name → Uses (.object display properties) kind name

namespace Descriptor

variable {kind : ReferenceKind} {name : String}

theorem not_uses_never : ¬ never.Uses kind name := by
  intro h
  cases h

/-- What is rebuilt from members uses what they use, and the name that it kept. -/
theorem uses_of_rebuild {display : String} {aliasName : Option String} {members : List Descriptor}
    (h : (rebuild display aliasName members).Uses kind name) :
    (aliasName = some name ∧ kind = .enum) ∨ ∃ member ∈ members, member.Uses kind name := by
  cases members with
  | nil => exact absurd h not_uses_never
  | cons member rest =>
    rw [rebuild] at h
    split at h
    · cases h with
      | named => exact .inl ⟨rfl, rfl⟩
      | member inside uses => exact .inr ⟨_, inside, uses⟩
    · split at h
      · exact .inr ⟨member, List.mem_cons_self, h⟩
      · cases h with
        | member inside uses => exact .inr ⟨_, inside, uses⟩

mutual

/-- Removing null adds no reference. -/
theorem uses_of_nonNullable (type : Descriptor) (h : type.nonNullable.Uses kind name) :
    type.Uses kind name := by
  match type with
  | .nullish _ _ =>
    rw [nonNullable] at h
    exact absurd h not_uses_never
  | .union display aliasName members =>
    rw [nonNullable] at h
    split at h
    · -- the union is rebuilt from what is left of its members
      rcases uses_of_rebuild h with ⟨rfl, rfl⟩ | ⟨member, inside, uses⟩
      · exact .named
      · obtain ⟨source, inside, uses⟩ := uses_of_stripMembers members inside uses
        exact .member inside uses
    · exact h
  | .primitive _ _ | .array _ _ | .bareArray _ | .generic _ _ _ | .reference _ _ | .object _ _
  | .literal _ _ _ | .other _ => exact h

theorem uses_of_stripMembers (members : List Descriptor) {member : Descriptor}
    (inside : member ∈ stripMembers members) (h : member.Uses kind name) :
    ∃ source ∈ members, source.Uses kind name := by
  match members with
  | [] => simp [stripMembers] at inside
  | first :: rest =>
    rw [stripMembers] at inside
    split at inside
    · obtain ⟨source, member, uses⟩ := uses_of_stripMembers rest inside h
      exact ⟨source, List.mem_cons_of_mem first member, uses⟩
    · rcases List.mem_cons.mp inside with rfl | inside
      · exact ⟨first, List.mem_cons_self, uses_of_nonNullable first h⟩
      · obtain ⟨source, member, uses⟩ := uses_of_stripMembers rest inside h
        exact ⟨source, List.mem_cons_of_mem first member, uses⟩

end

/-- The references of a schema type stand in the descriptor that it resolves. -/
theorem uses_of_resolve {type : Descriptor} {resolved : SchemaType}
    (h : type.resolve = .ok resolved) (mention : resolved.Mentions kind name) :
    type.Uses kind name := by
  replace h := resolve_eq_ok_iff.mp h
  induction h with
  | primitive => cases mention
  | array _ ih =>
    cases mention with
    | element mention => exact .element (ih mention)
  | map _ _ ihKey ihValue =>
    cases mention with
    | key mention => exact .argument List.mem_cons_self (ihKey mention)
    | value mention =>
      exact .argument (List.mem_cons_of_mem _ List.mem_cons_self) (ihValue mention)
  | reference =>
    cases mention
    exact .reference
  | named _ =>
    cases mention
    exact .named

end Descriptor

/-! ## References that a look-up gives -/

section Classification

variable {refer : String → Except Failure Descriptor} {kind : ReferenceKind} {name : String}

/-- The look-up `refer` gives a type that uses the name. -/
def Supplies (refer : String → Except Failure Descriptor) (kind : ReferenceKind) (name : String) :
    Prop :=
  ∃ source type, refer source = .ok type ∧ type.Uses kind name

/-- The type itself is a reference of this kind to `name`, or a union of that name. -/
inductive Descriptor.IsReferenceTo : Descriptor → ReferenceKind → String → Prop
  | reference {kind : ReferenceKind} {name : String} : IsReferenceTo (.reference kind name) kind name
  | named {display name : String} {members : List Descriptor} :
      IsReferenceTo (.union display (some name) members) .enum name

theorem Descriptor.uses_iff {type : Descriptor} :
    type.Uses kind name ↔ ∃ part, type.Contains part ∧ part.IsReferenceTo kind name := by
  constructor
  · intro uses
    induction uses with
    | reference => exact ⟨_, .self, .reference⟩
    | named => exact ⟨_, .self, .named⟩
    | element _ ih =>
      obtain ⟨part, contains, refers⟩ := ih
      exact ⟨part, .element contains, refers⟩
    | argument inside _ ih =>
      obtain ⟨part, contains, refers⟩ := ih
      exact ⟨part, .argument inside contains, refers⟩
    | member inside _ ih =>
      obtain ⟨part, contains, refers⟩ := ih
      exact ⟨part, .member inside contains, refers⟩
    | property inside _ ih =>
      obtain ⟨part, contains, refers⟩ := ih
      exact ⟨part, .property inside contains, refers⟩
  · rintro ⟨part, contains, refers⟩
    induction contains with
    | self =>
      cases refers with
      | reference => exact .reference
      | named => exact .named
    | element _ ih => exact .element (ih refers)
    | argument inside _ ih => exact .argument inside (ih refers)
    | member inside _ ih => exact .member inside (ih refers)
    | property inside _ ih => exact .property inside (ih refers)

/-- References are not built on the spot. -/
theorem Descriptor.IsReferenceTo.not_isBuilt {part : Descriptor} (refers : part.IsReferenceTo kind name) :
    ¬ part.IsBuilt := by
  intro built
  cases built with
  | builtin found =>
    unfold builtin? at found
    split at found <;> cases found <;> cases refers
  | literal value => cases value <;> cases refers
  | _ => cases refers

/-- A classified type uses only what the look-up supplies. -/
theorem supplies_of_classify (expr : TypeExpr) {type : Descriptor}
    (h : expr.classify refer = .ok type) (uses : type.Uses kind name) :
    Supplies refer kind name := by
  obtain ⟨part, contains, refers⟩ := Descriptor.uses_iff.mp uses
  rcases built_or_given_of_classify h contains with built | ⟨source, _, found, looked, contains⟩
  · exact absurd built refers.not_isBuilt
  · exact ⟨source, found, looked, Descriptor.uses_iff.mpr ⟨part, contains, refers⟩⟩

theorem supplies_of_classifyProperties (exprs : List PropertyExpr) {properties : List Property}
    (h : PropertyExpr.classifyAll refer exprs = .ok properties) {owner : String} {type : Descriptor}
    {optional : Bool} (inside : .typed owner type optional ∈ properties)
    (uses : type.Uses kind name) : Supplies refer kind name := by
  have whole : (TypeExpr.object exprs).classify refer
      = .ok (.object (objectDisplay properties) properties) := by
    rw [TypeExpr.classify, h]
    rfl
  exact supplies_of_classify (.object exprs) whole (.property inside uses)

end Classification

/-! ## What a table gives -/

variable {table : List Outline} {expanding : List String} {kind : ReferenceKind} {name : String}

/-- How a symbol table lets a name be referred to. Enums, interfaces and aliases that have an
`object` part are told by their own entry. Any other alias counts as an enum where its type turns
out to be a union. -/
inductive ReferredAs (table : List Outline) : ReferenceKind → String → Prop
  | enum {name own : String} {members : Except Failure (List EnumMember)}
      (found : table.find? (·.name = name) = some (.enum own members)) : ReferredAs table .enum name
  | interface {name own : String} {properties : List PropertyExpr}
      (found : table.find? (·.name = name) = some (.interface own properties)) :
      ReferredAs table .record name
  | objectAlias {name own : String} {type : Option TypeExpr}
      (found : table.find? (·.name = name) = some (.typeAlias own true type)) :
      ReferredAs table .record name
  | unionAlias {name own display : String} {expr : TypeExpr} {expanding : List String}
      {aliasName : Option String} {members : List Descriptor}
      (found : table.find? (·.name = name) = some (.typeAlias own false (some expr)))
      (union : expr.classify (reference table expanding) = .ok (.union display aliasName members)) :
      ReferredAs table .enum name

/-- Giving a union the name of its alias adds one reference. -/
theorem Descriptor.uses_of_aliased {own : String} {type : Descriptor}
    (h : (type.aliased own).Uses kind name) :
    type.Uses kind name ∨
      (∃ display aliasName members, type = .union display aliasName members) ∧
        kind = .enum ∧ name = own := by
  unfold Descriptor.aliased at h
  split at h
  · rename_i display aliasName members
    cases h with
    | named => exact .inr ⟨⟨display, aliasName, members, rfl⟩, rfl, rfl⟩
    | member inside uses => exact .inl (.member inside uses)
  · exact .inl h

/-- Every reference in what a name stands for answers to an entry of the table. -/
theorem referredAs_of_reference {source : String} {type : Descriptor}
    (h : reference table expanding source = .ok type) (uses : type.Uses kind name) :
    ReferredAs table kind name := by
  fun_induction reference table expanding source generalizing type with
  | case1 expanding source missing =>
    cases h
    cases uses
  | case2 expanding source own members found =>
    cases h
    cases uses
    exact .enum found
  | case3 expanding source own properties found =>
    cases h
    cases uses
    exact .interface found
  | case4 expanding source own aliased found =>
    cases h
    cases uses
    exact .objectAlias found
  | case5 expanding source own shaped aliased found plain opened =>
    cases h
    cases uses
  | case6 expanding source own shaped plain fresh found => cases h
  | case7 expanding source own shaped plain fresh expr found _ ih =>
    rw [Bool.not_eq_true] at plain
    subst plain
    obtain ⟨target, classified, rfl⟩ := map_eq_ok_iff.mp h
    -- the reference stands in the type of the alias, or it is to the alias itself
    rcases Descriptor.uses_of_aliased uses with uses | ⟨⟨display, aliasName, members, rfl⟩, rfl, rfl⟩
    · obtain ⟨other, supplied, looked, uses⟩ := supplies_of_classify expr classified uses
      exact ih other looked uses
    · exact .unionAlias found classified

/-! ## Unions while fewer aliases are being expanded -/

/-- Whether the type is a union. -/
def Descriptor.isUnion : Descriptor → Bool
  | .union _ _ _ => true
  | _ => false

theorem Descriptor.isUnion_aliased (own : String) (type : Descriptor) :
    (type.aliased own).isUnion = type.isUnion := by
  cases type <;> rfl

theorem not_isUnion_of_builtin? {source : String} {type : Descriptor}
    (h : builtin? source = some type) : type.isUnion = false := by
  unfold builtin? at h
  split at h <;> cases h <;> rfl

/-- An expression of a union is written as one, or it is a name that is looked up. -/
theorem union_or_source_of_classify {refer : String → Except Failure Descriptor} {expr : TypeExpr}
    {type : Descriptor} (h : expr.classify refer = .ok type) (union : type.isUnion = true) :
    (∃ members, expr = .union members) ∨
      ∃ source, refer source = .ok type ∧ ∀ other, expr.classify other = other source := by
  cases expr with
  | named own =>
    rcases classify_named_cases own with ⟨_, _, array⟩ | ⟨_, found, builtin⟩ | ⟨_, looked⟩
    · rw [array] at h
      obtain ⟨_, _, rfl⟩ := map_eq_ok_iff.mp h
      cases union
    · rw [builtin] at h
      cases h
      rw [not_isUnion_of_builtin? found] at union
      cases union
    · rw [looked] at h
      exact .inr ⟨own, h, looked⟩
  | union members => exact .inl ⟨members, rfl⟩
  | array element =>
    rw [TypeExpr.classify] at h
    obtain ⟨_, _, rfl⟩ := map_eq_ok_iff.mp h
    cases union
  | generic generic arguments =>
    rw [TypeExpr.classify] at h
    obtain ⟨_, _, rfl⟩ := map_eq_ok_iff.mp h
    cases union
  | object properties =>
    rw [TypeExpr.classify] at h
    obtain ⟨_, _, rfl⟩ := map_eq_ok_iff.mp h
    cases union
  | bareArray =>
    rw [TypeExpr.classify] at h
    cases h
    cases union
  | literal value =>
    rw [TypeExpr.classify] at h
    cases h
    unfold literalType at union
    split at union <;> cases union
  | malformed failure =>
    rw [TypeExpr.classify] at h
    cases h

theorem isUnion_of_classify_union {refer : String → Except Failure Descriptor}
    {members : List TypeExpr} {type : Descriptor}
    (h : (TypeExpr.union members).classify refer = .ok type) : type.isUnion = true := by
  rw [TypeExpr.classify] at h
  obtain ⟨_, _, rfl⟩ := map_eq_ok_iff.mp h
  rfl

/-- What a name stands for, by its entry in the table. -/
theorem reference_eq (table : List Outline) (expanding : List String) (name : String) :
    reference table expanding name =
      match table.find? (·.name = name) with
      | none => .ok (.other name)
      | some (.enum _ _) => .ok (.reference .enum name)
      | some (.interface _ _) => .ok (.reference .record name)
      | some (.typeAlias _ objectShaped type) =>
        if objectShaped then .ok (.reference .record name)
        else if name ∈ expanding then .ok (.other name)
        else
          match type with
          | none => .error (.malformed (.typeExpression .null))
          | some expr =>
            (expr.classify (reference table (name :: expanding))).map (Descriptor.aliased name) := by
  rw [reference]
  split <;> rename_i found <;> simp only [found]
  split
  · rfl
  · split
    · rfl
    · split <;> rfl

/-- An alias without an `object` part that is not being expanded is expanded. -/
theorem reference_of_alias {own : String} {expr : TypeExpr}
    (found : table.find? (·.name = name) = some (.typeAlias own false (some expr)))
    (fresh : name ∉ expanding) :
    reference table expanding name =
      (expr.classify (reference table (name :: expanding))).map (Descriptor.aliased name) := by
  rw [reference_eq, found]
  simp only [Bool.false_eq_true, if_false, if_neg fresh]

/-- What a name stands for is a union whenever it is one while more aliases are being expanded. -/
theorem isUnion_reference_of_fewer {fewer : List String} {source : String} {type type' : Descriptor}
    (sub : fewer ⊆ expanding) (h : reference table expanding source = .ok type)
    (union : type.isUnion = true) (h' : reference table fewer source = .ok type') :
    type'.isUnion = true := by
  fun_induction reference table expanding source generalizing fewer type type' with
  -- only an alias that is expanded gives a union, and it is expanded for `fewer` too
  | case7 expanding source own shaped plain fresh expr found _ ih =>
    rw [Bool.not_eq_true] at plain
    subst plain
    obtain ⟨target, classified, rfl⟩ := map_eq_ok_iff.mp h
    rw [reference_of_alias found fun inside => fresh (sub inside)] at h'
    obtain ⟨target', classified', rfl⟩ := map_eq_ok_iff.mp h'
    rw [Descriptor.isUnion_aliased] at union ⊢
    rcases union_or_source_of_classify classified union with ⟨members, rfl⟩ | ⟨other, looked, same⟩
    · exact isUnion_of_classify_union classified'
    · rw [same] at classified'
      exact ih other (List.cons_subset_cons source sub) looked union classified'
  | case6 => cases h
  | _ =>
    cases h
    cases union

/-- What an expression stands for is a union whenever it is one while more aliases are being
expanded. -/
theorem isUnion_classify_of_fewer {fewer : List String} {expr : TypeExpr} {type type' : Descriptor}
    (sub : fewer ⊆ expanding) (h : expr.classify (reference table expanding) = .ok type)
    (union : type.isUnion = true) (h' : expr.classify (reference table fewer) = .ok type') :
    type'.isUnion = true := by
  rcases union_or_source_of_classify h union with ⟨members, rfl⟩ | ⟨source, looked, same⟩
  · exact isUnion_of_classify_union h'
  · rw [same] at h'
    exact isUnion_reference_of_fewer sub looked union h'

end NativeRecords.Source
