/-
# NativeRecords.Proofs.Mentions -- which declarations a type refers to

The lists of referenced names are computed so that each name comes once and in order. Most of the
theory asks only which names are there: a name is listed exactly when a reference to it stands
somewhere in the type, below any number of arrays and maps. The lists exist for every type whose
arrays and maps have their parts.
-/
import NativeRecords.Proofs.Outcome
import NativeRecords.Schema.Declaration

namespace NativeRecords

/-! ## References inside types -/

/-- A reference to `name` of this kind stands in the type, at any depth of arrays and maps. -/
inductive SchemaType.Mentions : SchemaType → ReferenceKind → String → Prop
  | here {kind : ReferenceKind} {name : String} : Mentions (.reference kind name) kind name
  | element {element : SchemaType} {kind : ReferenceKind} {name : String} :
      Mentions element kind name → Mentions (.array element) kind name
  | key {key value : SchemaType} {kind : ReferenceKind} {name : String} :
      Mentions key kind name → Mentions (.map key value) kind name
  | value {key value : SchemaType} {kind : ReferenceKind} {name : String} :
      Mentions value kind name → Mentions (.map key value) kind name

/-- Every array and every map in the type has its parts. -/
def SchemaType.isComplete : SchemaType → Bool
  | .array element => element.isComplete
  | .map key value => key.isComplete && value.isComplete
  | .absent => false
  | _ => true

theorem appendNew_cons (names : List String) (name : String) (more : List String) :
    appendNew names (name :: more) =
      appendNew (if name ∈ names then names else names ++ [name]) more := rfl

theorem mem_appendNew {names more : List String} {name : String} :
    name ∈ appendNew names more ↔ name ∈ names ∨ name ∈ more := by
  induction more generalizing names with
  | nil => simp [appendNew]
  | cons first more ih =>
    rw [appendNew_cons, ih]
    by_cases present : first ∈ names
    · rw [if_pos present, List.mem_cons]
      constructor
      · rintro (inside | inside)
        · exact .inl inside
        · exact .inr (.inr inside)
      · rintro (inside | rfl | inside)
        · exact .inl inside
        · exact .inl present
        · exact .inr inside
    · rw [if_neg present, List.mem_append, List.mem_singleton, List.mem_cons, or_assoc]

/-- The referenced names are the names that are mentioned. -/
theorem mem_referencedNames {type : SchemaType} {names : List String}
    (h : type.referencedNames = .ok names) (name : String) :
    name ∈ names ↔ ∃ kind, type.Mentions kind name := by
  induction type generalizing names with
  | primitive kind =>
    cases h
    simp only [List.not_mem_nil, false_iff]
    rintro ⟨_, mention⟩
    cases mention
  | array element ih =>
    rw [ih h]
    constructor
    · rintro ⟨kind, mention⟩
      exact ⟨kind, .element mention⟩
    · rintro ⟨kind, mention⟩
      cases mention with
      | element mention => exact ⟨kind, mention⟩
  | map key value ihKey ihValue =>
    obtain ⟨keyNames, keyOk, h⟩ := bind_eq_ok_iff.mp h
    obtain ⟨valueNames, valueOk, h⟩ := bind_eq_ok_iff.mp h
    cases h
    rw [mem_appendNew, ihKey keyOk, ihValue valueOk]
    constructor
    · rintro (⟨kind, mention⟩ | ⟨kind, mention⟩)
      · exact ⟨kind, .key mention⟩
      · exact ⟨kind, .value mention⟩
    · rintro ⟨kind, mention⟩
      cases mention with
      | key mention => exact .inl ⟨kind, mention⟩
      | value mention => exact .inr ⟨kind, mention⟩
  | reference kind other =>
    cases h
    rw [List.mem_singleton]
    constructor
    · rintro rfl
      exact ⟨kind, .here⟩
    · rintro ⟨_, mention⟩
      cases mention
      rfl
  | other word =>
    cases h
    simp only [List.not_mem_nil, false_iff]
    rintro ⟨_, mention⟩
    cases mention
  | absent => cases h

/-- A complete type has its list of referenced names. -/
theorem exists_referencedNames {type : SchemaType} (complete : type.isComplete = true) :
    ∃ names, type.referencedNames = .ok names := by
  induction type with
  | primitive kind => exact ⟨[], rfl⟩
  | array element ih => exact ih complete
  | map key value ihKey ihValue =>
    rw [SchemaType.isComplete, Bool.and_eq_true] at complete
    obtain ⟨keyNames, keyOk⟩ := ihKey complete.1
    obtain ⟨valueNames, valueOk⟩ := ihValue complete.2
    exact ⟨appendNew keyNames valueNames,
      bind_eq_ok_iff.mpr ⟨keyNames, keyOk, bind_eq_ok_iff.mpr ⟨valueNames, valueOk, rfl⟩⟩⟩
  | reference kind name => exact ⟨[name], rfl⟩
  | other word => exact ⟨[], rfl⟩
  | absent => cases complete

/-! ## References inside declarations -/

namespace Schema

/-- The dependencies of a record, gathered onto names that are there already. -/
def gatherDependencies (names : List String) (properties : List RecordProperty) :
    Except Failure (List String) :=
  properties.foldlM (fun names property => do
    let more ← property.type.referencedNames
    return appendNew names more) names

theorem gatherDependencies_cons (names : List String) (property : RecordProperty)
    (properties : List RecordProperty) :
    gatherDependencies names (property :: properties) =
      property.type.referencedNames >>= fun more =>
        gatherDependencies (appendNew names more) properties := by
  rw [gatherDependencies, List.foldlM_cons]
  cases property.type.referencedNames with
  | error failure => rfl
  | ok more => rfl

theorem mem_gatherDependencies {properties : List RecordProperty} {names result : List String}
    (h : gatherDependencies names properties = .ok result) (name : String) :
    name ∈ result ↔
      name ∈ names ∨ ∃ property ∈ properties, ∃ kind, property.type.Mentions kind name := by
  induction properties generalizing names with
  | nil =>
    cases h
    simp
  | cons property properties ih =>
    rw [gatherDependencies_cons] at h
    obtain ⟨more, moreOk, h⟩ := bind_eq_ok_iff.mp h
    rw [ih h, mem_appendNew, mem_referencedNames moreOk, or_assoc, List.exists_mem_cons_iff]

theorem exists_gatherDependencies {properties : List RecordProperty}
    (complete : ∀ property ∈ properties, property.type.isComplete = true) (names : List String) :
    ∃ result, gatherDependencies names properties = .ok result := by
  induction properties generalizing names with
  | nil => exact ⟨names, rfl⟩
  | cons property properties ih =>
    obtain ⟨more, moreOk⟩ := exists_referencedNames (complete property List.mem_cons_self)
    obtain ⟨result, resultOk⟩ := ih
      (fun other inside => complete other (List.mem_cons_of_mem property inside))
      (appendNew names more)
    refine ⟨result, ?_⟩
    rw [gatherDependencies_cons]
    exact bind_eq_ok_iff.mpr ⟨more, moreOk, resultOk⟩

namespace Declaration

/-- The fields of a declaration; an enum has none. -/
def properties : Declaration → List RecordProperty
  | .enum _ => []
  | .record r => r.properties

/-- Every type in the declaration is complete. -/
def isComplete (declaration : Declaration) : Bool :=
  declaration.properties.all fun property => property.type.isComplete

/-- A reference to `name` of this kind stands in a field of the declaration. -/
def Mentions (declaration : Declaration) (kind : ReferenceKind) (name : String) : Prop :=
  ∃ property ∈ declaration.properties, property.type.Mentions kind name

/-- The dependencies of a declaration are gathered from its fields. -/
theorem dependencies_eq_gatherDependencies (declaration : Declaration) :
    declaration.dependencies = gatherDependencies [] declaration.properties := by
  cases declaration with
  | enum e => rfl
  | record r => rfl

/-- A complete declaration has its list of dependencies. -/
theorem exists_dependencies {declaration : Declaration} (complete : declaration.isComplete = true) :
    ∃ names, declaration.dependencies = .ok names := by
  rw [dependencies_eq_gatherDependencies]
  exact exists_gatherDependencies (List.all_eq_true.mp complete) []

end Declaration
end Schema
end NativeRecords
