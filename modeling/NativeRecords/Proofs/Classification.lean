/-
# NativeRecords.Proofs.Classification -- what an expression is classified by

Classifying an expression asks a look-up for the names in it, and builds a type around the answers.
Two facts say all that later modules need of this. The type depends on the look-up only at the names
in the expression (`classify_congr`). And whatever stands in the type was either built on the spot
or stands in one of the answers (`built_or_given_of_classify`).
-/
import NativeRecords.Proofs.Outcome
import NativeRecords.Source.Document

namespace NativeRecords.Source

/-! ## Single names -/

section Names

variable {refer other : String → Except Failure Descriptor}

/-- A name without `[]` at its end that is built in. -/
theorem classifyName_of_builtin? {reversed : List Char} {type : Descriptor}
    (plain : ∀ rest, reversed = ']' :: '[' :: rest → False)
    (found : builtin? (String.ofList reversed.reverse) = some type) :
    classifyName refer reversed = .ok type := by
  rw [classifyName.eq_2 _ _ plain]
  simp only [found]

/-- A name without `[]` at its end that is not built in is looked up. -/
theorem classifyName_of_not_builtin? {reversed : List Char}
    (plain : ∀ rest, reversed = ']' :: '[' :: rest → False)
    (missing : builtin? (String.ofList reversed.reverse) = none) :
    classifyName refer reversed = refer (String.ofList reversed.reverse) := by
  rw [classifyName.eq_2 _ _ plain]
  simp only [missing]

/-- The name is looked up in the document: it does not end in `[]` and is not built in. -/
structure IsLookedUp (name : String) : Prop where
  plain : ∀ stem, name ≠ stem ++ "[]"
  missing : builtin? name = none

/-- A name is an array of what comes before its `[]`, or it is built in, or it is looked up. -/
theorem classify_named_cases (name : String) :
    (∃ stem, name = stem ++ "[]" ∧ ∀ refer, (TypeExpr.named name).classify refer =
        ((TypeExpr.named stem).classify refer).map (.array name)) ∨
      (∃ type, builtin? name = some type ∧
        ∀ refer, (TypeExpr.named name).classify refer = .ok type) ∨
      IsLookedUp name ∧ ∀ refer, (TypeExpr.named name).classify refer = refer name := by
  have whole : String.ofList name.toList.reverse.reverse = name := by simp
  by_cases ends : ∃ rest, name.toList.reverse = ']' :: '[' :: rest
  · obtain ⟨rest, ends⟩ := ends
    refine .inl ⟨String.ofList rest.reverse, ?_, fun refer => ?_⟩
    · rw [← whole, ends]
      apply String.ext
      simp
    · rw [TypeExpr.classify, TypeExpr.classify, ends, classifyName, ← ends, whole]
      simp
  · have plain : ∀ rest, name.toList.reverse = ']' :: '[' :: rest → False :=
      fun rest found => ends ⟨rest, found⟩
    cases found : builtin? name with
    | some type =>
      refine .inr (.inl ⟨type, rfl, fun refer => ?_⟩)
      rw [TypeExpr.classify]
      exact classifyName_of_builtin? plain (by rw [whole, found])
    | none =>
      refine .inr (.inr ⟨⟨fun stem same => ?_, found⟩, fun refer => ?_⟩)
      · refine plain stem.toList.reverse ?_
        rw [same]
        simp
      · rw [TypeExpr.classify, classifyName_of_not_builtin? plain (by rw [whole, found]), whole]

/-- The name that is looked up for a name given from its end, if there is one: each `[]` at the end
is cut off, and built-in names are not looked up. -/
def lookedUp : List Char → List String
  | ']' :: '[' :: rest => lookedUp rest
  | reversed =>
    let name := String.ofList reversed.reverse
    if (builtin? name).isSome then [] else [name]

theorem lookedUp_of_not_builtin? {reversed : List Char}
    (plain : ∀ rest, reversed = ']' :: '[' :: rest → False)
    (missing : builtin? (String.ofList reversed.reverse) = none) :
    lookedUp reversed = [String.ofList reversed.reverse] := by
  rw [lookedUp.eq_2 _ plain]
  simp [missing]

theorem classifyName_congr {reversed : List Char}
    (same : ∀ name ∈ lookedUp reversed, refer name = other name) :
    classifyName refer reversed = classifyName other reversed := by
  induction reversed using classifyName.induct with
  | case1 rest ih =>
    rw [lookedUp] at same
    rw [classifyName, classifyName, ih same]
  | case2 reversed plain name type =>
    rename_i found
    rw [classifyName_of_builtin? plain found, classifyName_of_builtin? plain found]
  | case3 reversed plain name =>
    rename_i missing
    rw [lookedUp_of_not_builtin? plain missing] at same
    rw [classifyName_of_not_builtin? plain missing, classifyName_of_not_builtin? plain missing]
    exact same _ List.mem_cons_self

end Names

/-! ## The names in an expression -/

/-- What holds of an expression whenever it holds of the expressions inside holds of them all. -/
theorem TypeExpr.induction {motive : TypeExpr → Prop}
    (named : ∀ name, motive (.named name))
    (array : ∀ element, motive element → motive (.array element))
    (bareArray : motive .bareArray)
    (generic : ∀ name arguments, (∀ argument ∈ arguments, motive argument) →
      motive (.generic name arguments))
    (union : ∀ members, (∀ member ∈ members, motive member) → motive (.union members))
    (literal : ∀ value, motive (.literal value))
    (object : ∀ properties, (∀ name type optional, .typed name type optional ∈ properties →
      motive type) → motive (.object properties))
    (malformed : ∀ failure, motive (.malformed failure)) (expr : TypeExpr) : motive expr := by
  have again (inner : TypeExpr) (_ : sizeOf inner < sizeOf expr) : motive inner :=
    TypeExpr.induction named array bareArray generic union literal object malformed inner
  match expr with
  | .named name => exact named name
  | .array element => exact array element (again element (by simp))
  | .bareArray => exact bareArray
  | .generic name arguments =>
    refine generic name arguments fun argument inside => again argument ?_
    have := List.sizeOf_lt_of_mem inside
    simp
    omega
  | .union members =>
    refine union members fun member inside => again member ?_
    have := List.sizeOf_lt_of_mem inside
    simp
    omega
  | .literal value => exact literal value
  | .object properties =>
    refine object properties fun name type optional inside => again type ?_
    have := List.sizeOf_lt_of_mem inside
    simp at this ⊢
    omega
  | .malformed failure => exact malformed failure
termination_by sizeOf expr

mutual

/-- The names that are looked up for an expression. -/
def TypeExpr.names : TypeExpr → List String
  | .named name => lookedUp name.toList.reverse
  | .array element => element.names
  | .generic _ arguments => TypeExpr.namesOf arguments
  | .union members => TypeExpr.namesOf members
  | .object properties => PropertyExpr.namesOf properties
  | .bareArray | .literal _ | .malformed _ => []

/-- The names that are looked up for expressions in turn. -/
def TypeExpr.namesOf : List TypeExpr → List String
  | [] => []
  | expr :: rest => expr.names ++ TypeExpr.namesOf rest

/-- The names that are looked up for properties in turn. -/
def PropertyExpr.namesOf : List PropertyExpr → List String
  | [] => []
  | .typed _ type _ :: rest => type.names ++ PropertyExpr.namesOf rest
  | .malformed _ :: rest => PropertyExpr.namesOf rest

end

theorem mem_namesOf {exprs : List TypeExpr} {name : String} :
    name ∈ TypeExpr.namesOf exprs ↔ ∃ expr ∈ exprs, name ∈ expr.names := by
  induction exprs with
  | nil => simp [TypeExpr.namesOf]
  | cons expr rest ih => simp [TypeExpr.namesOf, ih]

theorem mem_propertyNames {exprs : List PropertyExpr} {name : String} :
    name ∈ PropertyExpr.namesOf exprs ↔
      ∃ owner type optional, .typed owner type optional ∈ exprs ∧ name ∈ type.names := by
  induction exprs with
  | nil => simp [PropertyExpr.namesOf]
  | cons expr rest ih =>
    cases expr with
    | typed owner type optional =>
      rw [PropertyExpr.namesOf, List.mem_append, ih]
      constructor
      · rintro (inside | ⟨owner, type, optional, listed, inside⟩)
        · exact ⟨owner, type, optional, List.mem_cons_self, inside⟩
        · exact ⟨owner, type, optional, List.mem_cons_of_mem _ listed, inside⟩
      · rintro ⟨owner, type, optional, listed, inside⟩
        rcases List.mem_cons.mp listed with same | listed
        · cases same
          exact .inl inside
        · exact .inr ⟨owner, type, optional, listed, inside⟩
    | malformed failure =>
      rw [PropertyExpr.namesOf, ih]
      simp

/-- What an expression stands for depends on the look-up only at the names in it. -/
theorem classify_congr {refer other : String → Except Failure Descriptor} {expr : TypeExpr}
    (same : ∀ name ∈ expr.names, refer name = other name) :
    expr.classify refer = expr.classify other := by
  induction expr using TypeExpr.induction with
  | named name =>
    rw [TypeExpr.names] at same
    rw [TypeExpr.classify, TypeExpr.classify, classifyName_congr same]
  | array element ih =>
    rw [TypeExpr.classify, TypeExpr.classify, ih same]
  | generic name arguments ih =>
    have each : ∀ argument ∈ arguments, argument.classify refer = argument.classify other :=
      fun argument inside => ih argument inside fun name within =>
        same name (mem_namesOf.mpr ⟨argument, inside, within⟩)
    rw [TypeExpr.classify, TypeExpr.classify, TypeExpr.classifyAll_eq_mapM,
      TypeExpr.classifyAll_eq_mapM, mapM_congr_of_mem each]
  | union members ih =>
    have each : ∀ member ∈ members, member.classify refer = member.classify other :=
      fun member inside => ih member inside fun name within =>
        same name (mem_namesOf.mpr ⟨member, inside, within⟩)
    rw [TypeExpr.classify, TypeExpr.classify, TypeExpr.classifyAll_eq_mapM,
      TypeExpr.classifyAll_eq_mapM, mapM_congr_of_mem each]
  | object properties ih =>
    have each : ∀ property ∈ properties, property.classify refer = property.classify other := by
      intro property inside
      cases property with
      | typed owner type optional =>
        rw [PropertyExpr.classify, PropertyExpr.classify, ih owner type optional inside]
        intro name within
        exact same name (mem_propertyNames.mpr ⟨owner, type, optional, inside, within⟩)
      | malformed failure => rw [PropertyExpr.classify, PropertyExpr.classify]
    rw [TypeExpr.classify, TypeExpr.classify, PropertyExpr.classifyAll_eq_mapM,
      PropertyExpr.classifyAll_eq_mapM, mapM_congr_of_mem each]
  | bareArray | literal | malformed => rw [TypeExpr.classify, TypeExpr.classify]

/-! ## The parts of a classified type -/

/-- The part is the type or stands in it at any depth. -/
inductive Descriptor.Contains : Descriptor → Descriptor → Prop
  | self {type : Descriptor} : Contains type type
  | element {display : String} {element part : Descriptor} :
      Contains element part → Contains (.array display element) part
  | argument {display generic : String} {arguments : List Descriptor} {argument part : Descriptor} :
      argument ∈ arguments → Contains argument part → Contains (.generic display generic arguments) part
  | member {display : String} {aliasName : Option String} {members : List Descriptor}
      {member part : Descriptor} : member ∈ members → Contains member part →
      Contains (.union display aliasName members) part
  | property {display owner : String} {properties : List Property} {type part : Descriptor}
      {optional : Bool} : .typed owner type optional ∈ properties → Contains type part →
      Contains (.object display properties) part

/-- The types that classifying an expression builds on its own, without a look-up. References, named
unions and types that are left as they stand are not among them. -/
inductive Descriptor.IsBuilt : Descriptor → Prop
  | builtin {name : String} {type : Descriptor} : builtin? name = some type → IsBuilt type
  | literal (value : RawValue) : IsBuilt (literalType value)
  | array {display : String} {element : Descriptor} : IsBuilt (.array display element)
  | bareArray {display : String} : IsBuilt (.bareArray display)
  | generic {display name : String} {arguments : List Descriptor} :
      IsBuilt (.generic display name arguments)
  | union {display : String} {members : List Descriptor} : IsBuilt (.union display none members)
  | object {display : String} {properties : List Property} : IsBuilt (.object display properties)

/-- The part stands in what the look-up gives for one of the names. -/
def Descriptor.IsGiven (refer : String → Except Failure Descriptor) (names : List String)
    (part : Descriptor) : Prop :=
  ∃ source ∈ names, ∃ type, refer source = .ok type ∧ type.Contains part

section Parts

variable {refer : String → Except Failure Descriptor} {part : Descriptor}

theorem Descriptor.IsGiven.mono {names more : List String} (h : part.IsGiven refer names)
    (sub : ∀ name ∈ names, name ∈ more) : part.IsGiven refer more := by
  obtain ⟨source, inside, found⟩ := h
  exact ⟨source, sub source inside, found⟩

theorem Descriptor.eq_of_contains_builtin? {name : String} {type : Descriptor}
    (h : builtin? name = some type) (contains : type.Contains part) : part = type := by
  unfold builtin? at h
  split at h <;> cases h <;> cases contains <;> rfl

theorem built_or_given_of_classifyName {reversed : List Char} {type : Descriptor}
    (h : classifyName refer reversed = .ok type) (contains : type.Contains part) :
    part.IsBuilt ∨ part.IsGiven refer (lookedUp reversed) := by
  induction reversed using classifyName.induct generalizing type with
  | case1 rest ih =>
    rw [classifyName] at h
    obtain ⟨element, found, rfl⟩ := map_eq_ok_iff.mp h
    rw [lookedUp]
    cases contains with
    | self => exact .inl .array
    | element contains => exact ih found contains
  | case2 reversed plain name builtin =>
    rename_i found
    rw [classifyName_of_builtin? plain found] at h
    cases h
    rw [Descriptor.eq_of_contains_builtin? found contains]
    exact .inl (.builtin found)
  | case3 reversed plain name =>
    rename_i missing
    rw [classifyName_of_not_builtin? plain missing] at h
    rw [lookedUp_of_not_builtin? plain missing]
    exact .inr ⟨_, List.mem_cons_self, type, h, contains⟩

/-- What stands in a classified type was built on the spot, or it stands in what the look-up gave
for a name in the expression. -/
theorem built_or_given_of_classify {expr : TypeExpr} {type : Descriptor}
    (h : expr.classify refer = .ok type) (contains : type.Contains part) :
    part.IsBuilt ∨ part.IsGiven refer expr.names := by
  induction expr using TypeExpr.induction generalizing type with
  | named name =>
    rw [TypeExpr.classify] at h
    exact built_or_given_of_classifyName h contains
  | array element ih =>
    rw [TypeExpr.classify] at h
    obtain ⟨inner, found, rfl⟩ := map_eq_ok_iff.mp h
    cases contains with
    | self => exact .inl .array
    | element contains => exact ih found contains
  | bareArray =>
    rw [TypeExpr.classify] at h
    cases h
    cases contains
    exact .inl .bareArray
  | generic name arguments ih =>
    rw [TypeExpr.classify, TypeExpr.classifyAll_eq_mapM] at h
    obtain ⟨types, found, rfl⟩ := map_eq_ok_iff.mp h
    cases contains with
    | self => exact .inl .generic
    | argument inside contains =>
      obtain ⟨argument, listed, classified⟩ :=
        exists_left_of_forall₂ (mapM_eq_ok_iff.mp found) inside
      refine (ih argument listed classified contains).imp_right fun given => ?_
      exact given.mono fun name within => mem_namesOf.mpr ⟨argument, listed, within⟩
  | union members ih =>
    rw [TypeExpr.classify, TypeExpr.classifyAll_eq_mapM] at h
    obtain ⟨types, found, rfl⟩ := map_eq_ok_iff.mp h
    cases contains with
    | self => exact .inl .union
    | member inside contains =>
      obtain ⟨member, listed, classified⟩ :=
        exists_left_of_forall₂ (mapM_eq_ok_iff.mp found) inside
      refine (ih member listed classified contains).imp_right fun given => ?_
      exact given.mono fun name within => mem_namesOf.mpr ⟨member, listed, within⟩
  | literal value =>
    rw [TypeExpr.classify] at h
    cases h
    have whole : part = literalType value := by
      cases value <;> cases contains <;> rfl
    exact .inl (whole ▸ .literal value)
  | object properties ih =>
    rw [TypeExpr.classify, PropertyExpr.classifyAll_eq_mapM] at h
    obtain ⟨typed, found, rfl⟩ := map_eq_ok_iff.mp h
    cases contains with
    | self => exact .inl .object
    | property inside contains =>
      obtain ⟨property, listed, classified⟩ :=
        exists_left_of_forall₂ (mapM_eq_ok_iff.mp found) inside
      cases property with
      | malformed failure => cases classified
      | typed owner inner optional =>
        rw [PropertyExpr.classify] at classified
        obtain ⟨_, read, same⟩ := map_eq_ok_iff.mp classified
        cases same
        refine (ih _ _ _ listed read contains).imp_right fun given => ?_
        exact given.mono fun name within => mem_propertyNames.mpr ⟨_, _, _, listed, within⟩
  | malformed failure =>
    rw [TypeExpr.classify] at h
    cases h

end Parts

end NativeRecords.Source
