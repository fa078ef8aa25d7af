/-
# NativeRecords.Proofs.Nullability -- where null may stand in the type of a field

A schema says that a field may be null by a mark on the field, and has no way to say it of the
elements of an array or of the keys and values of a map. Null among the alternatives of the whole
type is taken off before the type is resolved and becomes the mark. Null further inside cannot be
kept, so a type that has it there should be refused.

It is, with one exception. A union that goes by the name of an alias is resolved to a reference
without a look at its members, so null among them is lost when such a union is the element of an
array, or a key or a value. Outside union aliases no null is lost.
-/
import NativeRecords.Proofs.Grammar

namespace NativeRecords

namespace Source.Descriptor

open Relation (ReflTransGen)

/-! ## Null among the alternatives -/

/-- Null or undefined is an alternative of the type, at any depth of unions. -/
inductive AdmitsNull : Descriptor → Prop
  | nullish {kind : Nullish} {display : String} : AdmitsNull (.nullish kind display)
  | member {display : String} {aliasName : Option String} {members : List Descriptor}
      {member : Descriptor} : member ∈ members → AdmitsNull member →
      AdmitsNull (.union display aliasName members)

mutual

theorem isNullable_iff (type : Descriptor) : type.isNullable = true ↔ type.AdmitsNull := by
  match type with
  | .nullish _ _ => exact ⟨fun _ => .nullish, fun _ => rfl⟩
  | .union display aliasName members =>
    rw [isNullable, anyNullable_iff members]
    constructor
    · rintro ⟨member, inside, null⟩
      exact .member inside null
    · intro h
      cases h with
      | member inside null => exact ⟨_, inside, null⟩
  | .primitive _ _ | .array _ _ | .bareArray _ | .generic _ _ _ | .reference _ _ | .object _ _
  | .literal _ _ _ | .other _ =>
    constructor
    · intro h
      cases h
    · intro h
      cases h

theorem anyNullable_iff (members : List Descriptor) :
    anyNullable members = true ↔ ∃ member ∈ members, member.AdmitsNull := by
  match members with
  | [] => simp [anyNullable]
  | member :: rest =>
    rw [anyNullable, Bool.or_eq_true, isNullable_iff member, anyNullable_iff rest,
      List.exists_mem_cons_iff]

end

/-- Naming a union changes nothing about its alternatives. -/
theorem admitsNull_aliased {name : String} {type : Descriptor} :
    (type.aliased name).AdmitsNull ↔ type.AdmitsNull := by
  cases type with
  | union display aliasName members =>
    constructor
    · intro h
      cases h with
      | member inside null => exact .member inside null
    · intro h
      cases h with
      | member inside null => exact .member inside null
  | _ => rfl

/-! ## What is left without null -/

/-- The type is a union that goes by the name of an alias. -/
inductive IsNamedUnion : Descriptor → Prop
  | intro {display name : String} {members : List Descriptor} :
      name ≠ "" → IsNamedUnion (.union display (some name) members)

theorem isNamedUnion_iff {display : String} {aliasName : Option String}
    {members : List Descriptor} :
    (Descriptor.union display aliasName members).IsNamedUnion ↔ aliasName.any (· ≠ "") = true := by
  constructor
  · rintro ⟨nonempty⟩
    simpa using nonempty
  · intro named
    cases aliasName with
    | none => simp at named
    | some name => exact .intro (by simpa using named)

/-- A named union resolves to a reference by its name, whatever its members are. -/
theorem resolve_named {display name : String} {members : List Descriptor} (nonempty : name ≠ "") :
    (Descriptor.union display (some name) members).resolve = .ok (.reference .enum name) :=
  resolve_eq_ok_iff.mpr (.named nonempty)

/-- A union that resolves is named. -/
theorem isNamedUnion_of_resolve {display : String} {aliasName : Option String}
    {members : List Descriptor} {resolved : SchemaType}
    (h : (Descriptor.union display aliasName members).resolve = .ok resolved) :
    (Descriptor.union display aliasName members).IsNamedUnion := by
  cases resolve_eq_ok_iff.mp h with
  | named nonempty => exact .intro nonempty

theorem not_resolve_of_unnamed {display : String} {aliasName : Option String}
    {members : List Descriptor} {resolved : SchemaType}
    (unnamed : aliasName.any (· ≠ "") = false) :
    (Descriptor.union display aliasName members).resolve ≠ .ok resolved := by
  intro h
  have named := isNamedUnion_iff.mp (isNamedUnion_of_resolve h)
  rw [unnamed] at named
  cases named

theorem not_resolve_never {resolved : SchemaType} : never.resolve ≠ .ok resolved := by
  intro h
  cases h

/-- What is rebuilt from members resolves if the union was named, or if there is one member and that
resolves. -/
theorem resolve_rebuild {display : String} {aliasName : Option String} {members : List Descriptor}
    {resolved : SchemaType} (h : (rebuild display aliasName members).resolve = .ok resolved) :
    aliasName.any (· ≠ "") = true ∧ (∃ name, aliasName = some name ∧
        resolved = .reference .enum name) ∨
      aliasName.any (· ≠ "") = false ∧ ∃ member, members = [member] ∧
        member.resolve = .ok resolved := by
  cases members with
  | nil => exact absurd h not_resolve_never
  | cons member rest =>
    rw [rebuild] at h
    split at h
    · rename_i named
      obtain ⟨name, rfl, nonempty⟩ := (Option.any_eq_true _ _).mp named
      rw [resolve_named (of_decide_eq_true nonempty)] at h
      cases h
      exact .inl ⟨named, name, rfl, rfl⟩
    · rename_i unnamed
      split at h
      · rename_i alone
        rw [List.isEmpty_iff.mp alone]
        exact .inr ⟨by simpa using unnamed, member, rfl, h⟩
      · cases h

mutual

/-- The alternatives of a type, through unions that have no name. -/
def alternatives : Descriptor → List Descriptor
  | .union display aliasName members =>
    if aliasName.any (· ≠ "") then [.union display aliasName members] else alternativesOf members
  | type => [type]

/-- The alternatives of each of the types. -/
def alternativesOf : List Descriptor → List Descriptor
  | [] => []
  | member :: rest => member.alternatives ++ alternativesOf rest

end

/-- The alternatives other than null and undefined. -/
def remaining (types : List Descriptor) : List Descriptor := types.filter (!·.isNullish)

theorem remaining_append (types more : List Descriptor) :
    remaining (types ++ more) = remaining types ++ remaining more :=
  List.filter_append types more

theorem remaining_cons (member : Descriptor) (rest : List Descriptor) :
    remaining (member :: rest)
      = if member.isNullish then remaining rest else member :: remaining rest := by
  rw [remaining, List.filter_cons]
  cases member.isNullish <;> rfl

theorem mem_remaining {types : List Descriptor} {type : Descriptor} :
    type ∈ remaining types ↔ type ∈ types ∧ type.isNullish = false := by
  simp [remaining]

theorem stripMembers_eq_map (members : List Descriptor) :
    stripMembers members = (remaining members).map nonNullable := by
  induction members with
  | nil => rfl
  | cons member rest ih =>
    rw [stripMembers, remaining_cons, ih]
    split <;> rfl

theorem alternatives_of_isNullish {type : Descriptor} (h : type.isNullish = true) :
    remaining type.alternatives = [] := by
  cases type <;> cases h
  rfl

/-- Members of which nothing is left are all null or undefined. -/
theorem remaining_of_stripMembers_nil {members : List Descriptor} (h : stripMembers members = []) :
    remaining (alternativesOf members) = [] := by
  induction members with
  | nil => rfl
  | cons member rest ih =>
    rw [stripMembers] at h
    split at h
    · rename_i null
      rw [alternativesOf, remaining_append, alternatives_of_isNullish null, ih h, List.nil_append]
    · cases h

mutual

/-- A type that resolves without null has one alternative other than null, and resolves to what that
alternative resolves to. -/
theorem exists_remaining_of_nonNullable (type : Descriptor) {resolved : SchemaType}
    (h : type.nonNullable.resolve = .ok resolved) :
    ∃ rest, remaining type.alternatives = [rest] ∧ rest.resolve = .ok resolved := by
  match type with
  | .nullish _ _ => exact absurd h not_resolve_never
  | .union display aliasName members =>
    rw [alternatives]
    rw [nonNullable] at h
    split at h
    · rcases resolve_rebuild h with ⟨named, name, rfl, rfl⟩ | ⟨unnamed, member, left, found⟩
      · rw [if_pos named]
        exact ⟨_, rfl, resolve_named (of_decide_eq_true named)⟩
      · rw [unnamed, if_neg Bool.false_ne_true]
        exact exists_remaining_of_stripMembers members left found
    · rw [if_pos (isNamedUnion_iff.mp (isNamedUnion_of_resolve h))]
      exact ⟨_, rfl, h⟩
  | .primitive _ _ | .array _ _ | .bareArray _ | .generic _ _ _ | .reference _ _ | .object _ _
  | .literal _ _ _ | .other _ => exact ⟨_, rfl, h⟩

theorem exists_remaining_of_stripMembers (members : List Descriptor) {member : Descriptor}
    (left : stripMembers members = [member]) {resolved : SchemaType}
    (h : member.resolve = .ok resolved) :
    ∃ rest, remaining (alternativesOf members) = [rest] ∧ rest.resolve = .ok resolved := by
  match members with
  | [] => cases left
  | first :: others =>
    rw [alternativesOf, remaining_append]
    rw [stripMembers] at left
    split at left
    · rename_i null
      rw [alternatives_of_isNullish null]
      exact exists_remaining_of_stripMembers others left h
    · obtain ⟨rfl, nothing⟩ := List.cons.inj left
      obtain ⟨rest, alone, found⟩ := exists_remaining_of_nonNullable first h
      rw [alone, remaining_of_stripMembers_nil nothing]
      exact ⟨rest, rfl, found⟩

end

/-! ## Places inside containers -/

/-- The type is a container and the part fills a place of it: it is the element of an array, or an
argument of a generic type such as the key or the value of a map. -/
inductive HasPlace : Descriptor → Descriptor → Prop
  | element {display : String} {element : Descriptor} : HasPlace (.array display element) element
  | argument {display name : String} {arguments : List Descriptor} {argument : Descriptor} :
      argument ∈ arguments → HasPlace (.generic display name arguments) argument

/-- The part fills a place of the type or is a member of it, and the type is no union alias. -/
inductive Encloses : Descriptor → Descriptor → Prop
  | place {type part : Descriptor} : HasPlace type part → Encloses type part
  | member {display : String} {aliasName : Option String} {members : List Descriptor}
      {member : Descriptor} : aliasName.any (· ≠ "") = false → member ∈ members →
      Encloses (.union display aliasName members) member

/-- The part fills a place of a container that stands in the type, at any depth of containers and
unions but outside all union aliases. -/
def Holds (type part : Descriptor) : Prop :=
  ∃ container, ReflTransGen Encloses type container ∧ container.HasPlace part

/-- The parts of a container that resolves resolve. -/
theorem HasPlace.exists_resolve {type part : Descriptor} (place : type.HasPlace part)
    {resolved : SchemaType} (h : type.resolve = .ok resolved) :
    ∃ inner, part.resolve = .ok inner := by
  replace h := resolve_eq_ok_iff.mp h
  simp only [resolve_eq_ok_iff]
  cases place with
  | element =>
    cases h with
    | array inner => exact ⟨_, inner⟩
  | argument inside =>
    -- only a generic type of two arguments resolves
    cases h with
    | map key value =>
      simp only [List.mem_cons, List.not_mem_nil, or_false] at inside
      rcases inside with rfl | rfl
      · exact ⟨_, key⟩
      · exact ⟨_, value⟩

theorem Encloses.exists_resolve {type part : Descriptor} (step : type.Encloses part)
    {resolved : SchemaType} (h : type.resolve = .ok resolved) :
    ∃ inner, part.resolve = .ok inner := by
  cases step with
  | place place => exact place.exists_resolve h
  | member unnamed _ => exact absurd h (not_resolve_of_unnamed unnamed)

/-- What a type that resolves holds resolves too. -/
theorem Holds.exists_resolve {type part : Descriptor} (holds : type.Holds part)
    {resolved : SchemaType} (h : type.resolve = .ok resolved) :
    ∃ inner, part.resolve = .ok inner := by
  obtain ⟨container, path, place⟩ := holds
  induction path using ReflTransGen.head_induction_on generalizing resolved with
  | refl => exact place.exists_resolve h
  | head step _ ih =>
    obtain ⟨inner, found⟩ := step.exists_resolve h
    exact ih found

theorem HasPlace.nonNullable_eq {type part : Descriptor} (place : type.HasPlace part) :
    type.nonNullable = type := by
  cases place <;> rfl

theorem nonNullable_mem_stripMembers {members : List Descriptor} {member : Descriptor}
    (inside : member ∈ members) (notNull : member.isNullish = false) :
    member.nonNullable ∈ stripMembers members := by
  rw [stripMembers_eq_map]
  exact List.mem_map_of_mem (mem_remaining.mpr ⟨inside, notNull⟩)

/-- Where a union without a name resolves without null, each member is null or resolves so too. -/
theorem isNullish_or_resolve_member {display : String} {aliasName : Option String}
    {members : List Descriptor} {member : Descriptor} {resolved : SchemaType}
    (unnamed : aliasName.any (· ≠ "") = false) (inside : member ∈ members)
    (h : (Descriptor.union display aliasName members).nonNullable.resolve = .ok resolved) :
    member.isNullish = true ∨ member.nonNullable.resolve = .ok resolved := by
  rw [nonNullable] at h
  split at h
  · rcases resolve_rebuild h with ⟨named, _⟩ | ⟨_, left, alone, found⟩
    · rw [unnamed] at named
      cases named
    · by_cases null : member.isNullish = true
      · exact .inl null
      · have kept := nonNullable_mem_stripMembers inside (by simpa using null)
        rw [alone, List.mem_singleton] at kept
        rw [kept]
        exact .inr found
  · exact absurd h (not_resolve_of_unnamed unnamed)

theorem not_encloses_of_isNullish {type part : Descriptor} (null : type.isNullish = true) :
    ¬ type.Encloses part := by
  intro step
  cases step with
  | place place => cases place <;> cases null
  | member _ _ => cases null

/-- Null holds nothing. -/
theorem not_holds_of_isNullish {type part : Descriptor} (null : type.isNullish = true) :
    ¬ type.Holds part := by
  rintro ⟨container, path, place⟩
  rcases path.cases_head with rfl | ⟨_, step, _⟩
  · exact not_encloses_of_isNullish null (.place place)
  · exact not_encloses_of_isNullish null step

/-- Removing null from the whole type removes nothing from the places inside it. -/
theorem Holds.exists_resolve_of_nonNullable {type part : Descriptor} (holds : type.Holds part)
    {resolved : SchemaType} (h : type.nonNullable.resolve = .ok resolved) :
    ∃ inner, part.resolve = .ok inner := by
  obtain ⟨container, path, place⟩ := holds
  -- the way to the container leads through unions first, each with one member that is not null
  induction path using ReflTransGen.head_induction_on with
  | refl =>
    rw [place.nonNullable_eq] at h
    exact place.exists_resolve h
  | head step rest ih =>
    cases step with
    | place first =>
      rw [first.nonNullable_eq] at h
      exact Holds.exists_resolve ⟨container, .head (.place first) rest, place⟩ h
    | member unnamed inside =>
      rcases isNullish_or_resolve_member unnamed inside h with null | found
      · exact absurd ⟨container, rest, place⟩ (not_holds_of_isNullish null)
      · exact ih found

/-- A type with null among its alternatives resolves only if it is a union alias. -/
theorem AdmitsNull.isNamedUnion {type : Descriptor} (null : type.AdmitsNull) {resolved : SchemaType}
    (h : type.resolve = .ok resolved) : type.IsNamedUnion := by
  cases null with
  | nullish => cases h
  | member _ _ => exact isNamedUnion_of_resolve h

/-- A type that does not resolve is reported. -/
theorem resolve_ok_or_unsupported (type : Descriptor) :
    (∃ resolved, type.resolve = .ok resolved) ∨
      ∃ display, type.resolve = .error (.unsupportedType display) := by
  rcases type.resolve_ok_or_firstForeign with ⟨_, found⟩ | ⟨part, _, failed⟩
  · exact .inl found
  · exact .inr ⟨part.display, failed⟩

end Source.Descriptor

/-! ## The properties of a document -/

namespace Source

open Grammar

/-- The entry writes an interface, or an alias of an object type, with these properties. -/
inductive Grammar.WritesProperties : Json → String → List Json → Prop
  | interface {fields : List (String × Json)} {name : String} {items : List Json} :
      Declares fields "interface" name → ListsAt fields "properties" items →
      WritesProperties (.obj fields) name items
  | object {fields parts : List (String × Json)} {name : String} {content : Json}
      {items : List Json} : Declares fields "type-alias" name →
      Json.field? "type" fields = some (.obj parts) →
      firstPart? parts = some (.object, content) → Lists content items →
      WritesProperties (.obj fields) name items

/-- An expression of an object type is written as one, or it is a name that is looked up. -/
theorem object_or_source_of_classify {refer : String → Except Failure Descriptor} {expr : TypeExpr}
    {display : String} {properties : List Property}
    (h : expr.classify refer = .ok (.object display properties)) :
    (∃ exprs, expr = .object exprs ∧ PropertyExpr.classifyAll refer exprs = .ok properties) ∨
      ∃ source, refer source = .ok (.object display properties) := by
  cases expr with
  | named own =>
    rcases classify_named_cases own with ⟨_, _, array⟩ | ⟨_, found, builtin⟩ | ⟨_, looked⟩
    · rw [array] at h
      obtain ⟨_, _, same⟩ := map_eq_ok_iff.mp h
      cases same
    · rw [builtin] at h
      cases h
      unfold builtin? at found
      split at found <;> cases found
    · rw [looked] at h
      exact .inr ⟨own, h⟩
  | object exprs =>
    rw [TypeExpr.classify] at h
    obtain ⟨typed, found, same⟩ := map_eq_ok_iff.mp h
    cases same
    exact .inl ⟨exprs, rfl, found⟩
  | array _ | generic _ _ | union _ =>
    rw [TypeExpr.classify] at h
    obtain ⟨_, _, same⟩ := map_eq_ok_iff.mp h
    cases same
  | literal value =>
    rw [TypeExpr.classify] at h
    cases value <;> cases h
  | bareArray | malformed _ =>
    rw [TypeExpr.classify] at h
    cases h

/-- What is read as an object type is an object whose first part says so. -/
theorem exists_parts_of_ofJson {raw : Json} {exprs : List PropertyExpr}
    (h : TypeExpr.ofJson raw = .object exprs) :
    ∃ parts content, raw = .obj parts ∧ firstPart? parts = some (.object, content) ∧
      exprs = PropertyExpr.listOfJson objectOwner content := by
  obtain ⟨parts, content, rfl, first⟩ := exists_firstPart? (by rw [h]; rfl)
  rw [TypeExpr.ofJson_obj, first] at h
  cases h
  exact ⟨parts, content, rfl, first, rfl⟩

variable {entry : Json} {entries : List Json} {table : List Outline}

/-- The table has the outlines of these entries. -/
def Tabulates (entries : List Json) (table : List Outline) : Prop :=
  List.Forall₂ (fun entry outline => Outline.ofJson entry = .ok outline) entries table

/-- In the table of a document, an alias of an object type is known to have an `object` part. -/
theorem Tabulates.objectShaped (tabulates : Tabulates entries table) {own : String} {shaped : Bool}
    {exprs : List PropertyExpr} (inside : .typeAlias own shaped (some (.object exprs)) ∈ table) :
    shaped = true := by
  obtain ⟨entry, _, read⟩ := exists_left_of_forall₂ tabulates inside
  obtain ⟨fields, _, _, _, shape, type⟩ := ofJson_typeAlias read
  obtain ⟨raw, held, same⟩ := Option.map_eq_some_iff.mp type.symm
  obtain ⟨parts, content, rfl, first, _⟩ := exists_parts_of_ofJson same
  have object : Json.field? "object" parts = some content := field?_of_firstPart? first
  rw [shape, held, Option.any_some, Outline.hasObjectPart, object]
  rfl

/-- A look-up gives an object type a reference and never the type itself. -/
theorem Tabulates.reference_ne_object (tabulates : Tabulates entries table)
    {expanding : List String} {name display : String} {properties : List Property} :
    reference table expanding name ≠ .ok (.object display properties) := by
  intro h
  fun_induction reference table expanding name with
  | case7 expanding name own shaped plain fresh expr found _ ih =>
    obtain ⟨target, classified, same⟩ := map_eq_ok_iff.mp h
    have object : target = .object display properties := by
      cases target <;> cases same
      rfl
    rw [object] at classified
    rcases object_or_source_of_classify classified with ⟨exprs, rfl, _⟩ | ⟨source, looked⟩
    · exact plain (tabulates.objectShaped (List.mem_of_find?_eq_some found))
    · exact ih source looked
  | _ => cases h

/-- An expression of an object type in a document is written as one. -/
theorem Tabulates.exists_object (tabulates : Tabulates entries table) {expr : TypeExpr}
    {expanding : List String} {display : String} {properties : List Property}
    (h : expr.classify (reference table expanding) = .ok (.object display properties)) :
    ∃ exprs, expr = .object exprs ∧
      PropertyExpr.classifyAll (reference table expanding) exprs = .ok properties := by
  rcases object_or_source_of_classify h with object | ⟨source, looked⟩
  · exact object
  · exact absurd looked tabulates.reference_ne_object

/-- The properties that are read from a list are read from its items, one from each. -/
theorem forall₂_readsAs {refer : String → Except Failure Descriptor} {owner : String} {raw : Json}
    {properties : List Property}
    (h : PropertyExpr.classifyAll refer (PropertyExpr.listOfJson owner raw) = .ok properties) :
    ∃ items, raw.items? = some items ∧ List.Forall₂ (ReadsAs refer) items properties := by
  obtain ⟨items, listed, _⟩ := classifyAll_properties_iff.mp ⟨properties, h⟩
  rw [PropertyExpr.classifyAll_eq_mapM, mapM_eq_ok_iff, PropertyExpr.listOfJson_eq, listed,
    List.forall₂_map_left_iff] at h
  exact ⟨items, listed, h.imp fun _ _ => classify_property_eq_ok_iff.mp⟩

/-- The properties of a declaration are read from what its entry writes. -/
theorem Tabulates.exists_writesProperties (tabulates : Tabulates entries table) {outline : Outline}
    {declaration : Declaration} {properties : List Property} (outlined : Outlined entry outline)
    (classified : outline.classify table [] = .ok declaration)
    (has : declaration.HasProperties properties) :
    ∃ items, WritesProperties entry declaration.name items ∧
      List.Forall₂ (ReadsAs (reference table [])) items properties := by
  cases outlined with
  | enum declares =>
    obtain ⟨_, _, rfl⟩ := map_eq_ok_iff.mp classified
    cases has
  | interface declares =>
    obtain ⟨_, read, rfl⟩ := map_eq_ok_iff.mp classified
    cases has
    obtain ⟨items, listed, each⟩ := forall₂_readsAs read
    exact ⟨items, .interface declares (items?_listField_iff.mp listed), each⟩
  | @typeAlias fields name declares =>
    cases held : Json.field? "type" fields with
    | none =>
      rw [held] at classified
      cases classified
    | some raw =>
      rw [held] at classified
      obtain ⟨type, read, rfl⟩ := map_eq_ok_iff.mp classified
      cases has
      obtain ⟨exprs, object, typed⟩ := tabulates.exists_object read
      obtain ⟨parts, content, rfl, first, rfl⟩ := exists_parts_of_ofJson object
      obtain ⟨items, listed, each⟩ := forall₂_readsAs typed
      exact ⟨items, .object declares held first (items?_eq_some_iff.mp listed), each⟩

/-- A property that is read has a type. -/
theorem ReadsAs.exists_typed {refer : String → Except Failure Descriptor} {raw : Json}
    {property : Property} (h : ReadsAs refer raw property) :
    ∃ name type optional, property = .typed name type optional := by
  obtain ⟨_, name, _, type, _, _, _, _, same⟩ := h
  exact ⟨name, type, _, same⟩

end Source

/-! ## What becomes of null -/

open Source (Property readDocument)
open Schema (resolveProperty)

/-- **Null is lost only in union aliases.** Every property of a document has a type. Null among the
alternatives of the whole type, as it is read, makes the field optional, and the field then has the
type of the one alternative that is left. A type with null among the alternatives of an array element
or of an argument, at any depth, is reported as one that is not supported, unless the null is that of
a union alias. Ambiguous aliases are the exception: they are read as records where they are used, so
null among their alternatives is not in the type and makes no field optional. -/
theorem null_lost_only_in_union_aliases {document : Json} {declarations : List Source.Declaration}
    (read : readDocument document = .ok declarations) {declaration : Source.Declaration}
    (inside : declaration ∈ declarations) {properties : List Property}
    (has : declaration.HasProperties properties) {property : Property}
    (listed : property ∈ properties) :
    ∃ name type optional, property = .typed name type optional ∧
      (∀ part, type.Holds part → part.AdmitsNull → ¬ part.IsNamedUnion →
        ∃ display, resolveProperty property = .error (.unsupportedType display)) ∧
      ∀ field, resolveProperty property = .ok field →
        field.name = name ∧ (field.optional = true ↔ optional = true ∨ type.AdmitsNull) ∧
        ∃ rest, Source.Descriptor.remaining type.alternatives = [rest] ∧
          rest.resolve = .ok field.type := by
  obtain ⟨entries, table, _, outlined, classified⟩ := Source.readDocument_eq_ok_iff.mp read
  obtain ⟨outline, member, classified⟩ := exists_left_of_forall₂ classified inside
  obtain ⟨entry, _, entered⟩ := exists_left_of_forall₂ outlined member
  have tabulates : Source.Tabulates entries table := outlined
  obtain ⟨items, _, each⟩ :=
    tabulates.exists_writesProperties (Source.outlined_iff.mp entered) classified has
  obtain ⟨item, _, reads⟩ := exists_left_of_forall₂ each listed
  obtain ⟨name, type, optional, rfl⟩ := reads.exists_typed
  refine ⟨name, type, optional, rfl, ?_, ?_⟩
  · intro part holds null unnamed
    rcases type.nonNullable.resolve_ok_or_unsupported with ⟨resolved, found⟩ | ⟨display, failed⟩
    · obtain ⟨inner, resolvedPart⟩ := holds.exists_resolve_of_nonNullable found
      exact absurd (null.isNamedUnion resolvedPart) unnamed
    · refine ⟨display, ?_⟩
      rw [resolveProperty, failed]
      rfl
  · intro field resolved
    obtain ⟨fieldType, found, rfl⟩ := map_eq_ok_iff.mp resolved
    refine ⟨rfl, ?_, type.exists_remaining_of_nonNullable found⟩
    rw [Bool.or_eq_true, type.isNullable_iff]

/-- An interface with an array whose elements may be null. -/
def nullableElements : Json :=
  .arr [.obj [("kind", .str "interface"), ("name", .str "Device"), ("properties",
    .arr [.obj [("name", .str "labels"),
      ("type", .obj [("array", .obj [("union", .arr [.str "string", .str "null"])])])]])]]

/-- The type of those elements. -/
def nullableElement : Source.Descriptor :=
  .union "string | null" none [.primitive .string "string", .nullish .null "null"]

theorem null_lost_only_in_union_aliases_elements :
    readDocument nullableElements = .ok [.interface "Device"
        [.typed "labels" (.array "string | null[]" nullableElement) false]] ∧
      nullableElement.AdmitsNull ∧
      ∃ display, resolveProperty (.typed "labels" (.array "string | null[]" nullableElement) false)
        = .error (.unsupportedType display) := by
  have read : readDocument nullableElements = .ok [.interface "Device"
      [.typed "labels" (.array "string | null[]" nullableElement) false]] := by cbv
  have null : nullableElement.AdmitsNull := .member (.tail _ (.head _)) .nullish
  have unnamed : ¬ nullableElement.IsNamedUnion := by
    intro named
    cases named
  obtain ⟨_, _, _, same, reported, _⟩ := null_lost_only_in_union_aliases read List.mem_cons_self
    .interface List.mem_cons_self
  cases same
  exact ⟨read, null, reported nullableElement ⟨_, .refl, .element⟩ null unnamed⟩

/-- A union alias with null among its members, and an interface with an array of it. -/
def nullableAlias : Json :=
  .arr [.obj [("kind", .str "type-alias"), ("name", .str "Status"), ("type", .obj [("union",
      .arr [.obj [("literal", .str "on")], .obj [("literal", .str "off")], .str "null"])])],
    .obj [("kind", .str "interface"), ("name", .str "Device"), ("properties",
      .arr [.obj [("name", .str "modes"), ("type", .str "Status[]")]])]]

/-- The type of the alias: under its own declaration it has no name, and where it is used it goes by
the name of the alias. -/
def nullableStatus (display : String) (aliasName : Option String) : Source.Descriptor :=
  .union display aliasName [.literal .string "\"on\"" (some (.text "on")),
    .literal .string "\"off\"" (some (.text "off")), .nullish .null "null"]

/-- The elements of the array may be null in the document, but not in the field. -/
theorem null_lost_in_elements_of_union_alias :
    readDocument nullableAlias = .ok
        [.typeAlias "Status" (nullableStatus "\"on\" | \"off\" | null" none), .interface "Device"
          [.typed "modes" (.array "Status[]" (nullableStatus "Status" (some "Status"))) false]] ∧
      (Source.Descriptor.array "Status[]" (nullableStatus "Status" (some "Status"))).Holds
        (nullableStatus "Status" (some "Status")) ∧
      (nullableStatus "Status" (some "Status")).AdmitsNull ∧
      resolveProperty
          (.typed "modes" (.array "Status[]" (nullableStatus "Status" (some "Status"))) false)
        = .ok ⟨"modes", .array (.reference .enum "Status"), false⟩ := by
  refine ⟨by cbv, ⟨_, .refl, .element⟩, ?_, rfl⟩
  exact .member (.tail _ (.tail _ (.head _))) .nullish

end NativeRecords
