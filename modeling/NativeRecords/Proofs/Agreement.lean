/-
# NativeRecords.Proofs.Agreement -- references and what they name

What a name is gets decided twice: by the look-up at each of its uses, which asks whether the type
of an alias has an `object` part, and by its own declaration, whose type is read by the first part
that it has. The schema of a document is traced here entry by entry, so that the two decisions can
be compared. They agree with one exception. A type with a `union` part and an `object` part is a
record where it is used and an enum where it is declared.
-/
import NativeRecords.Proofs.Order
import NativeRecords.Proofs.References
import NativeRecords.Schema.Build

namespace NativeRecords

namespace Source

/-! ## The outlines of a document -/

theorem readAll_eq_iff {entries : List Json} {table : List Outline} :
    Outline.readAll entries = (table, none) ↔
      List.Forall₂ (fun entry outline => Outline.ofJson entry = .ok outline) entries table := by
  induction entries generalizing table with
  | nil =>
    rw [Outline.readAll, List.forall₂_nil_left_iff]
    constructor
    · intro h
      cases h
      rfl
    · rintro rfl
      rfl
  | cons entry entries ih =>
    rw [Outline.readAll, List.forall₂_cons_left_iff]
    cases read : Outline.ofJson entry with
    | error failure =>
      constructor
      · intro h
        cases h
      · rintro ⟨_, _, h, _⟩
        cases h
    | ok outline =>
      constructor
      · intro h
        obtain ⟨rfl, stop⟩ := Prod.mk.inj h
        exact ⟨outline, _, rfl, ih.mp (Prod.ext rfl stop), rfl⟩
      · rintro ⟨_, outlines, h, rest, rfl⟩
        cases h
        rw [ih.mpr rest]

/-- A document is read when each entry has an outline and each outline is classified. -/
theorem readDocument_eq_ok_iff {document : Json} {declarations : List Declaration} :
    readDocument document = .ok declarations ↔
      ∃ entries table, entries? document = some entries ∧
        List.Forall₂ (fun entry outline => Outline.ofJson entry = .ok outline) entries table ∧
        List.Forall₂ (fun outline declaration => outline.classify table [] = .ok declaration) table
          declarations := by
  rw [readDocument]
  cases listed : entries? document with
  | none =>
    constructor
    · intro h
      cases h
    · rintro ⟨_, _, h, _⟩
      cases h
  | some entries =>
    cases read : Outline.readAll entries with
    | mk table stop =>
      cases stop with
      | some failure =>
        constructor
        · intro h
          simp only [read] at h
          cases h
        · rintro ⟨_, outlines, h, outlined, _⟩
          cases h
          rw [readAll_eq_iff.mpr outlined] at read
          cases read
      | none =>
        simp only [read, mapM_eq_ok_iff]
        constructor
        · intro classified
          exact ⟨entries, table, rfl, readAll_eq_iff.mp read, classified⟩
        · rintro ⟨_, outlines, h, outlined, classified⟩
          cases h
          rw [readAll_eq_iff.mpr outlined] at read
          cases read
          exact classified

/-- The name that an entry of a document declares. -/
def declaredName? : Json → Option String
  | .obj fields =>
    match Json.field? "name" fields with
    | some (.str name) => some name
    | _ => none
  | _ => none

theorem declaredName?_of_ofJson {entry : Json} {outline : Outline}
    (h : Outline.ofJson entry = .ok outline) : declaredName? entry = some outline.name := by
  unfold Outline.ofJson at h
  split at h
  · rename_i fields
    split at h
    · rename_i name named
      split at h
      · cases h
      · split at h <;> cases h <;> simp only [declaredName?, named] <;> rfl
    · cases h
  · cases h

theorem Outline.name_of_classify {table : List Outline} {expanding : List String} {outline : Outline}
    {declaration : Declaration} (h : outline.classify table expanding = .ok declaration) :
    declaration.name = outline.name := by
  unfold Outline.classify at h
  split at h
  · obtain ⟨_, _, rfl⟩ := map_eq_ok_iff.mp h
    rfl
  · obtain ⟨_, _, rfl⟩ := map_eq_ok_iff.mp h
    rfl
  · cases h
  · obtain ⟨_, _, rfl⟩ := map_eq_ok_iff.mp h
    rfl

theorem Outline.map_name_of_classify {table outlines : List Outline} {expanding : List String}
    {declarations : List Declaration}
    (h : List.Forall₂ (fun outline declaration => outline.classify table expanding = .ok declaration)
      outlines declarations) : declarations.map Declaration.name = outlines.map Outline.name :=
  (map_eq_map_of_forall₂ h fun _ _ classified => (name_of_classify classified).symm).symm

/-- The declaration is an interface, or an alias of an object type, with these properties. -/
inductive Declaration.HasProperties : Declaration → List Property → Prop
  | interface {name : String} {properties : List Property} :
      HasProperties (.interface name properties) properties
  | object {name display : String} {properties : List Property} :
      HasProperties (.typeAlias name (.object display properties)) properties

end Source

/-! ## The kinds of declarations -/

namespace Schema

/-- What a reference to the declaration should say that it names. -/
def Declaration.kind : Declaration → ReferenceKind
  | .enum _ => .enum
  | .record _ => .record

/-- An enum is made of members if there are any, if all of them are texts or none is, and if no
number among them has a fraction. -/
theorem makeEnum_eq_ok_iff {name : String} {members : List EnumMember} {made : EnumDeclaration} :
    makeEnum name members = .ok made ↔ made = ⟨name, members⟩ ∧ members ≠ [] ∧
      ((∀ member ∈ members, member.isText = true) ∨ ∀ member ∈ members, member.isText = false) ∧
      ∀ member ∈ members, fractional? member = none := by
  have uniform : (members.any EnumMember.isText && !members.all EnumMember.isText) = true ↔
      ¬((∀ member ∈ members, member.isText = true) ∨
        ∀ member ∈ members, member.isText = false) := by
    simp [and_comm]
  rw [makeEnum, ← List.findSome?_eq_none_iff]
  by_cases empty : members = []
  · simp [empty]
  · rw [if_neg (by simpa using empty)]
    split
    · rename_i mixed
      simp [uniform.mp mixed]
    · rename_i plain
      rw [uniform, not_not] at plain
      cases members.findSome? fractional? with
      | none =>
        simp only [Except.ok.injEq, ne_eq, empty, not_false_eq_true, plain, and_true]
        exact eq_comm
      | some value => simp

theorem name_of_makeEnum {name : String} {members : List EnumMember} {made : EnumDeclaration}
    (h : makeEnum name members = .ok made) : made.name = name := by
  obtain ⟨rfl, _⟩ := makeEnum_eq_ok_iff.mp h
  rfl

/-- An enum declaration becomes an enum of its name. -/
theorem resolve_enum {name : String} {members : List EnumMember} {resolved : Declaration}
    (h : resolve (.enum name members) = .ok resolved) :
    resolved.name = name ∧ resolved.kind = .enum := by
  obtain ⟨made, inner, rfl⟩ := map_eq_ok_iff.mp h
  obtain ⟨numbered, _, inner⟩ := bind_eq_ok_iff.mp inner
  exact ⟨name_of_makeEnum inner, rfl⟩

theorem name_of_resolveRecord {name : String} {properties : List Source.Property}
    {resolved : RecordDeclaration} (h : resolveRecord name properties = .ok resolved) :
    resolved.name = name := by
  obtain ⟨_, _, rfl⟩ := map_eq_ok_iff.mp h
  rfl

/-- An alias that is resolved stands for a union of literals, which are the members of an enum, or for
an object type, whose properties are those of a record. -/
theorem resolveAlias_cases {name : String} {type : Source.Descriptor} {resolved : Declaration}
    (h : resolveAlias name type = .ok resolved) :
    (∃ display aliasName members literals made, type = .union display aliasName members ∧
      literalMembers? members = some literals ∧ makeEnum name literals = .ok made ∧
      resolved = .enum made) ∨
    ∃ display properties made, type = .object display properties ∧
      resolveRecord name properties = .ok made ∧ resolved = .record made := by
  unfold resolveAlias at h
  split at h
  · rename_i display aliasName members
    split at h
    · rename_i literals found
      obtain ⟨made, inner, rfl⟩ := map_eq_ok_iff.mp h
      exact .inl ⟨display, aliasName, members, literals, made, rfl, found, inner, rfl⟩
    · cases h
  · rename_i display properties
    obtain ⟨made, inner, rfl⟩ := map_eq_ok_iff.mp h
    exact .inr ⟨display, properties, made, rfl, inner, rfl⟩
  · cases h

/-- An alias becomes an enum or a record of its name, according to whether it stands for a union.
-/
theorem resolveAlias_ok {name : String} {type : Source.Descriptor} {resolved : Declaration}
    (h : resolveAlias name type = .ok resolved) :
    resolved.name = name ∧ (resolved.kind = .enum ↔ type.isUnion = true) := by
  obtain ⟨_, _, _, _, made, rfl, _, inner, rfl⟩ | ⟨_, _, made, rfl, inner, rfl⟩ :=
    resolveAlias_cases h
  · exact ⟨name_of_makeEnum inner, by simp [Declaration.kind, Source.Descriptor.isUnion]⟩
  · exact ⟨name_of_resolveRecord inner, by simp [Declaration.kind, Source.Descriptor.isUnion]⟩

theorem name_of_resolve {declaration : Source.Declaration} {resolved : Declaration}
    (h : resolve declaration = .ok resolved) : resolved.name = declaration.name := by
  cases declaration with
  | enum name members => exact (resolve_enum h).1
  | interface name properties =>
    obtain ⟨made, inner, rfl⟩ := map_eq_ok_iff.mp h
    exact name_of_resolveRecord inner
  | typeAlias name type => exact (resolveAlias_ok h).1
  | untypedAlias name => cases h
  | unclassified name => cases h

end Schema

/-! ## The schema of a document, entry by entry -/

namespace Source

variable {document : Json} {table : List Outline} {schema : List Schema.Declaration}
  {kind : ReferenceKind} {name : String}

/-- The outline becomes the declaration of the schema. -/
def Outline.Becomes (table : List Outline) (outline : Outline) (resolved : Schema.Declaration) :
    Prop :=
  ∃ declaration, outline.classify table [] = .ok declaration ∧
    Schema.resolve declaration = .ok resolved

theorem Outline.Becomes.name_eq {outline : Outline} {resolved : Schema.Declaration}
    (h : outline.Becomes table resolved) : resolved.name = outline.name := by
  obtain ⟨declaration, classified, made⟩ := h
  rw [Schema.name_of_resolve made, name_of_classify classified]

/-- The schema has one declaration for each outline of the document. -/
structure Traced (document : Json) (table : List Outline) (schema : List Schema.Declaration) :
    Prop where
  outlines : ∃ entries, entries? document = some entries ∧
    List.Forall₂ (fun entry outline => Outline.ofJson entry = .ok outline) entries table
  distinct : (table.map Outline.name).Nodup
  distinctSchema : (schema.map Schema.Declaration.name).Nodup
  forth : ∀ outline ∈ table, ∃ resolved ∈ schema, outline.Becomes table resolved
  back : ∀ resolved ∈ schema, ∃ outline ∈ table, outline.Becomes table resolved

theorem exists_traced {declarations : List Declaration} (read : readDocument document = .ok declarations)
    (built : Schema.build declarations = .ok schema) : ∃ table, Traced document table schema := by
  obtain ⟨entries, table, listed, outlined, classified⟩ := readDocument_eq_ok_iff.mp read
  obtain ⟨resolved, made, ordered⟩ := bind_eq_ok_iff.mp built
  rw [mapM_eq_ok_iff] at made
  obtain ⟨perm, distinctSchema⟩ := Schema.perm_of_order ordered
  have sameNames : table.map Outline.name = resolved.map Schema.Declaration.name := by
    rw [map_eq_map_of_forall₂ classified fun _ _ h => (Outline.name_of_classify h).symm,
      map_eq_map_of_forall₂ made fun _ _ h => (Schema.name_of_resolve h).symm]
  refine ⟨table, ⟨entries, listed, outlined⟩, ?_, distinctSchema, ?_, ?_⟩
  · rw [sameNames]
    exact (perm.map _).nodup_iff.mp distinctSchema
  · intro outline inside
    obtain ⟨declaration, member, found⟩ := exists_right_of_forall₂ classified inside
    obtain ⟨last, member, made⟩ := exists_right_of_forall₂ made member
    exact ⟨last, perm.mem_iff.mpr member, declaration, found, made⟩
  · intro last inside
    obtain ⟨declaration, member, made⟩ := exists_left_of_forall₂ made (perm.mem_iff.mp inside)
    obtain ⟨outline, member, found⟩ := exists_left_of_forall₂ classified member
    exact ⟨outline, member, declaration, found, made⟩

/-! ## Each reference has its entry -/

/-- The references of a record come from its properties. -/
theorem exists_property_of_resolveRecord {own : String} {properties : List Property}
    {resolved : Schema.RecordDeclaration} (h : Schema.resolveRecord own properties = .ok resolved)
    (mention : (Schema.Declaration.record resolved).Mentions kind name) :
    ∃ owner type optional, .typed owner type optional ∈ properties ∧ type.Uses kind name := by
  obtain ⟨fields, made, rfl⟩ := map_eq_ok_iff.mp h
  rw [mapM_eq_ok_iff] at made
  obtain ⟨field, inside, mention⟩ := mention
  obtain ⟨property, member, resolvedField⟩ := exists_left_of_forall₂ made inside
  cases property with
  | untyped owner optional => cases resolvedField
  | typed owner type optional =>
    obtain ⟨_, found, rfl⟩ := map_eq_ok_iff.mp resolvedField
    exact ⟨owner, type, optional, member,
      Descriptor.uses_of_nonNullable type (Descriptor.uses_of_resolve found mention)⟩

/-- Every reference in a declaration answers to an entry of the table that it was made from. -/
theorem Outline.Becomes.referredAs {outline : Outline} {resolved : Schema.Declaration}
    (h : outline.Becomes table resolved) (mention : resolved.Mentions kind name) :
    ReferredAs table kind name := by
  obtain ⟨declaration, classified, made⟩ := h
  -- only a record has fields, and a record is made from an interface or from an object type
  cases resolved with
  | enum e =>
    obtain ⟨_, inside, _⟩ := mention
    cases inside
  | record r =>
    unfold Outline.classify at classified
    split at classified
    · obtain ⟨members, _, rfl⟩ := map_eq_ok_iff.mp classified
      obtain ⟨_, _, same⟩ := map_eq_ok_iff.mp made
      cases same
    · rename_i own properties
      obtain ⟨typed, found, rfl⟩ := map_eq_ok_iff.mp classified
      obtain ⟨_, inner, same⟩ := map_eq_ok_iff.mp made
      cases same
      obtain ⟨_, _, _, inside, uses⟩ := exists_property_of_resolveRecord inner mention
      obtain ⟨_, _, looked, uses⟩ := supplies_of_classifyProperties properties found inside uses
      exact referredAs_of_reference looked uses
    · cases classified
    · rename_i own shaped expr
      obtain ⟨type, found, rfl⟩ := map_eq_ok_iff.mp classified
      obtain ⟨_, _, _, _, _, _, _, _, same⟩ | ⟨_, _, _, rfl, inner, same⟩ :=
        Schema.resolveAlias_cases made
      · cases same
      · cases same
        obtain ⟨_, _, _, inside, uses⟩ := exists_property_of_resolveRecord inner mention
        obtain ⟨_, _, looked, uses⟩ := supplies_of_classify expr found (.property inside uses)
        exact referredAs_of_reference looked uses

/-- Every reference in the schema answers to an entry of the symbol table. -/
theorem Traced.referredAs (traced : Traced document table schema) {resolved : Schema.Declaration}
    (inside : resolved ∈ schema) (mention : resolved.Mentions kind name) :
    ReferredAs table kind name := by
  obtain ⟨outline, _, becomes⟩ := traced.back resolved inside
  exact becomes.referredAs mention

/-- A name of the table has a declaration in the schema. -/
theorem Traced.exists_declaration (traced : Traced document table schema) {outline : Outline}
    (found : table.find? (·.name = name) = some outline) :
    ∃ resolved ∈ schema, resolved.name = name ∧ outline.Becomes table resolved := by
  obtain ⟨resolved, inside, becomes⟩ := traced.forth outline (List.mem_of_find?_eq_some found)
  have named : outline.name = name := by simpa using List.find?_some found
  exact ⟨resolved, inside, becomes.name_eq.trans named, becomes⟩

/-- An entry of the document declares `name` as an alias of a type that has both a `union` part and
an `object` part. -/
def AmbiguousAlias (document : Json) (name : String) : Prop :=
  ∃ entries fields parts, entries? document = some entries ∧ .obj fields ∈ entries ∧
    Json.field? "name" fields = some (.str name) ∧
    Json.field? "kind" fields = some (.str "type-alias") ∧
    Json.field? "type" fields = some (.obj parts) ∧
    (Json.field? "union" parts).isSome = true ∧ (Json.field? "object" parts).isSome = true

/-- The entry of an alias. -/
theorem ofJson_typeAlias {entry : Json} {own : String} {shaped : Bool} {type : Option TypeExpr}
    (h : Outline.ofJson entry = .ok (.typeAlias own shaped type)) :
    ∃ fields, entry = .obj fields ∧ Json.field? "name" fields = some (.str own) ∧
      Json.field? "kind" fields = some (.str "type-alias") ∧
      shaped = (Json.field? "type" fields).any Outline.hasObjectPart ∧
      type = (Json.field? "type" fields).map TypeExpr.ofJson := by
  unfold Outline.ofJson at h
  split at h
  · rename_i fields
    split at h
    · rename_i name named
      split at h
      · cases h
      · split at h
        · cases h
        · cases h
        · rename_i kindOk
          cases h
          refine ⟨fields, rfl, named, ?_, rfl, rfl⟩
          rw [Json.fieldOrNull] at kindOk
          cases kind : Json.field? "kind" fields with
          | none =>
            rw [kind] at kindOk
            cases kindOk
          | some value =>
            rw [kind, Option.getD_some] at kindOk
            rw [kindOk]
        · cases h
    · cases h
  · cases h

/-- An alias of an object of parts resolves only if it is read as a union or as an object, and
which of the two it is depends on whether it has a `union` part. -/
theorem kind_of_resolveAlias_parts {refer : String → Except Failure Descriptor} {own : String}
    {parts : List (String × Json)} {type : Descriptor} {resolved : Schema.Declaration}
    (classified : (TypeExpr.ofJson (.obj parts)).classify refer = .ok type)
    (made : Schema.resolveAlias own type = .ok resolved) :
    resolved.kind = .enum ↔ (Json.field? "union" parts).isSome = true := by
  rw [(Schema.resolveAlias_ok made).2]
  rw [TypeExpr.ofJson] at classified
  -- the parts are tried in turn, and no alias of an array, a generic type or a literal resolves
  split at classified
  · rw [TypeExpr.classify] at classified
    cases classified
    cases made
  · rw [TypeExpr.classify] at classified
    obtain ⟨_, _, rfl⟩ := map_eq_ok_iff.mp classified
    cases made
  · split at classified
    · split at classified <;>
      · rw [TypeExpr.classify] at classified
        obtain ⟨_, _, rfl⟩ := map_eq_ok_iff.mp classified
        cases made
    · split at classified
      · rename_i union
        rw [union, isUnion_of_classify_union classified]
        rfl
      · rename_i union
        rw [union]
        split at classified
        · rename_i value _
          rw [TypeExpr.ofLiteral] at classified
          split at classified <;> rw [TypeExpr.classify] at classified <;> cases classified
          unfold literalType at made
          split at made <;> cases made
        · split at classified
          · rw [TypeExpr.classify] at classified
            obtain ⟨_, _, rfl⟩ := map_eq_ok_iff.mp classified
            simp [Descriptor.isUnion]
          · rw [TypeExpr.classify] at classified
            cases classified

/-- The outline of an ambiguous alias. -/
theorem ofJson_of_ambiguous {fields parts : List (String × Json)} {outline : Outline}
    (h : Outline.ofJson (.obj fields) = .ok outline)
    (named : Json.field? "name" fields = some (.str name))
    (kindOk : Json.field? "kind" fields = some (.str "type-alias"))
    (typed : Json.field? "type" fields = some (.obj parts))
    (object : (Json.field? "object" parts).isSome = true) :
    outline = .typeAlias name true (some (TypeExpr.ofJson (.obj parts))) := by
  have kindIs : Json.fieldOrNull "kind" fields = .str "type-alias" := by
    rw [Json.fieldOrNull, kindOk, Option.getD_some]
  rw [Outline.ofJson] at h
  simp only [named, kindIs, typed] at h
  split at h
  · cases h
  · cases h
    rw [Option.any_some, Outline.hasObjectPart, object, Option.map_some]

/-- The table finds an ambiguous alias as one with an `object` part. -/
theorem Traced.find?_of_ambiguous (traced : Traced document table schema)
    (ambiguous : AmbiguousAlias document name) :
    ∃ parts, (Json.field? "union" parts).isSome = true ∧
      table.find? (·.name = name)
        = some (.typeAlias name true (some (TypeExpr.ofJson (.obj parts)))) := by
  obtain ⟨entries, fields, parts, listed, inside, named, kindOk, typed, union, object⟩ := ambiguous
  obtain ⟨entries', listed', outlined⟩ := traced.outlines
  rw [listed] at listed'
  cases listed'
  obtain ⟨outline, member, read⟩ := exists_right_of_forall₂ outlined inside
  have shape := ofJson_of_ambiguous read named kindOk typed object
  subst shape
  exact ⟨parts, union, find?_of_distinct traced.distinct member⟩

/-- A type with an `object` part is an object of parts. -/
theorem exists_parts_of_hasObjectPart {raw : Json} (h : Outline.hasObjectPart raw = true) :
    ∃ parts, raw = .obj parts ∧ (Json.field? "object" parts).isSome = true := by
  unfold Outline.hasObjectPart at h
  split at h
  · rename_i parts
    exact ⟨parts, rfl, h⟩
  · cases h

/-- An alias that is referred to as a record is declared as an enum exactly if it is ambiguous. -/
theorem Traced.kind_of_objectAlias (traced : Traced document table schema) {own : String}
    {type : Option TypeExpr} {resolved : Schema.Declaration}
    (found : table.find? (·.name = name) = some (.typeAlias own true type))
    (becomes : (Outline.typeAlias own true type).Becomes table resolved) :
    resolved.kind = .enum ↔ AmbiguousAlias document name := by
  have selected := List.find?_some found
  have named : own = name := of_decide_eq_true selected
  subst named
  obtain ⟨declaration, classified, made⟩ := becomes
  constructor
  · intro isEnum
    -- the entry that the outline was read from has the `object` part, and a `union` part before it
    obtain ⟨entries, listed, outlined⟩ := traced.outlines
    obtain ⟨entry, inside, read⟩ :=
      exists_left_of_forall₂ outlined (List.mem_of_find?_eq_some found)
    obtain ⟨fields, rfl, named, kindOk, shaped, rfl⟩ := ofJson_typeAlias read
    obtain ⟨raw, typed, shape⟩ := (Option.any_eq_true _ _).mp shaped.symm
    obtain ⟨parts, rfl, object⟩ := exists_parts_of_hasObjectPart shape
    rw [typed] at classified
    obtain ⟨target, inner, rfl⟩ := map_eq_ok_iff.mp classified
    have union := (kind_of_resolveAlias_parts inner made).mp isEnum
    exact ⟨entries, fields, parts, listed, inside, named, kindOk, typed, union, object⟩
  · intro ambiguous
    -- names are distinct, so the ambiguous entry is the one that the table finds
    obtain ⟨parts, union, found'⟩ := traced.find?_of_ambiguous ambiguous
    rw [found] at found'
    cases found'
    obtain ⟨target, inner, rfl⟩ := map_eq_ok_iff.mp classified
    exact (kind_of_resolveAlias_parts inner made).mpr union

/-- An alias that is referred to as an enum is declared as one. -/
theorem kind_of_unionAlias {own : String} {expr : TypeExpr} {expanding : List String}
    {type : Descriptor} {resolved : Schema.Declaration}
    (classified : expr.classify (reference table expanding) = .ok type) (union : type.isUnion = true)
    (becomes : (Outline.typeAlias own false (some expr)).Becomes table resolved) :
    resolved.kind = .enum := by
  obtain ⟨declaration, classified', made⟩ := becomes
  obtain ⟨target, inner, rfl⟩ := map_eq_ok_iff.mp classified'
  refine (Schema.resolveAlias_ok made).2.mpr ?_
  -- the declaration expands its own type while no alias is being expanded
  exact isUnion_classify_of_fewer (List.nil_subset expanding) classified union inner

/-! ## Agreement -/

/-- What is referred to as an enum is declared as one. -/
theorem Traced.enum_of_referredAs (traced : Traced document table schema)
    (referred : ReferredAs table .enum name) :
    ∃ resolved ∈ schema, resolved.name = name ∧ resolved.kind = .enum := by
  cases referred with
  | enum found =>
    obtain ⟨resolved, inside, named, _, classified, made⟩ := traced.exists_declaration found
    obtain ⟨members, _, rfl⟩ := map_eq_ok_iff.mp classified
    exact ⟨resolved, inside, named, (Schema.resolve_enum made).2⟩
  | unionAlias found union =>
    obtain ⟨resolved, inside, named, becomes⟩ := traced.exists_declaration found
    exact ⟨resolved, inside, named, kind_of_unionAlias union rfl becomes⟩

/-- What is referred to as an enum is not ambiguous. -/
theorem Traced.not_ambiguous_of_referredAs (traced : Traced document table schema)
    (referred : ReferredAs table .enum name) : ¬ AmbiguousAlias document name := by
  intro ambiguous
  obtain ⟨_, _, shaped⟩ := traced.find?_of_ambiguous ambiguous
  cases referred with
  | enum found =>
    rw [found] at shaped
    cases shaped
  | unionAlias found union =>
    rw [found] at shaped
    cases shaped

/-- What is referred to as a record is declared as one unless it is ambiguous. -/
theorem Traced.record_of_referredAs (traced : Traced document table schema)
    (referred : ReferredAs table .record name) :
    ∃ resolved ∈ schema, resolved.name = name ∧
      (resolved.kind = .enum ↔ AmbiguousAlias document name) := by
  cases referred with
  | interface found =>
    obtain ⟨resolved, inside, named, _, classified, made⟩ := traced.exists_declaration found
    obtain ⟨_, _, rfl⟩ := map_eq_ok_iff.mp classified
    obtain ⟨_, _, rfl⟩ := map_eq_ok_iff.mp made
    refine ⟨_, inside, named, ?_⟩
    constructor
    · intro isEnum
      cases isEnum
    · intro ambiguous
      obtain ⟨_, _, shaped⟩ := traced.find?_of_ambiguous ambiguous
      rw [found] at shaped
      cases shaped
  | objectAlias found =>
    obtain ⟨resolved, inside, named, becomes⟩ := traced.exists_declaration found
    exact ⟨resolved, inside, named, traced.kind_of_objectAlias found becomes⟩

end Source

namespace Schema

open Source (AmbiguousAlias readDocument)

/-- Every reference in the schema names a declaration of the kind that it says. -/
def ReferencesAgree (schema : List Declaration) : Prop :=
  ∀ declaration ∈ schema, ∀ kind name, declaration.Mentions kind name →
    ∃ other ∈ schema, other.name = name ∧ other.kind = kind

/-- **References agree with what they name, save for ambiguous aliases.** A reference to an enum
always names an enum. A reference to a record names a record, or an enum if and only if the name is
that of an alias with both a `union` part and an `object` part. So the references of a schema agree
exactly if no field refers to such an alias. -/
theorem references_agree_iff_unambiguous {document : Json} {declarations : List Source.Declaration}
    {schema : List Declaration} (read : readDocument document = .ok declarations)
    (built : build declarations = .ok schema) :
    (schema.map Declaration.name).Nodup ∧
    (∀ declaration ∈ schema, ∀ name, declaration.Mentions .enum name →
      ∃ other ∈ schema, other.name = name ∧ other.kind = .enum) ∧
    (∀ declaration ∈ schema, ∀ name, declaration.Mentions .record name →
      ∃ other ∈ schema, other.name = name ∧
        (other.kind = .enum ↔ AmbiguousAlias document name)) ∧
    (ReferencesAgree schema ↔
      ∀ declaration ∈ schema, ∀ kind name, declaration.Mentions kind name →
        ¬ AmbiguousAlias document name) := by
  obtain ⟨table, traced⟩ := Source.exists_traced read built
  have distinct := traced.distinctSchema
  refine ⟨distinct, ?_, ?_, ?_, ?_⟩
  · intro declaration inside name mention
    exact traced.enum_of_referredAs (traced.referredAs inside mention)
  · intro declaration inside name mention
    exact traced.record_of_referredAs (traced.referredAs inside mention)
  · intro agree declaration inside kind name mention ambiguous
    have referred := traced.referredAs inside mention
    cases kind with
    | enum => exact traced.not_ambiguous_of_referredAs referred ambiguous
    | record =>
      obtain ⟨other, member, named, isRecord⟩ := agree declaration inside .record name mention
      obtain ⟨same, member', named', shape⟩ := traced.record_of_referredAs referred
      -- two declarations of one name are one, and it cannot be of both kinds
      have sameDeclaration : other = same :=
        List.inj_on_of_nodup_map distinct member member' (named.trans named'.symm)
      rw [← sameDeclaration, isRecord] at shape
      cases shape.mpr ambiguous
  · intro unambiguous declaration inside kind name mention
    have referred := traced.referredAs inside mention
    cases kind with
    | enum => exact traced.enum_of_referredAs referred
    | record =>
      obtain ⟨other, member, named, shape⟩ := traced.record_of_referredAs referred
      refine ⟨other, member, named, ?_⟩
      cases kindIs : other.kind with
      | enum => exact absurd (shape.mp kindIs) (unambiguous declaration inside .record name mention)
      | record => rfl

/-- Aliases of a union, of another alias and of an object type, and an interface that refers to each
of them. -/
def sampleDocument : Json :=
  .arr [.obj [("kind", .str "interface"), ("name", .str "Device"),
      ("properties", .arr [.obj [("name", .str "modes"), ("type", .str "Mode[]")],
        .obj [("name", .str "at"), ("type", .str "Point")]])],
    .obj [("kind", .str "type-alias"), ("name", .str "Mode"), ("type", .str "Status")],
    .obj [("kind", .str "type-alias"), ("name", .str "Status"),
      ("type", .obj [("union", .arr [.obj [("literal", .str "on")], .obj [("literal", .str "off")]])])],
    .obj [("kind", .str "type-alias"), ("name", .str "Point"),
      ("type", .obj [("object", .arr [.obj [("name", .str "x"), ("type", .str "number")]])])]]

/-- The schema of `sampleDocument`. -/
def sampleSchema : List Declaration :=
  let members := [⟨"on", some (.text "on")⟩, ⟨"off", some (.text "off")⟩]
  [.enum ⟨"Mode", members⟩, .record ⟨"Point", [⟨"x", .primitive .number, false⟩]⟩,
    .record ⟨"Device", [⟨"modes", .array (.reference .enum "Mode"), false⟩,
      ⟨"at", .reference .record "Point", false⟩]⟩,
    .enum ⟨"Status", members⟩]

theorem references_agree_sample :
    ∃ declarations, readDocument sampleDocument = .ok declarations ∧
      build declarations = .ok sampleSchema ∧ ReferencesAgree sampleSchema := by
  have whole : (readDocument sampleDocument >>= build) = .ok sampleSchema := by cbv
  obtain ⟨declarations, read, built⟩ := bind_eq_ok_iff.mp whole
  refine ⟨declarations, read, built, ?_⟩
  refine (references_agree_iff_unambiguous read built).2.2.2.mpr ?_
  rintro _ _ _ _ _ ⟨_, fields, parts, listed, inside, _, _, typed, union, object⟩
  cases listed
  -- each entry lacks a `type` that is an object, or one of the two parts of it
  rcases inside with _ | ⟨_, _ | ⟨_, _ | ⟨_, _ | ⟨_, ⟨⟩⟩⟩⟩⟩
  · cases typed
  · cases typed
  · cases typed
    cases object
  · cases typed
    cases union

/-- An alias whose type has both parts, and an interface that refers to it. -/
def ambiguousDocument : Json :=
  .arr [.obj [("kind", .str "type-alias"), ("name", .str "Status"),
      ("type", .obj [("union", .arr [.obj [("literal", .str "on")], .obj [("literal", .str "off")]]),
        ("object", .arr [])])],
    .obj [("kind", .str "interface"), ("name", .str "Device"),
      ("properties", .arr [.obj [("name", .str "status"), ("type", .str "Status")]])]]

/-- The schema of `ambiguousDocument`, in which a field refers to an enum as to a record. -/
def ambiguousSchema : List Declaration :=
  [.enum ⟨"Status", [⟨"on", some (.text "on")⟩, ⟨"off", some (.text "off")⟩]⟩,
    .record ⟨"Device", [⟨"status", .reference .record "Status", false⟩]⟩]

theorem references_disagree_ambiguous :
    (readDocument ambiguousDocument >>= build) = .ok ambiguousSchema ∧
      ¬ ReferencesAgree ambiguousSchema := by
  refine ⟨by cbv, ?_⟩
  intro agree
  obtain ⟨other, inside, named, isRecord⟩ :=
    agree _ (.tail _ (.head _)) .record "Status" ⟨_, .head _, .here⟩
  rcases inside with _ | ⟨_, _ | ⟨_, ⟨⟩⟩⟩
  · cases isRecord
  · exact absurd named (by decide)

end Schema

end NativeRecords
