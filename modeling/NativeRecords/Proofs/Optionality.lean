/-
# NativeRecords.Proofs.Optionality -- which fields may be null

Whether a field may be null is decided by one walk over the alternatives of its type, the type that
is left by another, and both see only what the aliases were expanded to. The expansion stops at an
alias that is met again. That hides no null: what a second expansion of an alias could show, the
first one shows. So null is found exactly where the document has it among the alternatives, and a
field is written as one that may be null exactly there or where it is marked.

Aliases with two readings are the exception. They count as records where they are used, so null
among their alternatives is not seen.
-/
import NativeRecords.Proofs.Emission
import NativeRecords.Proofs.Nullability

namespace NativeRecords

namespace Source

open Grammar

/-! ## Null in a type expression -/

section Expansion

variable {table : List Outline} {avoided : List String} {name own : String} {body : TypeExpr}

/-- The words for a missing value. -/
def nullWords : List String := ["null", "undefined"]

/-- Null or undefined is among the alternatives of the expression, through nested unions and through
aliases that are not among those to be avoided. -/
inductive TypeExpr.AdmitsNull (table : List Outline) (avoided : List String) : TypeExpr → Prop
  | word {name : String} : name ∈ nullWords → AdmitsNull table avoided (.named name)
  | member {members : List TypeExpr} {member : TypeExpr} :
      member ∈ members → AdmitsNull table avoided member → AdmitsNull table avoided (.union members)
  | expanded {name own : String} {body : TypeExpr} : IsLookedUp name → name ∉ avoided →
      table.find? (·.name = name) = some (.typeAlias own false (some body)) →
      AdmitsNull table avoided body → AdmitsNull table avoided (.named name)

/-- The words for a missing value are built in, so they are not looked up. -/
theorem IsLookedUp.not_mem_nullWords (looked : IsLookedUp name) : name ∉ nullWords := by
  intro word
  have missing := looked.missing
  rcases word with _ | ⟨_, _ | ⟨_, ⟨⟩⟩⟩ <;> cases missing

/-- Of the names that are looked up, those of aliases admit null if their types do. -/
theorem admitsNull_named_iff (looked : IsLookedUp name) :
    (TypeExpr.named name).AdmitsNull table avoided ↔
      name ∉ avoided ∧ ∃ own body,
        table.find? (·.name = name) = some (.typeAlias own false (some body)) ∧
        body.AdmitsNull table avoided := by
  constructor
  · intro h
    cases h with
    | word word => exact absurd word looked.not_mem_nullWords
    | expanded _ fresh found inner => exact ⟨fresh, _, _, found, inner⟩
  · rintro ⟨fresh, own, body, found, inner⟩
    exact .expanded looked fresh found inner

theorem TypeExpr.AdmitsNull.of_cons {expr : TypeExpr}
    (h : expr.AdmitsNull table (name :: avoided)) : expr.AdmitsNull table avoided := by
  induction h with
  | word word => exact .word word
  | member inside _ ih => exact .member inside ih
  | expanded looked fresh found _ ih =>
    exact .expanded looked (fun inside => fresh (List.mem_cons_of_mem _ inside)) found ih

/-- Null that is found through an alias is found in its type without that alias. -/
theorem TypeExpr.AdmitsNull.avoid
    (found : table.find? (·.name = name) = some (.typeAlias own false (some body)))
    {expr : TypeExpr} (h : expr.AdmitsNull table avoided) :
    expr.AdmitsNull table (name :: avoided) ∨ body.AdmitsNull table (name :: avoided) := by
  induction h with
  | word word => exact .inl (.word word)
  | member inside _ ih => exact ih.imp_left (.member inside)
  | @expanded other _ inner looked fresh foundOther _ ih =>
    by_cases same : other = name
    · -- the alias itself: its type is `body`
      subst same
      rw [found] at foundOther
      cases foundOther
      exact .inr (ih.elim id id)
    · refine ih.imp_left (.expanded looked ?_ foundOther)
      intro inside
      rcases List.mem_cons.mp inside with here | there
      · exact same here
      · exact fresh there

/-- The type of an alias need not be expanded through the alias itself. -/
theorem admitsNull_body_iff
    (found : table.find? (·.name = name) = some (.typeAlias own false (some body))) :
    body.AdmitsNull table (name :: avoided) ↔ body.AdmitsNull table avoided := by
  constructor
  · exact TypeExpr.AdmitsNull.of_cons
  · intro h
    exact (h.avoid found).elim id id

section Classification

variable {refer : String → Except Failure Descriptor}
  (agrees : ∀ name type, IsLookedUp name → refer name = .ok type →
    (type.AdmitsNull ↔ (TypeExpr.named name).AdmitsNull table avoided))

include agrees

theorem admitsNull_classify_named_iff {type : Descriptor}
    (h : (TypeExpr.named name).classify refer = .ok type) :
    type.AdmitsNull ↔ (TypeExpr.named name).AdmitsNull table avoided := by
  rcases classify_named_cases name with ⟨stem, ends, array⟩ | ⟨_, found, builtin⟩ | ⟨looked, asked⟩
  · -- an array is not null, and no word for a missing value ends in `[]`
    rw [array] at h
    obtain ⟨element, _, rfl⟩ := map_eq_ok_iff.mp h
    constructor
    · intro null
      cases null
    · intro null
      cases null with
      | word word =>
        have last := congrArg (fun s : String => s.toList.getLast?) ends
        rcases word with _ | ⟨_, _ | ⟨_, ⟨⟩⟩⟩ <;> simp at last
      | expanded looked => exact absurd ends (looked.plain stem)
  · rw [builtin] at h
    cases h
    constructor
    · intro null
      unfold builtin? at found
      split at found <;> cases found <;> cases null <;> exact .word (by decide)
    · intro null
      cases null with
      | word word => rcases word with _ | ⟨_, _ | ⟨_, ⟨⟩⟩⟩ <;> cases found <;> exact .nullish
      | expanded looked =>
        rw [looked.missing] at found
        cases found
  · rw [asked] at h
    exact agrees name type looked h

/-- A type that is classified admits null exactly if its expression does, provided that this is so
for the names that are looked up. -/
theorem admitsNull_classify_iff (expr : TypeExpr) {type : Descriptor}
    (h : expr.classify refer = .ok type) :
    type.AdmitsNull ↔ expr.AdmitsNull table avoided := by
  match expr with
  | .named name => exact admitsNull_classify_named_iff agrees h
  | .union members =>
    rw [TypeExpr.classify, TypeExpr.classifyAll_eq_mapM] at h
    obtain ⟨types, found, rfl⟩ := map_eq_ok_iff.mp h
    rw [mapM_eq_ok_iff] at found
    constructor
    · intro null
      cases null with
      | member inside null =>
        obtain ⟨member, listed, classified⟩ := exists_left_of_forall₂ found inside
        exact .member listed ((admitsNull_classify_iff member classified).mp null)
    · intro null
      cases null with
      | member listed null =>
        obtain ⟨type, inside, classified⟩ := exists_right_of_forall₂ found listed
        exact .member inside ((admitsNull_classify_iff _ classified).mpr null)
  | .array _ | .generic _ _ | .object _ =>
    rw [TypeExpr.classify] at h
    obtain ⟨_, _, rfl⟩ := map_eq_ok_iff.mp h
    constructor <;> intro null <;> cases null
  | .literal value =>
    rw [TypeExpr.classify] at h
    cases value <;> cases h <;> constructor <;> intro null <;> cases null
  | .bareArray =>
    rw [TypeExpr.classify] at h
    cases h
    constructor <;> intro null <;> cases null
  | .malformed failure =>
    rw [TypeExpr.classify] at h
    cases h
termination_by sizeOf expr

end Classification

/-- What a name stands for admits null exactly if the name does, whatever is being expanded. -/
theorem admitsNull_reference_iff {type : Descriptor} (looked : IsLookedUp name)
    (h : reference table avoided name = .ok type) :
    type.AdmitsNull ↔ (TypeExpr.named name).AdmitsNull table avoided := by
  rw [admitsNull_named_iff looked]
  fun_induction reference table avoided name generalizing type with
  | case7 avoided name own shaped plain fresh body found _ ih =>
    rw [Bool.not_eq_true] at plain
    subst plain
    obtain ⟨target, classified, rfl⟩ := map_eq_ok_iff.mp h
    have inner : target.AdmitsNull ↔ body.AdmitsNull table (name :: avoided) := by
      refine admitsNull_classify_iff (fun other type looked asked => ?_) body classified
      rw [admitsNull_named_iff looked]
      exact ih other looked asked
    rw [Descriptor.admitsNull_aliased, inner, admitsNull_body_iff found]
    constructor
    · intro null
      exact ⟨fresh, own, body, found, null⟩
    · rintro ⟨_, _, _, found', null⟩
      rw [found] at found'
      cases found'
      exact null
  | case5 avoided name own shaped type found plain opened =>
    cases h
    constructor
    · intro null
      cases null
    · rintro ⟨fresh, _⟩
      exact absurd opened fresh
  | case6 => cases h
  | case1 _ _ found | case2 _ _ _ _ found | case3 _ _ _ _ found | case4 _ _ _ _ found =>
    cases h
    constructor
    · intro null
      cases null
    · rintro ⟨_, _, _, found', _⟩
      rw [found] at found'
      cases found'

end Expansion

/-! ## Null in a document -/

/-- Null or undefined is among the alternatives of a type that is written in a document with these
entries, through nested unions and through the aliases that are to be expanded. -/
inductive Grammar.NullAmong (entries : List Json) (Expands : String → Prop) : Json → Prop
  | word {name : String} : name ∈ nullWords → NullAmong entries Expands (.str name)
  | member {fields : List (String × Json)} {content member : Json} {members : List Json} :
      firstPart? fields = some (.union, content) → Lists content members → member ∈ members →
      NullAmong entries Expands member → NullAmong entries Expands (.obj fields)
  | expanded {fields : List (String × Json)} {name : String} {type : Json} :
      IsLookedUp name → Expands name → .obj fields ∈ entries → Declares fields "type-alias" name →
      Json.field? "type" fields = some type → NullAmong entries Expands type →
      NullAmong entries Expands (.str name)

variable {document : Json} {entries : List Json} {table : List Outline}
  {schema : List Schema.Declaration}

theorem Traced.tabulates (traced : Traced document table schema)
    (listed : entries? document = some entries) : Tabulates entries table := by
  obtain ⟨_, listed', outlined⟩ := traced.outlines
  rw [listed] at listed'
  cases listed'
  exact outlined

/-- The table finds an alias as its entry declares it. -/
theorem Traced.find?_of_declares (traced : Traced document table schema)
    (listed : entries? document = some entries) {fields : List (String × Json)} {name : String}
    {type : Json} (inside : .obj fields ∈ entries) (declares : Declares fields "type-alias" name)
    (typed : Json.field? "type" fields = some type) :
    table.find? (·.name = name)
      = some (.typeAlias name (Outline.hasObjectPart type) (some (TypeExpr.ofJson type))) := by
  obtain ⟨outline, member, read⟩ := exists_right_of_forall₂ (traced.tabulates listed) inside
  rw [outlined_iff.mpr (.typeAlias declares), typed] at read
  cases read
  exact find?_of_distinct traced.distinct member

/-- The outline of an alias comes from an entry that declares one. -/
theorem Outlined.exists_declares {entry : Json} {own : String} {shaped : Bool}
    {type : Option TypeExpr} (h : Outlined entry (.typeAlias own shaped type)) :
    ∃ fields, entry = .obj fields ∧ Declares fields "type-alias" own ∧
      type = (Json.field? "type" fields).map TypeExpr.ofJson := by
  generalize same : Outline.typeAlias own shaped type = outline at h
  cases h with
  | enum _ => cases same
  | interface _ => cases same
  | typeAlias declares =>
    cases same
    exact ⟨_, rfl, declares, rfl⟩

/-- Null that the document has among the alternatives is found. -/
theorem Traced.admitsNull_of_nullAmong (traced : Traced document table schema)
    (listed : entries? document = some entries) {raw : Json}
    (h : NullAmong entries (fun name => ¬ AmbiguousAlias document name) raw) :
    (TypeExpr.ofJson raw).AdmitsNull table [] := by
  induction h with
  | word word =>
    rw [TypeExpr.ofJson]
    exact .word word
  | member first lists inside _ ih =>
    rw [TypeExpr.ofJson_obj, first]
    refine .member ?_ ih
    rw [TypeExpr.listOfJson_eq, items?_eq_some_iff.mpr lists]
    exact List.mem_map_of_mem inside
  | @expanded fields name type looked unambiguous inside declares typed null ih =>
    have found := traced.find?_of_declares listed inside declares typed
    -- with an `object` part beside the union the alias would be ambiguous
    have plain : Outline.hasObjectPart type = false := by
      by_contra shaped
      rw [Bool.not_eq_false] at shaped
      obtain ⟨parts, rfl, object⟩ := exists_parts_of_hasObjectPart shaped
      cases null with
      | member first _ _ _ =>
        have union : Json.field? "union" parts = some _ := field?_of_firstPart? first
        exact unambiguous ⟨entries, fields, parts, listed, inside, declares.named, declares.kind,
          typed, by rw [union]; rfl, object⟩
    rw [plain] at found
    rw [TypeExpr.ofJson]
    exact .expanded looked List.not_mem_nil found ih

/-- Null that is found is among the alternatives in the document. -/
theorem Traced.nullAmong_of_admitsNull (traced : Traced document table schema)
    (listed : entries? document = some entries) {expr : TypeExpr} (h : expr.AdmitsNull table [])
    {raw : Json} (read : TypeExpr.ofJson raw = expr) :
    NullAmong entries (fun name => ¬ AmbiguousAlias document name) raw := by
  induction h generalizing raw with
  | word word =>
    rw [eq_str_of_ofJson read]
    exact .word word
  | @member members member inside null ih =>
    obtain ⟨fields, content, rfl, first⟩ := exists_firstPart? (by rw [read]; rfl)
    rw [TypeExpr.ofJson_obj, first] at read
    cases read
    rw [TypeExpr.listOfJson_eq] at inside
    split at inside
    · rename_i items lists
      obtain ⟨item, listedItem, same⟩ := List.mem_map.mp inside
      exact .member first (items?_eq_some_iff.mp lists) listedItem (ih same)
    · rw [List.mem_singleton.mp inside] at null
      cases null
  | @expanded name own body looked _ found _ ih =>
    rw [eq_str_of_ofJson read]
    have unambiguous : ¬ AmbiguousAlias document name := by
      intro ambiguous
      obtain ⟨_, _, shaped⟩ := traced.find?_of_ambiguous ambiguous
      rw [found] at shaped
      cases shaped
    have selected := List.find?_some found
    have named : own = name := of_decide_eq_true selected
    subst named
    obtain ⟨entry, inside, outlined⟩ :=
      exists_left_of_forall₂ (traced.tabulates listed) (List.mem_of_find?_eq_some found)
    obtain ⟨fields, rfl, declares, typed⟩ := (outlined_iff.mp outlined).exists_declares
    obtain ⟨type, typed, same⟩ := Option.map_eq_some_iff.mp typed.symm
    exact .expanded looked unambiguous inside declares typed (ih same)

/-- What a written type is classified to admits null exactly if the document has null among its
alternatives. -/
theorem Traced.admitsNull_iff (traced : Traced document table schema)
    (listed : entries? document = some entries) {written : Json} {type : Descriptor}
    (classified : (TypeExpr.ofJson written).classify (reference table []) = .ok type) :
    type.AdmitsNull ↔ NullAmong entries (fun name => ¬ AmbiguousAlias document name) written := by
  rw [admitsNull_classify_iff (fun _ _ => admitsNull_reference_iff) _ classified]
  constructor
  · intro null
    exact traced.nullAmong_of_admitsNull listed null rfl
  · exact traced.admitsNull_of_nullAmong listed

/-! ## Entries and records -/

/-- An entry that writes properties is read as a declaration that has them. -/
theorem exists_hasProperties {entry : Json} {outline : Outline} {name : String} {items : List Json}
    {declaration : Declaration} (outlined : Outline.ofJson entry = .ok outline)
    (writes : WritesProperties entry name items)
    (classified : outline.classify table [] = .ok declaration) :
    ∃ properties, declaration.HasProperties properties ∧ declaration.name = name ∧
      List.Forall₂ (ReadsAs (reference table [])) items properties := by
  cases writes with
  | interface declares lists =>
    rw [outlined_iff.mpr (.interface declares)] at outlined
    cases outlined
    obtain ⟨properties, read, rfl⟩ := map_eq_ok_iff.mp classified
    obtain ⟨items', lists', each⟩ := forall₂_readsAs read
    rw [items?_listField_iff.mpr lists] at lists'
    cases lists'
    exact ⟨properties, .interface, rfl, each⟩
  | object declares typed first lists =>
    rw [outlined_iff.mpr (.typeAlias declares), typed] at outlined
    cases outlined
    obtain ⟨type, read, rfl⟩ := map_eq_ok_iff.mp classified
    rw [TypeExpr.ofJson_obj, first, TypeExpr.classify] at read
    obtain ⟨properties, typedProperties, rfl⟩ := map_eq_ok_iff.mp read
    obtain ⟨items', lists', each⟩ := forall₂_readsAs typedProperties
    rw [items?_eq_some_iff.mpr lists] at lists'
    cases lists'
    exact ⟨properties, .object, rfl, each⟩

/-- A declaration with properties becomes a record with their fields. -/
theorem Declaration.HasProperties.exists_record {declaration : Declaration}
    {properties : List Property} (has : declaration.HasProperties properties)
    {resolved : Schema.Declaration} (made : Schema.resolve declaration = .ok resolved) :
    ∃ r, resolved = .record r ∧ r.name = declaration.name ∧
      List.Forall₂ (fun property field => Schema.resolveProperty property = .ok field) properties
        r.properties := by
  cases has <;>
  · obtain ⟨made, inner, rfl⟩ := map_eq_ok_iff.mp made
    obtain ⟨fields, each, rfl⟩ := map_eq_ok_iff.mp inner
    exact ⟨_, rfl, rfl, mapM_eq_ok_iff.mp each⟩

/-- An entry that writes properties becomes a record, and each property a field. -/
theorem Traced.exists_record_of_writes (traced : Traced document table schema)
    (listed : entries? document = some entries) {entry : Json} {name : String} {items : List Json}
    (inside : entry ∈ entries) (writes : WritesProperties entry name items) :
    ∃ r, .record r ∈ schema ∧ r.name = name ∧
      List.Forall₂ (fun item field => ∃ property, ReadsAs (reference table []) item property ∧
        Schema.resolveProperty property = .ok field) items r.properties := by
  obtain ⟨outline, member, outlined⟩ := exists_right_of_forall₂ (traced.tabulates listed) inside
  obtain ⟨resolved, inSchema, declaration, classified, made⟩ := traced.forth outline member
  obtain ⟨properties, has, named, reads⟩ := exists_hasProperties outlined writes classified
  obtain ⟨r, rfl, sameName, fields⟩ := has.exists_record made
  refine ⟨r, inSchema, sameName.trans named, forall₂_trans reads fields ?_⟩
  intro item property field read resolved
  exact ⟨property, read, resolved⟩

/-- A record comes from an entry that writes properties. -/
theorem Traced.exists_writes_of_record (traced : Traced document table schema)
    (listed : entries? document = some entries) {r : Schema.RecordDeclaration}
    (inside : .record r ∈ schema) :
    ∃ entry ∈ entries, ∃ items, WritesProperties entry r.name items := by
  have tabulates := traced.tabulates listed
  obtain ⟨outline, member, declaration, classified, made⟩ := traced.back _ inside
  obtain ⟨entry, inEntries, outlined⟩ := exists_left_of_forall₂ tabulates member
  rcases Schema.resolve_cases made with ⟨_, _, _, same⟩ | ⟨properties, made, has, inner, same⟩
  · cases same
  · cases same
    obtain ⟨items, writes, _⟩ :=
      tabulates.exists_writesProperties (outlined_iff.mp outlined) classified has
    rw [← Schema.name_of_resolveRecord inner] at writes
    exact ⟨entry, inEntries, items, writes⟩

end Source

/-! ## Fields -/

namespace Target.Language

open Schema

/-- The field has the text of the type. It may be null, and then starts as null, exactly if it is
optional; otherwise it starts with what a required field of the type starts with. -/
def Shows (language : Language) (enums : List EnumDeclaration) (type : SchemaType)
    (optional : Prop) (field : Field) : Prop :=
  ∃ text, language.typeText type = .ok text ∧
    (field.type = text ++ "?" ∧ field.initial = language.nullLiteral ↔ optional) ∧
    (¬ optional → field.type = text ∧ language.defaultText enums type = .ok field.initial)

theorem append_ne_self {text more : String} (nonempty : more ≠ "") : text ≠ text ++ more := by
  intro same
  have length := congrArg String.length same
  rw [String.length_append] at length
  exact nonempty (String.length_eq_zero_iff.mp (by omega))

theorem shows_of_fieldNamed {language : Language} {enums : List EnumDeclaration} {name : String}
    {property : RecordProperty} {field : Field}
    (h : language.fieldNamed enums name property = .ok field) :
    language.Shows enums property.type (property.optional = true) field := by
  rw [fieldNamed] at h
  obtain ⟨text, typed, h⟩ := bind_eq_ok_iff.mp h
  refine ⟨text, typed, ?_⟩
  split at h
  · rename_i optional
    cases h
    simp [optional, optionalType]
  · rename_i required
    obtain ⟨initial, started, h⟩ := bind_eq_ok_iff.mp h
    cases h
    refine ⟨⟨fun shown => ?_, fun optional => absurd optional required⟩, fun _ => ⟨rfl, started⟩⟩
    exact absurd shown.1 (append_ne_self (by decide))

end Target.Language

/-! ## The law -/

open Source (AmbiguousAlias Tabulates TypeExpr entries? readDocument reference)
open Source.Grammar (NullAmong WritesProperties)

/-- The property is written as this field. Its type is what is left of the written type when null is
removed: one alternative, which resolves. The field may be null exactly if the property is marked as
optional or has null among the alternatives of its type, through the aliases that are expanded. -/
def Target.Language.ShowsProperty (language : Target.Language) (enums : List Schema.EnumDeclaration)
    (entries : List Json) (table : List Source.Outline) (Expands : String → Prop) (item : Json)
    (field : Target.Language.Field) : Prop :=
  ∃ fields written type resolved, item = .obj fields ∧ Json.field? "type" fields = some written ∧
    (TypeExpr.ofJson written).classify (reference table []) = .ok type ∧
    type.nonNullable.resolve = .ok resolved ∧
    (∃ rest, Source.Descriptor.remaining type.alternatives = [rest] ∧
      rest.resolve = .ok resolved) ∧
    language.Shows enums resolved
      ((Json.fieldOrNull "optional" fields).truthy = true ∨ NullAmong entries Expands written) field

/-- A property that is read and resolved is written as it should be. -/
theorem Source.Traced.showsProperty {document : Json} {entries : List Json}
    {table : List Source.Outline} {schema : List Schema.Declaration}
    (traced : Source.Traced document table schema) (listed : entries? document = some entries)
    {item : Json} {property : Source.Property} {resolvedProperty : Schema.RecordProperty}
    {language : Target.Language} {enums : List Schema.EnumDeclaration} {name : String}
    {field : Target.Language.Field} (reads : ReadsAs (reference table []) item property)
    (resolves : Schema.resolveProperty property = .ok resolvedProperty)
    (shown : language.fieldNamed enums name resolvedProperty = .ok field) :
    language.ShowsProperty enums entries table (fun name => ¬ AmbiguousAlias document name) item
      field := by
  obtain ⟨fields, _, written, type, rfl, _, typed, classified, rfl⟩ := reads
  obtain ⟨resolved, found, rfl⟩ := map_eq_ok_iff.mp resolves
  have shows := Target.Language.shows_of_fieldNamed shown
  rw [Bool.or_eq_true, Source.Descriptor.isNullable_iff, traced.admitsNull_iff listed classified]
    at shows
  exact ⟨fields, written, type, resolved, rfl, typed, classified, found,
    type.exists_remaining_of_nonNullable found, shows⟩

/-- **Fields may be null where the document says so.** In a generated file every interface and every
alias of an object type has its section, with a field for each property in their order. The field is
written as one that may be null, and starts as null, exactly if the property is marked as optional
or null is among the alternatives of its type through nested unions and aliases. Only ambiguous
aliases are not looked into; in a document without them the law holds for all aliases. -/
theorem optional_iff_marked_or_null {document : Json} {entries : List Json}
    {declarations : List Source.Declaration} {languageName : String} {settings : Settings}
    {code : String} (listed : entries? document = some entries)
    (read : readDocument document = .ok declarations)
    (generated : generate languageName settings declarations = .ok code) :
    ∃ (language : Target.Language) (table : List Source.Outline) (schema : List Schema.Declaration),
      language.name = languageName ∧ Tabulates entries table ∧
      Schema.build declarations = .ok schema ∧
      (∀ r, .record r ∈ schema → ∃ entry ∈ entries, ∃ items, WritesProperties entry r.name items) ∧
      ∀ entry ∈ entries, ∀ name items, WritesProperties entry name items →
        ∃ before fields after,
          code = "\n\n".intercalate (before ++ language.recordSection name fields :: after) ∧
          List.Forall₂ (language.ShowsProperty (schema.filterMap Schema.Declaration.enum?) entries
            table fun name => ¬ AmbiguousAlias document name) items fields ∧
          ((∀ name, ¬ AmbiguousAlias document name) →
            List.Forall₂ (language.ShowsProperty (schema.filterMap Schema.Declaration.enum?) entries
              table fun _ => True) items fields) := by
  obtain ⟨backend, schema, named, built, written⟩ := Target.exists_schema_of_generate generated
  obtain ⟨table, traced⟩ := Source.exists_traced read built
  refine ⟨backend.language, table, schema, named, traced.tabulates listed, built,
    fun r inside => traced.exists_writes_of_record listed inside, ?_⟩
  intro entry inside name items writes
  obtain ⟨r, inSchema, rfl, resolved⟩ := traced.exists_record_of_writes listed inside writes
  obtain ⟨before, fields, after, split, shown, _⟩ := Target.exists_record_section written inSchema
  have law : List.Forall₂ (backend.language.ShowsProperty
      (schema.filterMap Schema.Declaration.enum?) entries table
      fun name => ¬ AmbiguousAlias document name) items fields := by
    refine forall₂_trans resolved shown ?_
    rintro item resolvedProperty field ⟨property, reads, resolves⟩ ⟨name, fieldNamed⟩
    exact traced.showsProperty listed reads resolves fieldNamed
  refine ⟨before, fields, after, split, law, fun clear => ?_⟩
  have all : (fun name => ¬ AmbiguousAlias document name) = fun _ => True := by
    funext name
    simp [clear name]
  rw [← all]
  exact law

/-- A union alias with null among its members, and an interface with a field of that type, a field
that is marked as optional and a required one. -/
def optionalDocument : Json :=
  .arr [.obj [("kind", .str "type-alias"), ("name", .str "Status"), ("type",
      .obj [("union", .arr [.obj [("literal", .str "on")], .str "null"])])],
    .obj [("kind", .str "interface"), ("name", .str "Device"), ("properties",
      .arr [.obj [("name", .str "status"), ("type", .str "Status")],
        .obj [("name", .str "label"), ("type", .str "string"), ("optional", .int 1)],
        .obj [("name", .str "count"), ("type", .str "number")]])]]

/-- The schema of `optionalDocument`. -/
def optionalSchema : List Schema.Declaration :=
  [.enum ⟨"Status", [⟨"on", some (.text "on")⟩]⟩,
    .record ⟨"Device", [⟨"status", .reference .enum "Status", true⟩,
      ⟨"label", .primitive .string, true⟩, ⟨"count", .primitive .number, false⟩]⟩]

/-- The file of `optionalDocument`. -/
def optionalFile : String :=
  "import ExpoModulesCore\n\n" ++
  "enum Status: String, Enumerable \x7b\n  case on = \"on\"\n\x7d\n\n" ++
  "public struct Device: Record \x7b\n  @Field\n  var status: Status? = nil\n\n" ++
  "  @Field\n  var label: String? = nil\n\n  @Field\n  var count: Double = 0.0\n\x7d"

theorem optional_iff_marked_or_null_sample :
    ∃ entries declarations, entries? optionalDocument = some entries ∧
      readDocument optionalDocument = .ok declarations ∧
      generate "swift" {} declarations = .ok optionalFile ∧
      ∃ (language : Target.Language) (table : List Source.Outline)
        (enums : List Schema.EnumDeclaration) (before after : List String) (items : List Json)
        (fields : List Target.Language.Field),
        optionalFile
          = "\n\n".intercalate (before ++ language.recordSection "Device" fields :: after) ∧
        items.length = 3 ∧
        List.Forall₂ (language.ShowsProperty enums entries table
          fun name => ¬ AmbiguousAlias optionalDocument name) items fields := by
  have whole : (readDocument optionalDocument >>= Schema.build) = .ok optionalSchema := by cbv
  obtain ⟨declarations, read, built⟩ := bind_eq_ok_iff.mp whole
  have generated : generate "swift" {} declarations = .ok optionalFile :=
    Target.generate_swift_of_build built (by decide +kernel)
  obtain ⟨language, table, schema, _, _, _, _, each⟩ :=
    optional_iff_marked_or_null rfl read generated
  obtain ⟨before, fields, after, split, law, _⟩ := each _ (.tail _ (.head _)) "Device" _
    (.interface ⟨rfl, by decide, rfl⟩ (.present rfl (.arr _)))
  exact ⟨_, declarations, rfl, read, generated, language, table, _, before, after, _, fields, split,
    rfl, law⟩

/-- An ambiguous alias with null among the members of its union, and an interface with a field of
that type. -/
def ambiguousNullDocument : Json :=
  .arr [.obj [("kind", .str "type-alias"), ("name", .str "Status"), ("type",
      .obj [("union", .arr [.obj [("literal", .str "on")], .str "null"]), ("object", .arr [])])],
    .obj [("kind", .str "interface"), ("name", .str "Device"), ("properties",
      .arr [.obj [("name", .str "status"), ("type", .str "Status")]])]]

/-- The schema of `ambiguousNullDocument`. -/
def ambiguousNullSchema : List Schema.Declaration :=
  [.enum ⟨"Status", [⟨"on", some (.text "on")⟩]⟩,
    .record ⟨"Device", [⟨"status", .reference .record "Status", false⟩]⟩]

/-- The file of `ambiguousNullDocument`, with a field that may not be null. -/
def ambiguousNullFile : String :=
  "import ExpoModulesCore\n\n" ++
  "enum Status: String, Enumerable \x7b\n  case on = \"on\"\n\x7d\n\n" ++
  "public struct Device: Record \x7b\n  @Field\n  var status: Status = Status()\n\x7d"

/-- The type of the field has null among its alternatives, and the field is a required one. -/
theorem required_with_null_among_alternatives :
    ∃ entries declarations, entries? ambiguousNullDocument = some entries ∧
      readDocument ambiguousNullDocument = .ok declarations ∧
      generate "swift" {} declarations = .ok ambiguousNullFile ∧
      NullAmong entries (fun _ => True) (.str "Status") := by
  have whole : (readDocument ambiguousNullDocument >>= Schema.build) = .ok ambiguousNullSchema := by
    cbv
  obtain ⟨declarations, read, built⟩ := bind_eq_ok_iff.mp whole
  refine ⟨_, declarations, rfl, read, Target.generate_swift_of_build built (by decide +kernel), ?_⟩
  have looked : Source.IsLookedUp "Status" := by
    refine ⟨fun stem same => ?_, rfl⟩
    have last := congrArg (fun s : String => s.toList.getLast?) same
    simp at last
  exact .expanded looked trivial (.head _) ⟨rfl, by decide, rfl⟩ rfl
    (.member rfl (.arr _) (.tail _ (.head _)) (.word (by decide)))

end NativeRecords
