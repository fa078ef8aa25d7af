/-
# NativeRecords.Proofs.Emission -- what can be written in one target can be written in all

Writing a file looks partial. A type may be of a kind that no target knows, a container may lack its
parts, and the first case of an enum may be asked for where there is none. None of this happens to a
schema that was built from source declarations: resolving gives types that every target can express
and enums that have members. What is left are the settings, and with a package and lists of imports
they are enough. So whether generation ends well, and how it fails, does not depend on the target.
-/
import NativeRecords.Proofs.Layout

namespace NativeRecords

/-! ## What resolving gives -/

/-- Every target can express the type. -/
inductive SchemaType.Expressible : SchemaType → Prop
  | primitive (kind : Primitive) : Expressible (.primitive kind)
  | array {element : SchemaType} : Expressible element → Expressible (.array element)
  | map {key value : SchemaType} :
      Expressible key → Expressible value → Expressible (.map key value)
  | reference (kind : ReferenceKind) (name : String) : Expressible (.reference kind name)

theorem Source.Descriptor.expressible_of_resolve {type : Descriptor} {resolved : SchemaType}
    (h : type.resolve = .ok resolved) : resolved.Expressible := by
  replace h := resolve_eq_ok_iff.mp h
  induction h with
  | primitive => exact .primitive _
  | array _ ih => exact .array ih
  | map _ _ ihKey ihValue => exact .map ihKey ihValue
  | reference => exact .reference _ _
  | named _ => exact .reference .enum _

namespace Schema

/-- The declaration has all that a section of a file needs: an enum has a first case, and the fields
of a record have types that can be expressed. -/
def Declaration.Emittable : Declaration → Prop
  | .enum e => e.members ≠ []
  | .record r => ∀ property ∈ r.properties, property.type.Expressible

theorem members_of_makeEnum {name : String} {members : List EnumMember} {made : EnumDeclaration}
    (h : makeEnum name members = .ok made) : made.members ≠ [] := by
  obtain ⟨rfl, nonempty, _⟩ := makeEnum_eq_ok_iff.mp h
  exact nonempty

theorem expressible_of_resolveRecord {name : String} {properties : List Source.Property}
    {made : RecordDeclaration} (h : resolveRecord name properties = .ok made) :
    ∀ property ∈ made.properties, property.type.Expressible := by
  obtain ⟨fields, resolved, rfl⟩ := map_eq_ok_iff.mp h
  intro field inside
  obtain ⟨property, _, found⟩ := exists_left_of_forall₂ (mapM_eq_ok_iff.mp resolved) inside
  cases property with
  | untyped name optional => cases found
  | typed name type optional =>
    obtain ⟨_, typed, rfl⟩ := map_eq_ok_iff.mp found
    exact Source.Descriptor.expressible_of_resolve typed

/-- A declaration that is resolved has become an enum or a record of its name, and a record has the
fields of its properties. -/
theorem resolve_cases {declaration : Source.Declaration} {resolved : Declaration}
    (h : resolve declaration = .ok resolved) :
    (∃ members made, makeEnum declaration.name members = .ok made ∧ resolved = .enum made) ∨
      ∃ properties made, declaration.HasProperties properties ∧
        resolveRecord declaration.name properties = .ok made ∧ resolved = .record made := by
  cases declaration with
  | enum name members =>
    obtain ⟨made, inner, rfl⟩ := map_eq_ok_iff.mp h
    obtain ⟨numbered, _, inner⟩ := bind_eq_ok_iff.mp inner
    exact .inl ⟨numbered, made, inner, rfl⟩
  | interface name properties =>
    obtain ⟨made, inner, rfl⟩ := map_eq_ok_iff.mp h
    exact .inr ⟨properties, made, .interface, inner, rfl⟩
  | typeAlias name type =>
    obtain ⟨_, _, _, literals, made, rfl, _, inner, rfl⟩ | ⟨_, properties, made, rfl, inner, rfl⟩ :=
      resolveAlias_cases h
    · exact .inl ⟨literals, made, inner, rfl⟩
    · exact .inr ⟨properties, made, .object, inner, rfl⟩
  | untypedAlias name => cases h
  | unclassified name => cases h

theorem emittable_of_resolve {declaration : Source.Declaration} {resolved : Declaration}
    (h : resolve declaration = .ok resolved) : resolved.Emittable := by
  obtain ⟨members, made, inner, rfl⟩ | ⟨properties, made, _, inner, rfl⟩ := resolve_cases h
  · exact members_of_makeEnum inner
  · exact expressible_of_resolveRecord inner

theorem emittable_of_build {declarations : List Source.Declaration} {schema : List Declaration}
    (h : build declarations = .ok schema) : ∀ declaration ∈ schema, declaration.Emittable := by
  obtain ⟨resolved, made, ordered⟩ := bind_eq_ok_iff.mp h
  intro declaration inside
  have member := (perm_of_order ordered).1.mem_iff.mp inside
  obtain ⟨source, _, found⟩ := exists_left_of_forall₂ (mapM_eq_ok_iff.mp made) member
  exact emittable_of_resolve found

end Schema

/-! ## What can be written -/

namespace Target

open Schema

namespace Language

variable {type : SchemaType} {enums : List EnumDeclaration}

theorem exists_typeText (language : Language) (h : type.Expressible) :
    ∃ text, language.typeText type = .ok text := by
  induction h with
  | primitive kind => exact ⟨_, rfl⟩
  | array _ ih => exact exists_map_eq_ok_iff.mpr ih
  | map _ _ ihKey ihValue =>
    obtain ⟨keyText, keyOk⟩ := ihKey
    obtain ⟨valueText, valueOk⟩ := ihValue
    exact ⟨language.mapType keyText valueText,
      bind_eq_ok_iff.mpr ⟨keyText, keyOk, bind_eq_ok_iff.mpr ⟨valueText, valueOk, rfl⟩⟩⟩
  | reference kind name => exact ⟨_, rfl⟩

/-- A field has something to start with if the enums that are known have members. -/
theorem exists_defaultText (language : Language) (known : ∀ e ∈ enums, e.members ≠ [])
    (h : type.Expressible) : ∃ text, language.defaultText enums type = .ok text := by
  cases h with
  | primitive kind => exact ⟨_, rfl⟩
  | array _ => exact ⟨_, rfl⟩
  | map _ _ => exact ⟨_, rfl⟩
  | reference kind name =>
    cases kind with
    | record => exact ⟨_, rfl⟩
    | enum =>
      rw [defaultText]
      cases found : findEnum? enums name with
      | none => exact ⟨_, rfl⟩
      | some e =>
        have inside : e ∈ enums := List.mem_reverse.mp (List.mem_of_find?_eq_some found)
        cases members : e.members with
        | nil => exact absurd members (known e inside)
        | cons first rest => simp only [members, Except.ok.injEq, exists_eq']

theorem exists_fieldNamed (language : Language) (known : ∀ e ∈ enums, e.members ≠ [])
    (name : String) {property : RecordProperty} (h : property.type.Expressible) :
    ∃ field, language.fieldNamed enums name property = .ok field := by
  obtain ⟨typeText, typed⟩ := exists_typeText language h
  obtain ⟨initial, started⟩ := exists_defaultText language known h
  rw [fieldNamed]
  cases property.optional with
  | true => exact ⟨_, bind_eq_ok_iff.mpr ⟨typeText, typed, rfl⟩⟩
  | false =>
    exact ⟨_, bind_eq_ok_iff.mpr ⟨typeText, typed, bind_eq_ok_iff.mpr ⟨initial, started, rfl⟩⟩⟩

theorem exists_recordText (language : Language) (known : ∀ e ∈ enums, e.members ≠ [])
    {r : RecordDeclaration} (h : ∀ property ∈ r.properties, property.type.Expressible) :
    ∃ text, language.recordText enums r = .ok text := by
  refine exists_map_eq_ok_iff.mpr (exists_mapM_eq_ok ?_)
  rintro ⟨name, property⟩ paired
  exact exists_fieldNamed language known name (h property (List.of_mem_zip paired).2)

end Language

end Target

/-! ## Files -/

/-- The settings name a package for Kotlin, and the imports of both languages are lists. -/
structure Settings.Complete (settings : Settings) : Prop where
  package : settings.kotlinPackage.truthy = true
  kotlinImports : ∃ items, settings.kotlinImports.items? = some items
  swiftImports : ∃ items, settings.swiftImports.items? = some items

namespace Target

open Schema

variable {settings : Settings}

theorem exists_importText {imports : Json} (h : ∃ items, imports.items? = some items) :
    ∃ text, Language.importText imports = .ok text := by
  obtain ⟨items, listed⟩ := h
  rw [Language.importText, listed]
  exact ⟨_, rfl⟩

theorem exists_header (complete : settings.Complete) (language : Language) :
    ∃ text, language.header settings = .ok text := by
  refine exists_map_eq_ok_iff.mpr ?_
  cases language with
  | swift => exact exists_map_eq_ok_iff.mpr (exists_importText complete.swiftImports)
  | kotlin =>
    rw [Language.headerText]
    split
    · obtain ⟨text, imported⟩ := exists_importText complete.kotlinImports
      rw [imported]
      exact ⟨_, rfl⟩
    · exact ⟨_, rfl⟩

theorem make_of_package (package : settings.kotlinPackage.truthy = true) (language : Language) :
    Backend.make language settings = .ok { language, settings } := by
  cases language with
  | swift => rfl
  | kotlin =>
    rw [Backend.make, Settings.requirePackage, if_pos package]
    rfl

theorem make_of_complete (complete : settings.Complete) (language : Language) :
    Backend.make language settings = .ok { language, settings } :=
  make_of_package complete.package language

/-- The records of a schema can be written, whatever the settings are. -/
theorem exists_recordTexts {schema : List Declaration}
    (emittable : ∀ declaration ∈ schema, declaration.Emittable) (language : Language) :
    ∃ records, (schema.filterMap Declaration.record?).mapM
      (language.recordText (schema.filterMap Declaration.enum?)) = .ok records := by
  have known : ∀ e ∈ schema.filterMap Declaration.enum?, e.members ≠ [] := by
    intro e inside
    exact emittable _ (mem_filterMap_enum?.mp inside)
  refine exists_mapM_eq_ok fun r inside => ?_
  obtain ⟨declaration, member, same⟩ := List.mem_filterMap.mp inside
  rw [eq_record_of_record? same] at member
  exact Language.exists_recordText language known (emittable _ member)

theorem exists_generate (complete : settings.Complete) {schema : List Declaration}
    (emittable : ∀ declaration ∈ schema, declaration.Emittable) (language : Language)
    (enums : List EnumDeclaration) :
    ∃ code, (Backend.generate ⟨language, settings, enums⟩ schema).1 = .ok code := by
  rw [Backend.generate_eq]
  split
  · exact ⟨"", rfl⟩
  · obtain ⟨records, written⟩ := exists_recordTexts emittable language
    obtain ⟨top, topped⟩ := exists_header complete language
    exact exists_map_eq_ok_iff.mpr
      ⟨_, bind_eq_ok_iff.mpr ⟨records, written, bind_eq_ok_iff.mpr ⟨top, topped, rfl⟩⟩⟩

/-- With a package, generation builds the schema and writes it. -/
theorem generate_of_package (package : settings.kotlinPackage.truthy = true) (language : Language)
    (declarations : List Source.Declaration) :
    generate language.name settings declarations =
      build declarations >>= fun schema => (Backend.generate { language, settings } schema).1 := by
  have known : Language.ofName? language.name = some language := by cases language <;> decide
  have chosen : Backend.ofName language.name settings = .ok { language, settings } := by
    rw [Backend.ofName, known]
    exact make_of_package package language
  rw [generate, chosen, ← generateTraced_snd]
  rfl

theorem generate_of_complete (complete : settings.Complete) (language : Language)
    (declarations : List Source.Declaration) :
    generate language.name settings declarations =
      build declarations >>= fun schema => (Backend.generate { language, settings } schema).1 :=
  generate_of_package complete.package language declarations

end Target

open Source (readDocument)
open Schema (build sampleDocument sampleSchema)

/-- **Emission is total, and no target fails alone.** With complete settings, every schema that was
built from source declarations is written in both languages, whatever the backends have written
before. A document therefore gives a file in both languages, or the same failure in both. -/
theorem emission_total {settings : Settings} (complete : settings.Complete) :
    (∀ (declarations : List Source.Declaration) (schema : List Schema.Declaration),
      build declarations = .ok schema → ∀ language : Target.Language,
        Target.Backend.make language settings = .ok { language, settings } ∧
        ∀ enums, ∃ code,
          (Target.Backend.generate ⟨language, settings, enums⟩ schema).1 = .ok code) ∧
    ∀ document : Json,
      (∀ language : Target.Language, ∃ code,
        (readDocument document >>= generate language.name settings) = .ok code) ∨
      ∃ failure, ∀ language : Target.Language,
        (readDocument document >>= generate language.name settings) = .error failure := by
  constructor
  · intro declarations schema built language
    exact ⟨Target.make_of_complete complete language,
      Target.exists_generate complete (Schema.emittable_of_build built) language⟩
  · intro document
    -- the targets share all stages but the last, and the last cannot fail
    cases readDocument document with
    | error failure => exact .inr ⟨failure, fun language => rfl⟩
    | ok declarations =>
      change (∀ language : Target.Language, ∃ code,
          generate language.name settings declarations = .ok code) ∨
        ∃ failure, ∀ language : Target.Language,
          generate language.name settings declarations = .error failure
      simp only [Target.generate_of_complete complete]
      cases built : build declarations with
      | error failure => exact .inr ⟨failure, fun language => rfl⟩
      | ok schema =>
        exact .inl fun language =>
          Target.exists_generate complete (Schema.emittable_of_build built) language []

/-- The default settings with a package. -/
def sampleSettings : Settings := { kotlinPackage := .str "expo.modules.testmodule" }

theorem emission_total_sample :
    sampleSettings.Complete ∧ ∃ declarations, readDocument sampleDocument = .ok declarations ∧
      build declarations = .ok sampleSchema ∧
      ∀ (language : Target.Language) (enums : List Schema.EnumDeclaration), ∃ code,
        (Target.Backend.generate ⟨language, sampleSettings, enums⟩ sampleSchema).1 = .ok code := by
  have whole : (readDocument sampleDocument >>= build) = .ok sampleSchema := by cbv
  obtain ⟨declarations, read, built⟩ := bind_eq_ok_iff.mp whole
  have complete : sampleSettings.Complete := ⟨by decide, ⟨_, rfl⟩, ⟨_, rfl⟩⟩
  exact ⟨complete, declarations, read, built, fun language =>
    ((emission_total complete).1 declarations sampleSchema built language).2⟩

end NativeRecords
