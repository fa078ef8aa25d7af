/-
# NativeRecords.Proofs.Layout -- the sections of a generated file

A file is its top, unless that is empty, and then one section for each declaration of the document.
The sections are laid out twice: the declarations come ordered by their dependencies, and writing
them moves the enums to the front. That breaks no dependency, since an enum depends on nothing, so
every name that a section refers to is declared by a section above it.
-/
import NativeRecords.Generation
import NativeRecords.Proofs.Agreement
import NativeRecords.Proofs.Backends

namespace NativeRecords

/-! ## Declarations that refer back -/

namespace Schema

variable {declarations ordered : List Declaration} {kind : ReferenceKind}

/-- No declaration refers to itself or to one that comes after it. -/
structure RefersBack (declarations : List Declaration) : Prop where
  irreflexive : ∀ declaration ∈ declarations, ∀ kind, ¬ declaration.Mentions kind declaration.name
  pairwise : declarations.Pairwise fun earlier later => ∀ kind, ¬ earlier.Mentions kind later.name

/-- Where references go back, what a declaration refers to stands before it. -/
theorem RefersBack.mem_before (back : RefersBack declarations) {before after : List Declaration}
    {declaration other : Declaration} (split : declarations = before ++ declaration :: after)
    (inside : other ∈ declarations) (mention : declaration.Mentions kind other.name) :
    other ∈ before := by
  subst split
  rcases List.mem_append.mp inside with earlier | inside
  · exact earlier
  · exfalso
    rcases List.mem_cons.mp inside with rfl | later
    · exact back.irreflexive other (List.mem_append_right before List.mem_cons_self) kind mention
    · have fromHere := (List.pairwise_append.mp back.pairwise).2.1
      exact (List.pairwise_cons.mp fromHere).1 other later kind mention

/-- The declarations with the enums moved to the front. -/
def enumsFirst (declarations : List Declaration) : List Declaration :=
  (declarations.filterMap Declaration.enum?).map .enum
    ++ (declarations.filterMap Declaration.record?).map .record

theorem perm_enumsFirst (declarations : List Declaration) :
    (enumsFirst declarations).Perm declarations := by
  induction declarations with
  | nil => exact .nil
  | cons declaration declarations ih =>
    cases declaration with
    | enum e => exact ih.cons _
    | record r => exact List.perm_middle.trans (ih.cons _)

theorem mem_filterMap_enum? {e : EnumDeclaration} :
    e ∈ declarations.filterMap Declaration.enum? ↔ .enum e ∈ declarations := by
  constructor
  · intro inside
    obtain ⟨declaration, member, same⟩ := List.mem_filterMap.mp inside
    cases declaration with
    | enum other =>
      cases same
      exact member
    | record r => cases same
  · intro member
    exact List.mem_filterMap.mpr ⟨_, member, rfl⟩

theorem eq_record_of_record? {declaration : Declaration} {r : RecordDeclaration}
    (h : declaration.record? = some r) : declaration = .record r := by
  cases declaration with
  | enum e => cases h
  | record own =>
    cases h
    rfl

theorem not_mentions_enum (e : EnumDeclaration) {name : String} :
    ¬ (Declaration.enum e).Mentions kind name := by
  rintro ⟨_, inside, _⟩
  cases inside

/-- An enum refers to nothing, so it may move to the front. -/
theorem RefersBack.enumsFirst (back : RefersBack declarations) :
    RefersBack (enumsFirst declarations) := by
  constructor
  · intro declaration inside
    exact back.irreflexive declaration ((perm_enumsFirst declarations).mem_iff.mp inside)
  · refine List.pairwise_append.mpr ⟨?_, ?_, ?_⟩
    · exact List.pairwise_map.mpr (List.pairwise_of_forall fun e _ _ => not_mentions_enum e)
    · refine List.pairwise_map.mpr (back.pairwise.filterMap Declaration.record? ?_)
      intro earlier later apart r isRecord r' isRecord'
      rw [eq_record_of_record? isRecord, eq_record_of_record? isRecord'] at apart
      exact apart
    · intro earlier inside later _ kind
      obtain ⟨e, _, rfl⟩ := List.mem_map.mp inside
      exact not_mentions_enum e

end Schema

/-! ## Sections -/

namespace Target

open Schema

theorem ofName_eq_ok {name : String} {settings : Settings} {backend : Backend}
    (h : Backend.ofName name settings = .ok backend) :
    backend.language.name = name ∧ backend.settings = settings := by
  unfold Backend.ofName at h
  cases found : Language.ofName? name with
  | none =>
    rw [found] at h
    cases h
  | some language =>
    rw [found] at h
    have named := List.find?_some found
    have same : backend.language = language ∧ backend.settings = settings := by
      cases language with
      | swift =>
        cases h
        exact ⟨rfl, rfl⟩
      | kotlin =>
        obtain ⟨_, _, rfl⟩ := map_eq_ok_iff.mp h
        exact ⟨rfl, rfl⟩
    rw [same.1, same.2]
    exact ⟨of_decide_eq_true named, rfl⟩

/-- The events of a run do not change what it gives. -/
theorem generateTraced_snd (backend : Backend) (declarations : List Source.Declaration) :
    (backend.generateTraced declarations).2
      = Schema.build declarations >>= fun schema => (backend.generate schema).1 := by
  unfold Backend.generateTraced Schema.build
  cases declarations.mapM Schema.resolve with
  | error failure => rfl
  | ok resolved =>
    simp only [bind, Except.bind]
    cases order resolved with
    | error failure => rfl
    | ok schema =>
      simp only
      cases (backend.generate schema).1 with
      | error failure => rfl
      | ok code =>
        simp only
        split <;> rfl

/-- A file that is generated is the one that a backend of the language writes for the schema. -/
theorem exists_schema_of_generate {languageName : String} {settings : Settings}
    {declarations : List Source.Declaration} {code : String}
    (h : NativeRecords.generate languageName settings declarations = .ok code) :
    ∃ (backend : Backend) (schema : List Declaration),
      backend.language.name = languageName ∧ build declarations = .ok schema ∧
      (backend.generate schema).1 = .ok code := by
  obtain ⟨backend, chosen, written⟩ := bind_eq_ok_iff.mp h
  rw [generateTraced_snd] at written
  obtain ⟨schema, built, written⟩ := bind_eq_ok_iff.mp written
  exact ⟨backend, schema, (ofName_eq_ok chosen).1, built, written⟩

/-- Names that are given identifiers beside those that are taken get one each. -/
theorem Language.exists_identifiers_append (language : Language) (names taken : List String) :
    ∃ more, names.foldl (fun taken name => taken ++ [language.freeIdentifier taken name]) taken
      = taken ++ more ∧ more.length = names.length := by
  induction names generalizing taken with
  | nil => exact ⟨[], (List.append_nil taken).symm, rfl⟩
  | cons name names ih =>
    obtain ⟨more, appended, length⟩ := ih (taken ++ [language.freeIdentifier taken name])
    refine ⟨language.freeIdentifier taken name :: more, ?_, ?_⟩
    · rw [List.foldl_cons, appended, List.append_assoc, List.singleton_append]
    · rw [List.length_cons, List.length_cons, length]

theorem Language.length_identifiers (language : Language) (names : List String) :
    (language.identifiers names).length = names.length := by
  obtain ⟨more, appended, length⟩ := language.exists_identifiers_append names []
  rw [identifiers, appended, List.nil_append, length]

/-- A record has one field for each property, in their order. -/
theorem Language.forall₂_of_fields {language : Language} {enums : List EnumDeclaration}
    {r : RecordDeclaration} {fields : List Field} (h : language.fields enums r = .ok fields) :
    List.Forall₂ (fun property field => ∃ name, language.fieldNamed enums name property = .ok field)
      r.properties fields := by
  have named : (language.identifiers (r.properties.map RecordProperty.name)).length
      = r.properties.length := by rw [length_identifiers, List.length_map]
  rw [← List.map_snd_zip (Nat.le_of_eq named.symm), List.forall₂_map_left_iff]
  exact (mapM_eq_ok_iff.mp h).imp fun pair field written => ⟨pair.1, written⟩

/-- Each record has its section in the file, below the sections of all enums. -/
theorem exists_record_section {backend : Backend} {schema : List Declaration} {code : String}
    (h : (backend.generate schema).1 = .ok code) {r : RecordDeclaration}
    (inside : .record r ∈ schema) :
    ∃ before fields after,
      code = "\n\n".intercalate (before ++ backend.language.recordSection r.name fields :: after) ∧
      List.Forall₂ (fun property field => ∃ name, backend.language.fieldNamed
        (schema.filterMap Declaration.enum?) name property = .ok field) r.properties fields ∧
      ∀ e, .enum e ∈ schema → backend.language.enumText e ∈ before := by
  rw [Backend.generate_eq] at h
  rw [if_neg (by simpa using List.ne_nil_of_mem inside)] at h
  obtain ⟨texts, made, rfl⟩ := map_eq_ok_iff.mp h
  obtain ⟨recordTexts, written, made⟩ := bind_eq_ok_iff.mp made
  obtain ⟨top, _, made⟩ := bind_eq_ok_iff.mp made
  cases made
  have listed : r ∈ schema.filterMap Declaration.record? :=
    List.mem_filterMap.mpr ⟨_, inside, rfl⟩
  obtain ⟨text, member, recordText⟩ := exists_right_of_forall₂ (mapM_eq_ok_iff.mp written) listed
  obtain ⟨fields, found, rfl⟩ := map_eq_ok_iff.mp recordText
  obtain ⟨earlier, later, rfl⟩ := List.append_of_mem member
  refine ⟨_, fields, later, by rw [← List.append_assoc], Language.forall₂_of_fields found, ?_⟩
  intro e declared
  have known : e ∈ schema.filterMap Declaration.enum? := mem_filterMap_enum?.mpr declared
  exact List.mem_append_left _ (List.mem_append_right _ (List.mem_map_of_mem known))

/-- The file of a schema that was built, in Swift and with the default settings. -/
theorem generate_swift_of_build {declarations : List Source.Declaration} {schema : List Declaration}
    {code : String} (built : build declarations = .ok schema)
    (written : (Backend.generate ⟨.swift, {}, []⟩ schema).1.toOption = some code) :
    NativeRecords.generate "swift" {} declarations = .ok code := by
  refine bind_eq_ok_iff.mpr ⟨⟨.swift, {}, []⟩, rfl, ?_⟩
  rw [generateTraced_snd]
  refine bind_eq_ok_iff.mpr ⟨schema, built, ?_⟩
  cases file : (Backend.generate ⟨.swift, {}, []⟩ schema).1 with
  | error failure =>
    rw [file] at written
    cases written
  | ok text =>
    rw [file] at written
    rw [Option.some.inj written]

end Target

open Source (entries? declaredName? readDocument)
open Schema (sampleDocument sampleSchema)

end NativeRecords
