/-
# NativeRecords.Proofs.Rearrangement -- the order of declarations in a document

Two stages look at a document as a whole. Names are looked up in the table of all declarations, and
the schema is ordered by what its declarations depend on. Where names are distinct neither gives the
order of the document a meaning: the table finds a name wherever it stands, and whether dependencies
run in a circle is a property of the declarations, not of the order in which they are visited. So
rearranging a document changes nothing but the order of what comes out. Which of several failures is
reported does depend on the order; that there is one does not.
-/
import NativeRecords.Proofs.Emission

namespace NativeRecords

/-! ## Walks over rearranged lists -/

section Walks

variable {ε α β : Type} {f : α → Except ε β} {parts parts' : List α} {results : List β}

/-- Whether a walk ends well does not depend on the order of the parts. -/
theorem exists_mapM_of_perm (perm : parts.Perm parts') (h : parts.mapM f = .ok results) :
    ∃ results', parts'.mapM f = .ok results' := by
  apply exists_mapM_eq_ok
  intro part inside
  exact exists_mapM_eq_ok_iff.mp ⟨results, h⟩ part (perm.mem_iff.mpr inside)

/-- A walk that ends well gives each part the result that the part has by itself. -/
theorem eq_map_of_mapM (fallback : β) (h : parts.mapM f = .ok results) :
    results = parts.map fun part => (f part).toOption.getD fallback := by
  have each := map_eq_map_of_forall₂ (f := fun part => (f part).toOption.getD fallback) (g := id)
    (mapM_eq_ok_iff.mp h) fun part result found => by rw [found]; rfl
  rw [each, List.map_id]

end Walks

/-- Where names are distinct, what is found by a name does not depend on where it stands. -/
theorem find?_of_perm {α : Type} {name : α → String} {as bs : List α} (perm : as.Perm bs)
    (distinct : (as.map name).Nodup) (sought : String) :
    as.find? (name · = sought) = bs.find? (name · = sought) := by
  cases found : bs.find? (name · = sought) with
  | none =>
    rw [List.find?_eq_none] at found ⊢
    intro a inside
    exact found a (perm.mem_iff.mp inside)
  | some b =>
    have named : name b = sought := by simpa using List.find?_some found
    have inside : b ∈ as := perm.mem_iff.mpr (List.mem_of_find?_eq_some found)
    rw [← named]
    exact find?_of_distinct distinct inside

/-! ## Reading -/

namespace Source

variable {table other : List Outline} {document : Json} {entries : List Json}
  {declarations : List Declaration}

/-- Rearranging the table changes no reference. -/
theorem reference_of_perm (perm : table.Perm other) (distinct : (table.map Outline.name).Nodup)
    (expanding : List String) (name : String) :
    reference table expanding name = reference other expanding name := by
  have looked (sought : String) := find?_of_perm perm distinct sought
  fun_induction reference table expanding name with
  | case1 expanding name found => rw [reference_eq other, ← looked, found]
  | case2 expanding name own members found => rw [reference_eq other, ← looked, found]
  | case3 expanding name own properties found => rw [reference_eq other, ← looked, found]
  | case4 expanding name own type found =>
    rw [reference_eq other, ← looked, found]
    simp
  | case5 expanding name own shaped type found plain opened =>
    rw [reference_eq other, ← looked, found]
    simp [plain, opened]
  | case6 expanding name own shaped plain fresh found =>
    rw [reference_eq other, ← looked, found]
    simp [plain, fresh]
  | case7 expanding name own shaped plain fresh expr found _ ih =>
    rw [reference_eq other, ← looked, found, funext ih]
    simp [plain, fresh]

/-- The declaration that an entry becomes in a document with these outlines. -/
def declarationOf (table : List Outline) (entry : Json) : Except Failure Declaration := do
  let outline ← Outline.ofJson entry
  outline.classify table []

theorem declarationOf_of_perm (perm : table.Perm other)
    (distinct : (table.map Outline.name).Nodup) : declarationOf table = declarationOf other := by
  have same : reference table [] = reference other [] :=
    funext fun name => reference_of_perm perm distinct [] name
  funext entry
  have classify (outline : Outline) : outline.classify table [] = outline.classify other [] := by
    simp only [Outline.classify, same]
  simp only [declarationOf, classify]

/-- A document is read entry by entry, once all entries have their outlines. -/
theorem readDocument_eq_ok_iff_mapM (listed : entries? document = some entries) :
    readDocument document = .ok declarations ↔
      ∃ table, entries.mapM Outline.ofJson = .ok table ∧
        entries.mapM (declarationOf table) = .ok declarations := by
  simp only [readDocument_eq_ok_iff, listed, mapM_eq_ok_iff, Option.some.injEq]
  constructor
  · rintro ⟨_, table, rfl, outlined, classified⟩
    refine ⟨table, outlined, forall₂_trans outlined classified ?_⟩
    intro entry outline declaration outlineOk declarationOk
    exact bind_eq_ok_iff.mpr ⟨outline, outlineOk, declarationOk⟩
  · rintro ⟨table, outlined, made⟩
    obtain ⟨outlines, outlined', classified⟩ :=
      exists_between_of_forall₂ made fun _ _ => bind_eq_ok_iff.mp
    have same : table = outlines := by
      rw [← mapM_eq_ok_iff] at outlined outlined'
      simpa [outlined] using outlined'
    exact ⟨entries, table, rfl, outlined, same ▸ classified⟩

/-- The outlines of entries that declare distinct names have distinct names. -/
theorem nodup_names_of_outlines (distinct : (entries.filterMap declaredName?).Nodup)
    (outlined : entries.mapM Outline.ofJson = .ok table) : (table.map Outline.name).Nodup := by
  have names : entries.map declaredName? = table.map fun outline => some outline.name :=
    map_eq_map_of_forall₂ (mapM_eq_ok_iff.mp outlined) fun _ _ => declaredName?_of_ofJson
  have same : entries.filterMap declaredName? = table.map Outline.name := by
    calc entries.filterMap declaredName?
        = (entries.map declaredName?).filterMap id := by rw [List.filterMap_map]; rfl
      _ = table.map Outline.name := by
        rw [names, List.filterMap_map, ← List.filterMap_eq_map]
        rfl
  rwa [← same]

/-- Rearranging the entries of a document changes neither that it is read nor what each entry
becomes. -/
theorem exists_readDocument_of_perm {document' : Json} {entries' : List Json}
    (listed : entries? document = some entries) (listed' : entries? document' = some entries')
    (perm : entries.Perm entries') (distinct : (entries.filterMap declaredName?).Nodup)
    (read : readDocument document = .ok declarations) :
    ∃ (node : Json → Declaration) (declarations' : List Declaration),
      readDocument document' = .ok declarations' ∧ declarations = entries.map node ∧
      declarations' = entries'.map node := by
  obtain ⟨table, outlined, made⟩ := (readDocument_eq_ok_iff_mapM listed).mp read
  obtain ⟨table', outlined'⟩ := exists_mapM_of_perm perm outlined
  have tables : table.Perm table' := by
    rw [eq_map_of_mapM (.enum "" (.ok [])) outlined, eq_map_of_mapM (.enum "" (.ok [])) outlined']
    exact perm.map _
  have same := declarationOf_of_perm tables (nodup_names_of_outlines distinct outlined)
  obtain ⟨declarations', made'⟩ := exists_mapM_of_perm perm made
  refine ⟨_, declarations', ?_, eq_map_of_mapM (.unclassified "") made,
    eq_map_of_mapM (.unclassified "") made'⟩
  rw [same] at made'
  exact (readDocument_eq_ok_iff_mapM listed').mpr ⟨table', outlined', made'⟩

end Source

/-! ## Building -/

namespace Schema

variable {declarations declarations' : List Declaration}

theorem isComplete_of_expressible {type : SchemaType} (h : type.Expressible) :
    type.isComplete = true := by
  induction h with
  | primitive kind => rfl
  | array _ ih => exact ih
  | map _ _ ihKey ihValue => simp [SchemaType.isComplete, ihKey, ihValue]
  | reference kind name => rfl

theorem isComplete_of_resolve {source : Source.Declaration} {resolved : Declaration}
    (h : resolve source = .ok resolved) : resolved.isComplete = true := by
  have emittable := emittable_of_resolve h
  cases resolved with
  | enum e => rfl
  | record r =>
    refine List.all_eq_true.mpr fun property inside => ?_
    exact isComplete_of_expressible (emittable property inside)

theorem dependsOn_of_perm (perm : declarations.Perm declarations') :
    DependsOn declarations = DependsOn declarations' := by
  funext source target
  simp only [DependsOn, perm.mem_iff, (perm.map Declaration.name).mem_iff]

/-- Whether a schema can be ordered does not depend on the order that it comes in. -/
theorem exists_order_of_perm (perm : declarations.Perm declarations')
    (complete : ∀ declaration ∈ declarations, declaration.isComplete = true)
    {ordered : List Declaration} (h : order declarations = .ok ordered) :
    ∃ ordered', order declarations' = .ok ordered' := by
  have distinct := (exists_emissionOrder_of_order h).1
  have distinct' := (perm.map Declaration.name).nodup_iff.mp distinct
  have complete' : ∀ declaration ∈ declarations', declaration.isComplete = true :=
    fun declaration inside => complete declaration (perm.mem_iff.mpr inside)
  rcases order_of_distinct_cases complete' distinct' with ⟨name, circle, _⟩ | ⟨_, ordered'⟩
  · -- the circle is one of the given order too, where it would have been reported
    rw [← dependsOn_of_perm perm] at circle
    rcases order_of_distinct_cases complete distinct with ⟨_, _, reported⟩ | ⟨acyclic, _⟩
    · rw [reported] at h
      cases h
    · exact absurd circle (acyclic name)
  · exact ordered'

/-- Rearranging source declarations changes neither that a schema is built nor what is in it. -/
theorem exists_build_of_perm {sources sources' : List Source.Declaration} {schema : List Declaration}
    (perm : sources.Perm sources') (built : build sources = .ok schema) :
    ∃ schema', build sources' = .ok schema' ∧ schema.Perm schema' := by
  obtain ⟨resolved, made, ordered⟩ := bind_eq_ok_iff.mp built
  obtain ⟨resolved', made'⟩ := exists_mapM_of_perm perm made
  have rearranged : resolved.Perm resolved' := by
    rw [eq_map_of_mapM (.enum ⟨"", []⟩) made, eq_map_of_mapM (.enum ⟨"", []⟩) made']
    exact perm.map _
  have complete : ∀ declaration ∈ resolved, declaration.isComplete = true := by
    intro declaration inside
    obtain ⟨source, _, found⟩ := exists_left_of_forall₂ (mapM_eq_ok_iff.mp made) inside
    exact isComplete_of_resolve found
  obtain ⟨schema', ordered'⟩ := exists_order_of_perm rearranged complete ordered
  refine ⟨schema', bind_eq_ok_iff.mpr ⟨resolved', made', ordered'⟩, ?_⟩
  exact (perm_of_order ordered).1.trans (rearranged.trans (perm_of_order ordered').1.symm)

end Schema

open Source (entries? declaredName? readDocument)
open Schema (build sampleDocument sampleSchema)

/-- **The order of declarations in a document has no meaning.** Of two documents with the same
entries in different orders, which declare distinct names, either both are read or neither is, and an
entry becomes the same declaration in both. Then either both give a schema or neither does, and the
schemas have the same declarations. -/
theorem declaration_order_immaterial {document document' : Json} {entries entries' : List Json}
    (listed : entries? document = some entries) (listed' : entries? document' = some entries')
    (perm : entries.Perm entries') (distinct : (entries.filterMap declaredName?).Nodup) :
    ((∃ declarations, readDocument document = .ok declarations) ↔
      ∃ declarations, readDocument document' = .ok declarations) ∧
    ∀ declarations declarations', readDocument document = .ok declarations →
      readDocument document' = .ok declarations' →
      (∃ node : Json → Source.Declaration,
        declarations = entries.map node ∧ declarations' = entries'.map node) ∧
      ((∃ schema, build declarations = .ok schema) ↔
        ∃ schema, build declarations' = .ok schema) ∧
      ∀ schema schema', build declarations = .ok schema → build declarations' = .ok schema' →
        schema.Perm schema' := by
  have distinct' := (perm.filterMap declaredName?).nodup_iff.mp distinct
  refine ⟨⟨?_, ?_⟩, ?_⟩
  · rintro ⟨declarations, read⟩
    obtain ⟨_, declarations', read', _⟩ :=
      Source.exists_readDocument_of_perm listed listed' perm distinct read
    exact ⟨declarations', read'⟩
  · rintro ⟨declarations', read'⟩
    obtain ⟨_, declarations, read, _⟩ :=
      Source.exists_readDocument_of_perm listed' listed perm.symm distinct' read'
    exact ⟨declarations, read⟩
  · intro declarations declarations' read read'
    obtain ⟨node, found, readFound, nodes, nodes'⟩ :=
      Source.exists_readDocument_of_perm listed listed' perm distinct read
    have same : found = declarations' := by simpa [read'] using readFound.symm
    subst same
    have rearranged : declarations.Perm found := by
      rw [nodes, nodes']
      exact perm.map node
    refine ⟨⟨node, nodes, nodes'⟩, ⟨?_, ?_⟩, ?_⟩
    · rintro ⟨schema, built⟩
      obtain ⟨schema', built', _⟩ := Schema.exists_build_of_perm rearranged built
      exact ⟨schema', built'⟩
    · rintro ⟨schema', built'⟩
      obtain ⟨schema, built, _⟩ := Schema.exists_build_of_perm rearranged.symm built'
      exact ⟨schema, built⟩
    · intro schema schema' built built'
      obtain ⟨other, builtOther, permOther⟩ := Schema.exists_build_of_perm rearranged built
      have same : other = schema' := by simpa [built'] using builtOther.symm
      rwa [← same]

/-- The entries of `sampleDocument`, the last one first. -/
def reversedDocument : Json := .arr ((entries? sampleDocument).getD []).reverse

theorem declaration_order_immaterial_sample :
    ∃ entries declarations declarations' schema', entries? sampleDocument = some entries ∧
      entries? reversedDocument = some entries.reverse ∧
      (entries.filterMap declaredName?).Nodup ∧
      readDocument sampleDocument = .ok declarations ∧
      readDocument reversedDocument = .ok declarations' ∧
      build declarations = .ok sampleSchema ∧ build declarations' = .ok schema' ∧
      sampleSchema.Perm schema' ∧ sampleSchema.map Schema.Declaration.name
        ≠ schema'.map Schema.Declaration.name := by
  have whole : (readDocument sampleDocument >>= build) = .ok sampleSchema := by cbv
  obtain ⟨declarations, read, built⟩ := bind_eq_ok_iff.mp whole
  have names : ((readDocument reversedDocument >>= build).map fun schema =>
      schema.map Schema.Declaration.name) = .ok ["Point", "Status", "Mode", "Device"] := by cbv
  obtain ⟨schema', whole', named⟩ := map_eq_ok_iff.mp names
  obtain ⟨declarations', read', built'⟩ := bind_eq_ok_iff.mp whole'
  obtain ⟨entries, listed⟩ : ∃ entries, entries? sampleDocument = some entries := ⟨_, rfl⟩
  have listed' : entries? reversedDocument = some entries.reverse := by
    rw [reversedDocument, listed]
    rfl
  have distinct : (entries.filterMap declaredName?).Nodup := by
    cases listed
    decide
  have same := (declaration_order_immaterial listed listed' (List.reverse_perm entries).symm
    distinct).2 declarations declarations' read read'
  refine ⟨entries, declarations, declarations', schema', listed, listed', distinct, read, read',
    built, built', same.2.2 _ _ built built', ?_⟩
  rw [named]
  decide

end NativeRecords
