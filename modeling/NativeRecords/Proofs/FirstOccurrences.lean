/-
# NativeRecords.Proofs.FirstOccurrences -- the order in which dependencies are listed

A reference has a place in a record: the field it stands in, and the way to it through the arrays
and maps of the field's type. Places are read field by field, and in a map the key is read before
the value. The dependencies of a record are its references in this order, each name at its first
place.

Names are dropped as repetitions at every map and again at every field, each time among other names.
Both times two lists are joined of which one is read before the other, and `InFirstOrder.append` is
the whole argument: a name of the second list that is left has no place among the first.
-/
import Mathlib.Data.List.Induction
import NativeRecords.Proofs.Mentions

namespace NativeRecords

/-! ## Places in a type -/

namespace SchemaType

/-- The way from a type to one of its parts. -/
inductive Step where
  | element
  | key
  | value

/-- The part of the type that one step leads to. -/
def part? : SchemaType → Step → Option SchemaType
  | .array element, .element => some element
  | .map key _, .key => some key
  | .map _ value, .value => some value
  | _, _ => none

/-- The type that stands at the end of a way. -/
def at? (type : SchemaType) : List Step → Option SchemaType
  | [] => some type
  | step :: way => (type.part? step).bind fun part => part.at? way

/-- A reference to `name`, to an enum or to a record, stands at the end of the way. -/
def RefersAt (type : SchemaType) (way : List Step) (name : String) : Prop :=
  ∃ kind, type.at? way = some (.reference kind name)

/-- Where the two ways part, the first one goes to the key of a map and the other to its value. -/
inductive ReadBefore : List Step → List Step → Prop
  | parting {way other : List Step} : ReadBefore (.key :: way) (.value :: other)
  | along {step : Step} {way other : List Step} :
      ReadBefore way other → ReadBefore (step :: way) (step :: other)

theorem refersAt_array {element : SchemaType} {way : List Step} {name : String} :
    (array element).RefersAt way name ↔
      ∃ rest, way = .element :: rest ∧ element.RefersAt rest name := by
  cases way with
  | nil => simp [RefersAt, at?]
  | cons step rest => cases step <;> simp [RefersAt, at?, part?]

theorem refersAt_map {key value : SchemaType} {way : List Step} {name : String} :
    (map key value).RefersAt way name ↔
      (∃ rest, way = .key :: rest ∧ key.RefersAt rest name) ∨
        ∃ rest, way = .value :: rest ∧ value.RefersAt rest name := by
  cases way with
  | nil => simp [RefersAt, at?]
  | cons step rest => cases step <;> simp [RefersAt, at?, part?]

/-- A reference that is mentioned stands at the end of some way. -/
theorem exists_refersAt_iff {type : SchemaType} {name : String} :
    (∃ way, type.RefersAt way name) ↔ ∃ kind, type.Mentions kind name := by
  constructor
  · rintro ⟨way, kind, found⟩
    refine ⟨kind, ?_⟩
    induction way generalizing type with
    | nil =>
      cases found
      exact .here
    | cons step way ih =>
      obtain ⟨part, led, found⟩ := Option.bind_eq_some_iff.mp found
      have inside := ih found
      cases type <;> cases step <;> cases led
      · exact .element inside
      · exact .key inside
      · exact .value inside
  · rintro ⟨kind, mention⟩
    induction mention with
    | here => exact ⟨[], _, rfl⟩
    | element _ ih =>
      obtain ⟨way, found⟩ := ih
      exact ⟨.element :: way, found⟩
    | key _ ih =>
      obtain ⟨way, found⟩ := ih
      exact ⟨.key :: way, found⟩
    | value _ ih =>
      obtain ⟨way, found⟩ := ih
      exact ⟨.value :: way, found⟩

end SchemaType

/-! ## Names in the order of their first places -/

section InFirstOrder

variable {π ρ : Type}

/-- Each name comes once, and a name that comes earlier has a place that is read before all places
of a later one. Here `Stands` says which names stand at a place, and `Before` which of two places is
read first. -/
structure InFirstOrder (Before : π → π → Prop) (Stands : π → String → Prop)
    (names : List String) : Prop where
  nodup : names.Nodup
  ordered : names.Pairwise fun earlier later =>
    ∃ place, Stands place earlier ∧ ∀ other, Stands other later → Before place other

variable {Before : π → π → Prop} {Stands Stands' whole : π → String → Prop}
  {names more : List String}

theorem InFirstOrder.nil : InFirstOrder Before Stands [] := ⟨List.nodup_nil, .nil⟩

theorem InFirstOrder.singleton (name : String) : InFirstOrder Before Stands [name] :=
  ⟨List.nodup_singleton name, List.pairwise_singleton _ name⟩

/-- The order stays when all places are moved and none overtakes another. -/
theorem InFirstOrder.move {Before' : ρ → ρ → Prop} {moved : ρ → String → Prop} {f : π → ρ}
    (h : InFirstOrder Before Stands names)
    (keeps : ∀ {place other}, Before place other → Before' (f place) (f other))
    (places : ∀ {place name}, moved place name ↔ ∃ origin, place = f origin ∧ Stands origin name) :
    InFirstOrder Before' moved names := by
  refine ⟨h.nodup, h.ordered.imp ?_⟩
  rintro earlier later ⟨place, stands, before⟩
  refine ⟨f place, places.mpr ⟨place, rfl, stands⟩, ?_⟩
  intro other otherStands
  obtain ⟨origin, rfl, originStands⟩ := places.mp otherStands
  exact keeps (before origin originStands)

/-- Of names that are distinct, those that are not there yet are added. -/
theorem appendNew_of_nodup (distinct : more.Nodup) :
    appendNew names more = names ++ more.filter (· ∉ names) := by
  induction more generalizing names with
  | nil => simp [appendNew]
  | cons name more ih =>
    obtain ⟨fresh, distinct⟩ := List.nodup_cons.mp distinct
    rw [appendNew_cons, ih distinct]
    by_cases present : name ∈ names
    · rw [if_pos present, List.filter_cons_of_neg (by simpa using present)]
    · -- the name that has been added is not met again
      have same : more.filter (· ∉ names ++ [name]) = more.filter (· ∉ names) := by
        apply List.filter_congr
        intro other inside
        have differs : other ≠ name := fun equal => fresh (equal ▸ inside)
        simp [differs]
      rw [if_neg present, same, List.filter_cons_of_pos (by simpa using present),
        List.append_assoc, List.singleton_append]

/-- **Two lists are joined.** If all places of the first are read before those of the second, adding
what is new gives the names of both in the order of their first places. -/
theorem InFirstOrder.append (first : InFirstOrder Before Stands names)
    (second : InFirstOrder Before Stands' more)
    (listed : ∀ {name}, name ∈ names ↔ ∃ place, Stands place name)
    (apart : ∀ {place other name name'}, Stands place name → Stands' other name' →
      Before place other)
    (parts : ∀ {place name}, whole place name ↔ Stands place name ∨ Stands' place name) :
    InFirstOrder Before whole (appendNew names more) := by
  -- a name that the first list lacks stands in the second part only
  have stands_of_new : ∀ {place name}, name ∉ names → whole place name → Stands' place name := by
    intro place name new stands
    exact (parts.mp stands).resolve_left fun stands => new (listed.mpr ⟨place, stands⟩)
  rw [appendNew_of_nodup second.nodup]
  constructor
  case nodup =>
    refine List.nodup_append.mpr ⟨first.nodup, second.nodup.filter _, ?_⟩
    rintro name old _ added rfl
    exact of_decide_eq_true (List.mem_filter.mp added).2 old
  case ordered =>
    refine List.pairwise_append.mpr ⟨?_, ?_, ?_⟩
    · -- both names in the first list: what the second part adds is read later
      refine first.ordered.imp ?_
      rintro earlier later ⟨place, stands, before⟩
      refine ⟨place, parts.mpr (.inl stands), ?_⟩
      intro other otherStands
      rcases parts.mp otherStands with inFirst | inSecond
      · exact before other inFirst
      · exact apart stands inSecond
    · -- both names new
      refine List.pairwise_filter.mpr (second.ordered.imp ?_)
      rintro earlier later ⟨place, stands, before⟩ _ new
      refine ⟨place, parts.mpr (.inr stands), ?_⟩
      intro other otherStands
      exact before other (stands_of_new (of_decide_eq_true new) otherStands)
    · intro earlier old later added
      have new : later ∉ names := of_decide_eq_true (List.mem_filter.mp added).2
      obtain ⟨place, stands⟩ := listed.mp old
      refine ⟨place, parts.mpr (.inl stands), ?_⟩
      intro other otherStands
      exact apart stands (stands_of_new new otherStands)

end InFirstOrder

/-- The referenced names of a type come in the order of their first places. -/
theorem SchemaType.inFirstOrder_referencedNames {type : SchemaType} {names : List String}
    (h : type.referencedNames = .ok names) : InFirstOrder ReadBefore type.RefersAt names := by
  induction type generalizing names with
  | primitive kind =>
    cases h
    exact .nil
  | array element ih => exact (ih h).move .along refersAt_array
  | map key value ihKey ihValue =>
    obtain ⟨keyNames, keyOk, h⟩ := bind_eq_ok_iff.mp h
    obtain ⟨valueNames, valueOk, h⟩ := bind_eq_ok_iff.mp h
    cases h
    have keys : InFirstOrder ReadBefore
        (fun way name => ∃ rest, way = .key :: rest ∧ key.RefersAt rest name) keyNames :=
      (ihKey keyOk).move .along Iff.rfl
    have values : InFirstOrder ReadBefore
        (fun way name => ∃ rest, way = .value :: rest ∧ value.RefersAt rest name) valueNames :=
      (ihValue valueOk).move .along Iff.rfl
    refine keys.append values ?_ ?_ refersAt_map
    · intro name
      rw [mem_referencedNames keyOk, ← exists_refersAt_iff]
      simp
    · rintro _ _ name name' ⟨way, rfl, _⟩ ⟨other, rfl, _⟩
      exact .parting
  | reference kind name =>
    cases h
    exact .singleton name
  | other word =>
    cases h
    exact .nil
  | absent => cases h

/-! ## Places in a record -/

namespace Schema

/-- A place in a record: the number of a field, counted from zero, and a way into its type. -/
structure Place where
  field : Nat
  way : List SchemaType.Step

/-- Fields are read in order, and within a field the keys of maps before their values. -/
inductive Place.Before : Place → Place → Prop
  | fields {place other : Place} : place.field < other.field → Before place other
  | within {field : Nat} {way other : List SchemaType.Step} :
      SchemaType.ReadBefore way other → Before ⟨field, way⟩ ⟨field, other⟩

/-- A reference to `name` stands at this place of the fields. -/
def RefersAt (properties : List RecordProperty) (place : Place) (name : String) : Prop :=
  ∃ property, properties[place.field]? = some property ∧ property.type.RefersAt place.way name

variable {properties : List RecordProperty} {property : RecordProperty} {names : List String}

theorem refersAt_concat {place : Place} {name : String} :
    RefersAt (properties ++ [property]) place name ↔ RefersAt properties place name ∨
      ∃ way, place = ⟨properties.length, way⟩ ∧ property.type.RefersAt way name := by
  obtain ⟨field, way⟩ := place
  constructor
  · rintro ⟨other, found, refers⟩
    rcases Nat.lt_or_ge field properties.length with inside | beyond
    · rw [List.getElem?_append_left inside] at found
      exact .inl ⟨other, found, refers⟩
    · rw [List.getElem?_append_right beyond, List.getElem?_singleton] at found
      split at found
      · cases found
        have last : field = properties.length := by omega
        exact .inr ⟨way, by rw [last], refers⟩
      · cases found
  · rintro (⟨other, found, refers⟩ | ⟨way, place, refers⟩)
    · have inside := (List.getElem?_eq_some_iff.mp found).1
      exact ⟨other, by rw [List.getElem?_append_left inside, found], refers⟩
    · cases place
      exact ⟨property, List.getElem?_concat_length, refers⟩

/-- The dependencies gathered from fields are the names that stand at their places. -/
theorem mem_gatherDependencies_iff_refersAt {name : String}
    (h : gatherDependencies [] properties = .ok names) :
    name ∈ names ↔ ∃ place, RefersAt properties place name := by
  rw [mem_gatherDependencies h]
  simp only [List.not_mem_nil, false_or, ← SchemaType.exists_refersAt_iff]
  constructor
  · rintro ⟨property, inside, way, refers⟩
    obtain ⟨field, found⟩ := List.getElem?_of_mem inside
    exact ⟨⟨field, way⟩, property, found, refers⟩
  · rintro ⟨place, property, found, refers⟩
    exact ⟨property, List.mem_of_getElem? found, place.way, refers⟩

/-- One more field adds the names of its type. -/
theorem gatherDependencies_concat_eq_ok_iff :
    gatherDependencies [] (properties ++ [property]) = .ok names ↔
      ∃ old, gatherDependencies [] properties = .ok old ∧
        ∃ more, property.type.referencedNames = .ok more ∧ appendNew old more = names := by
  have split : gatherDependencies [] (properties ++ [property]) =
      gatherDependencies [] properties >>= fun old => gatherDependencies old [property] :=
    List.foldlM_append
  have atEnd (names : List String) : gatherDependencies names [] = .ok names := rfl
  simp only [split, gatherDependencies_cons, bind_eq_ok_iff, atEnd, Except.ok.injEq]

/-- The dependencies gathered from fields come in the order of their first places. -/
theorem inFirstOrder_gatherDependencies (h : gatherDependencies [] properties = .ok names) :
    InFirstOrder Place.Before (RefersAt properties) names := by
  induction properties using List.reverseRecOn generalizing names with
  | nil =>
    cases h
    exact .nil
  | append_singleton properties property ih =>
    obtain ⟨old, oldOk, more, moreOk, rfl⟩ := gatherDependencies_concat_eq_ok_iff.mp h
    have last : InFirstOrder Place.Before (fun place name =>
        ∃ way, place = ⟨properties.length, way⟩ ∧ property.type.RefersAt way name) more :=
      (SchemaType.inFirstOrder_referencedNames moreOk).move .within Iff.rfl
    refine (ih oldOk).append last (mem_gatherDependencies_iff_refersAt oldOk) ?_ refersAt_concat
    rintro place _ name name' ⟨other, found, _⟩ ⟨way, rfl, _⟩
    exact .fields (List.getElem?_eq_some_iff.mp found).1

/-- No declaration lists a dependency twice. -/
theorem Declaration.nodup_dependencies {declaration : Declaration}
    (h : declaration.dependencies = .ok names) : names.Nodup := by
  rw [dependencies_eq_gatherDependencies] at h
  exact (inFirstOrder_gatherDependencies h).nodup

/-- **Dependencies are listed by first occurrence.** A record whose types are complete has its list
of dependencies. No name comes twice in it, and a name is there exactly if a reference to it stands
at some place of the record. Of two names the one that comes first has a place that is read before
every place of the other. -/
theorem dependencies_by_first_occurrence (r : RecordDeclaration)
    (complete : ∀ property ∈ r.properties, property.type.isComplete = true) :
    ∃ names, r.dependencies = .ok names ∧ names.Nodup ∧
      (∀ name, name ∈ names ↔ ∃ place, RefersAt r.properties place name) ∧
      names.Pairwise fun earlier later => ∃ place, RefersAt r.properties place earlier ∧
        ∀ other, RefersAt r.properties other later → place.Before other := by
  obtain ⟨names, gathered⟩ := exists_gatherDependencies complete []
  have inOrder := inFirstOrder_gatherDependencies gathered
  exact ⟨names, gathered, inOrder.nodup,
    fun name => mem_gatherDependencies_iff_refersAt gathered, inOrder.ordered⟩

/-- A record that refers to some names again, below arrays and on both sides of maps. -/
def sampleHolder : RecordDeclaration :=
  ⟨"Holder", [
    ⟨"units", .map (.array (.reference .enum "Unit")) (.primitive .number), false⟩,
    ⟨"lookup", .map (.map (.reference .enum "Kind") (.reference .enum "Unit"))
      (.map (.reference .enum "Kind") (.array (.reference .record "Item"))), false⟩,
    ⟨"items", .array (.reference .record "Item"), true⟩]⟩

theorem dependencies_by_first_occurrence_nested :
    (∀ property ∈ sampleHolder.properties, property.type.isComplete = true) ∧
      sampleHolder.dependencies = .ok ["Unit", "Kind", "Item"] ∧
      (∀ name, name ∈ ["Unit", "Kind", "Item"] ↔
        ∃ place, RefersAt sampleHolder.properties place name) ∧
      ∃ place, RefersAt sampleHolder.properties place "Kind" ∧
        ∀ other, RefersAt sampleHolder.properties other "Item" → place.Before other := by
  have complete : ∀ property ∈ sampleHolder.properties, property.type.isComplete = true :=
    List.all_eq_true.mp rfl
  have evaluated : sampleHolder.dependencies = .ok ["Unit", "Kind", "Item"] := rfl
  obtain ⟨names, found, _, listed, ordered⟩ :=
    dependencies_by_first_occurrence sampleHolder complete
  cases evaluated.symm.trans found
  have kindBeforeItem := (List.pairwise_cons.mp (List.pairwise_cons.mp ordered).2).1
  exact ⟨complete, evaluated, listed, kindBeforeItem "Item" List.mem_cons_self⟩

end Schema
end NativeRecords
