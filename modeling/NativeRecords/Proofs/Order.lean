/-
# NativeRecords.Proofs.Order -- ordering a schema

Ordering has three outcomes. Two declarations of one name are reported first, whatever else is
wrong. Otherwise the graph of references decides: if it has a circle, a name on a circle is
reported, and if it has none, the declarations are returned in an order in which each stands after
all that it depends on. The graph theory is that of the search; this module ties the graph to the
declarations that it is made from.
-/
import Mathlib.Data.List.Permutation
import NativeRecords.Proofs.Mentions
import NativeRecords.Proofs.Search

namespace NativeRecords.Schema

open Relation (TransGen)

/-! ## Repeated names -/

theorem firstRepeatedAfter?_eq_none_iff {seen names : List String} :
    firstRepeatedAfter? seen names = none ↔ names.Nodup ∧ ∀ name ∈ names, name ∉ seen := by
  induction names generalizing seen with
  | nil => simp [firstRepeatedAfter?]
  | cons name names ih =>
    rw [firstRepeatedAfter?, List.nodup_cons, List.forall_mem_cons]
    by_cases repeated : name ∈ seen
    · rw [if_pos repeated]
      constructor
      · intro h
        cases h
      · rintro ⟨_, fresh, _⟩
        exact absurd repeated fresh
    · -- the induction hypothesis speaks of the names seen with `name` among them
      rw [if_neg repeated, ih]
      constructor
      · rintro ⟨distinct, fresh⟩
        refine ⟨⟨fun inside => fresh name inside List.mem_cons_self, distinct⟩, repeated, ?_⟩
        exact fun other inside old => fresh other inside (List.mem_cons_of_mem name old)
      · rintro ⟨⟨absent, distinct⟩, _, fresh⟩
        refine ⟨distinct, fun other inside old => ?_⟩
        rcases List.mem_cons.mp old with rfl | old
        · exact absent inside
        · exact fresh other inside old

theorem firstRepeated?_eq_none_iff {names : List String} :
    firstRepeated? names = none ↔ names.Nodup := by
  rw [firstRepeated?, firstRepeatedAfter?_eq_none_iff]
  simp

theorem firstRepeatedAfter?_eq_some {seen names : List String} {name : String}
    (h : firstRepeatedAfter? seen names = some name) :
    ∃ before after, names = before ++ name :: after ∧ before.Nodup ∧
      (∀ other ∈ before, other ∉ seen) ∧ (name ∈ seen ∨ name ∈ before) := by
  induction names generalizing seen with
  | nil => cases h
  | cons first names ih =>
    rw [firstRepeatedAfter?] at h
    by_cases repeated : first ∈ seen
    · rw [if_pos repeated] at h
      cases h
      exact ⟨[], names, rfl, List.nodup_nil, by simp, .inl repeated⟩
    · rw [if_neg repeated] at h
      obtain ⟨before, after, rfl, distinct, fresh, met⟩ := ih h
      refine ⟨first :: before, after, rfl, ?_, ?_, ?_⟩
      · refine List.nodup_cons.mpr ⟨fun inside => ?_, distinct⟩
        exact fresh first inside List.mem_cons_self
      · refine List.forall_mem_cons.mpr ⟨repeated, fun other inside old => ?_⟩
        exact fresh other inside (List.mem_cons_of_mem first old)
      · rcases met with old | inside
        · rcases List.mem_cons.mp old with rfl | old
          · exact .inr List.mem_cons_self
          · exact .inl old
        · exact .inr (List.mem_cons_of_mem first inside)

/-- The first repeated name is the name of the first entry that repeats an earlier one. -/
theorem firstRepeated?_eq_some {names : List String} {name : String}
    (h : firstRepeated? names = some name) :
    ∃ before after, names = before ++ name :: after ∧ before.Nodup ∧ name ∈ before := by
  obtain ⟨before, after, split, distinct, _, met⟩ := firstRepeatedAfter?_eq_some h
  exact ⟨before, after, split, distinct, met.resolve_left List.not_mem_nil⟩

/-! ## The graph of references -/

variable {declarations : List Declaration} {graph : Graph}

/-- The declaration of `source` has the declared name `target` among its dependencies. -/
def DependsOn (declarations : List Declaration) (source target : String) : Prop :=
  target ∈ declarations.map Declaration.name ∧
    ∃ declaration ∈ declarations, declaration.name = source ∧
      ∃ dependencies, declaration.dependencies = .ok dependencies ∧ target ∈ dependencies

/-- The entry that the graph has for a declaration. -/
theorem dependencyGraph_eq_ok_iff :
    dependencyGraph declarations = .ok graph ↔
      List.Forall₂ (fun declaration entry => ∃ dependencies,
        declaration.dependencies = .ok dependencies ∧
          entry = (declaration.name,
            (declarations.map Declaration.name).filter (dependencies.contains ·)))
        declarations graph := by
  unfold dependencyGraph
  rw [mapM_eq_ok_iff]
  refine iff_of_eq (congrArg (List.Forall₂ · declarations graph) ?_)
  funext declaration entry
  rw [bind_eq_ok_iff, eq_iff_iff]
  constructor
  · rintro ⟨dependencies, found, h⟩
    cases h
    exact ⟨dependencies, found, rfl⟩
  · rintro ⟨dependencies, found, rfl⟩
    exact ⟨dependencies, found, rfl⟩

theorem names_dependencyGraph (h : dependencyGraph declarations = .ok graph) :
    graph.names = declarations.map Declaration.name := by
  refine (map_eq_map_of_forall₂ (dependencyGraph_eq_ok_iff.mp h) ?_).symm
  rintro declaration entry ⟨dependencies, _, rfl⟩
  rfl

/-- Declarations that all have their dependencies have a graph. -/
theorem exists_dependencyGraph (listed : ∀ declaration ∈ declarations,
    ∃ dependencies, declaration.dependencies = .ok dependencies) :
    ∃ graph, dependencyGraph declarations = .ok graph := by
  refine exists_mapM_eq_ok fun declaration inside => ?_
  obtain ⟨dependencies, found⟩ := listed declaration inside
  exact ⟨_, bind_eq_ok_iff.mpr ⟨dependencies, found, rfl⟩⟩

theorem wellFormed_dependencyGraph (distinct : (declarations.map Declaration.name).Nodup)
    (h : dependencyGraph declarations = .ok graph) : graph.WellFormed where
  distinct := by rwa [names_dependencyGraph h]
  closed := by
    intro entry inside target member
    obtain ⟨declaration, _, dependencies, _, rfl⟩ :=
      exists_left_of_forall₂ (dependencyGraph_eq_ok_iff.mp h) inside
    rw [names_dependencyGraph h]
    exact (List.mem_filter.mp member).1

/-- The references of the graph are those among the declarations. -/
theorem refers_dependencyGraph (distinct : (declarations.map Declaration.name).Nodup)
    (h : dependencyGraph declarations = .ok graph) : graph.Refers = DependsOn declarations := by
  have entries := dependencyGraph_eq_ok_iff.mp h
  funext source target
  rw [eq_iff_iff]
  constructor
  · rintro ⟨targets, looked, inside⟩
    -- the entry that was looked up is the entry of a declaration
    obtain ⟨declaration, member, dependencies, found, entry⟩ :=
      exists_left_of_forall₂ entries (Graph.mem_of_targets? looked)
    cases entry
    obtain ⟨declared, named⟩ := List.mem_filter.mp inside
    exact ⟨declared, declaration, member, rfl, dependencies, found, by simpa using named⟩
  · rintro ⟨declared, declaration, member, rfl, dependencies, found, named⟩
    obtain ⟨entry, inside, dependencies', found', rfl⟩ := exists_right_of_forall₂ entries member
    rw [found] at found'
    cases found'
    refine ⟨_, Graph.targets?_of_mem (wellFormed_dependencyGraph distinct h).distinct inside, ?_⟩
    exact List.mem_filter.mpr ⟨declared, by simpa using named⟩

/-- The emission order of the graph has each declared name once. -/
theorem perm_of_emissionOrder (distinct : (declarations.map Declaration.name).Nodup)
    (h : dependencyGraph declarations = .ok graph) {names : List String}
    (emitted : graph.emissionOrder = .ok names) :
    names.Perm (declarations.map Declaration.name) := by
  rw [← names_dependencyGraph h]
  exact (Graph.emissionOrder_ok (wellFormed_dependencyGraph distinct h) emitted).1

/-! ## From names back to declarations -/

/-- The declarations of declared names have these names. -/
theorem map_name_filterMap_find? {names : List String}
    (known : ∀ name ∈ names, name ∈ declarations.map Declaration.name) :
    (names.filterMap fun name => declarations.find? (·.name = name)).map Declaration.name
      = names := by
  rw [List.map_filterMap]
  calc names.filterMap
          (fun name => (declarations.find? (·.name = name)).map Declaration.name)
      _ = names.filterMap some := by
        refine List.filterMap_congr fun name inside => ?_
        obtain ⟨declaration, member, same⟩ := List.mem_map.mp (known name inside)
        cases found : declarations.find? (·.name = name) with
        | none =>
          have missing := List.find?_eq_none.mp found declaration member
          simp [same] at missing
        | some other =>
          have named : other.name = name := by simpa using List.find?_some found
          rw [Option.map_some, named]
      _ = names := List.filterMap_some

/-- The declarations of names that permute the declared names. -/
theorem filterMap_find?_name (distinct : (declarations.map Declaration.name).Nodup)
    {names : List String} (perm : names.Perm (declarations.map Declaration.name)) :
    (names.filterMap fun name => declarations.find? (·.name = name)).Perm declarations ∧
      (names.filterMap fun name => declarations.find? (·.name = name)).map Declaration.name
        = names := by
  constructor
  · have whole : (declarations.map Declaration.name).filterMap
        (fun name => declarations.find? (·.name = name)) = declarations := by
      rw [List.filterMap_map]
      calc declarations.filterMap
              ((fun name => declarations.find? (·.name = name)) ∘ Declaration.name)
          _ = declarations.filterMap some :=
            List.filterMap_congr fun declaration inside => find?_of_distinct distinct inside
          _ = declarations := List.filterMap_some
    exact (perm.filterMap _).trans (.of_eq whole)
  · exact map_name_filterMap_find? fun name inside => perm.subset inside

/-! ## The three outcomes -/

theorem order_of_repeated {name : String}
    (h : firstRepeated? (declarations.map Declaration.name) = some name) :
    order declarations = .error (.duplicateName name) := by
  rw [order, h]

/-- Declarations with distinct names are ordered by the emission order of their graph. -/
theorem order_of_distinct (distinct : (declarations.map Declaration.name).Nodup)
    (h : dependencyGraph declarations = .ok graph) :
    order declarations =
      match graph.emissionOrder with
      | .error name => .error (.circularReference name)
      | .ok names => .ok (names.filterMap fun name => declarations.find? (·.name = name)) := by
  rw [order, firstRepeated?_eq_none_iff.mpr distinct]
  show (dependencyGraph declarations >>= _) = _
  rw [h]
  rfl

/-- Declarations whose graph cannot be made fail as the graph does. -/
theorem order_of_graph_error (distinct : (declarations.map Declaration.name).Nodup)
    {failure : Failure} (h : dependencyGraph declarations = .error failure) :
    order declarations = .error failure := by
  rw [order, firstRepeated?_eq_none_iff.mpr distinct]
  show (dependencyGraph declarations >>= _) = _
  rw [h]
  rfl

/-- An ordered schema comes from distinct names and a graph with an emission order. -/
theorem exists_emissionOrder_of_order {ordered : List Declaration}
    (h : order declarations = .ok ordered) :
    (declarations.map Declaration.name).Nodup ∧
      ∃ graph names, dependencyGraph declarations = .ok graph ∧
        graph.emissionOrder = .ok names ∧
        ordered = names.filterMap fun name => declarations.find? (·.name = name) := by
  cases repeated : firstRepeated? (declarations.map Declaration.name) with
  | some name =>
    rw [order_of_repeated repeated] at h
    cases h
  | none =>
    have distinct := firstRepeated?_eq_none_iff.mp repeated
    refine ⟨distinct, ?_⟩
    cases built : dependencyGraph declarations with
    | error failure =>
      rw [order_of_graph_error distinct built] at h
      cases h
    | ok graph =>
      rw [order_of_distinct distinct built] at h
      cases emitted : graph.emissionOrder with
      | error name =>
        rw [emitted] at h
        cases h
      | ok names =>
        rw [emitted] at h
        cases h
        exact ⟨graph, names, rfl, emitted, rfl⟩

/-- An ordered schema permutes the declarations, whose names are distinct. -/
theorem perm_of_order {ordered : List Declaration} (h : order declarations = .ok ordered) :
    ordered.Perm declarations ∧ (ordered.map Declaration.name).Nodup := by
  obtain ⟨distinct, graph, names, built, emitted, rfl⟩ := exists_emissionOrder_of_order h
  have whole := (filterMap_find?_name distinct (perm_of_emissionOrder distinct built emitted)).1
  exact ⟨whole, (whole.map Declaration.name).nodup_iff.mpr distinct⟩

/-- What stands in an ordered schema was declared. -/
theorem mem_of_order {ordered before rest : List Declaration} (h : order declarations = .ok ordered)
    (split : ordered = before ++ rest) {declaration : Declaration}
    (inside : declaration ∈ before ∨ declaration ∈ rest) : declaration ∈ declarations := by
  apply (perm_of_order h).1.subset
  rw [split]
  exact List.mem_append.mpr inside

/-- Every dependency list that ordering asked for exists. -/
theorem exists_dependencies_of_order {ordered : List Declaration}
    (h : order declarations = .ok ordered) {declaration : Declaration}
    (declared : declaration ∈ declarations) :
    ∃ dependencies, declaration.dependencies = .ok dependencies := by
  obtain ⟨_, graph, _, built, _, _⟩ := exists_emissionOrder_of_order h
  obtain ⟨_, _, dependencies, found, _⟩ :=
    exists_right_of_forall₂ (dependencyGraph_eq_ok_iff.mp built) declared
  exact ⟨dependencies, found⟩

/-- In an ordered schema a declaration stands after all declarations that it depends on. -/
theorem mem_before_of_order {ordered : List Declaration} (h : order declarations = .ok ordered)
    {before after : List Declaration} {declaration other : Declaration}
    (split : ordered = before ++ declaration :: after) (declared : other ∈ declarations)
    {dependencies : List String} (found : declaration.dependencies = .ok dependencies)
    (listed : other.name ∈ dependencies) : other ∈ before := by
  have source : declaration ∈ declarations := mem_of_order h split (.inr List.mem_cons_self)
  obtain ⟨distinct, graph, names, built, emitted, rfl⟩ := exists_emissionOrder_of_order h
  have perm := perm_of_emissionOrder distinct built emitted
  have first := (Graph.emissionOrder_ok (wellFormed_dependencyGraph distinct built) emitted).2
  have namesSplit : names = before.map Declaration.name ++ declaration.name
      :: after.map Declaration.name := by
    rw [← (filterMap_find?_name distinct perm).2, split, List.map_append, List.map_cons]
  have named : other.name ∈ before.map Declaration.name := by
    refine first _ _ _ namesSplit _ ?_
    rw [refers_dependencyGraph distinct built]
    exact ⟨List.mem_map_of_mem declared, declaration, source, rfl, dependencies, found, listed⟩
  -- the name stands before, and so does `other`, since no second declaration has that name
  obtain ⟨same, inside, sameName⟩ := List.mem_map.mp named
  have sameDeclared : same ∈ declarations := mem_of_order h split (.inl inside)
  rwa [← List.inj_on_of_nodup_map distinct sameDeclared declared sameName]

/-- **Ordering puts dependencies first.** The result has every declaration once, and each
declaration stands after all the declarations that it depends on. -/
theorem order_perm_dependencies_first {ordered : List Declaration}
    (h : order declarations = .ok ordered) :
    ordered.Perm declarations ∧ (ordered.map Declaration.name).Nodup ∧
      ∀ before declaration after, ordered = before ++ declaration :: after →
        ∃ dependencies, declaration.dependencies = .ok dependencies ∧
          ∀ other ∈ declarations, other.name ∈ dependencies → other ∈ before := by
  obtain ⟨whole, distinct⟩ := perm_of_order h
  refine ⟨whole, distinct, ?_⟩
  intro before declaration after split
  have declared : declaration ∈ declarations := mem_of_order h split (.inr List.mem_cons_self)
  obtain ⟨dependencies, found⟩ := exists_dependencies_of_order h declared
  refine ⟨dependencies, found, ?_⟩
  intro other inside listed
  exact mem_before_of_order h split inside found listed

/-- An enum, a record that refers to it, and a record that refers to the record in an array. -/
def sampleChain : List Declaration :=
  [.record ⟨"Order", [⟨"items", .array (.reference .record "Item"), false⟩]⟩,
    .record ⟨"Item", [⟨"size", .reference .enum "Size", true⟩]⟩,
    .enum ⟨"Size", [⟨"small", some (.int 0)⟩]⟩]

theorem order_perm_dependencies_first_chain :
    order sampleChain = .ok sampleChain.reverse ∧
      sampleChain.reverse.Perm sampleChain ∧
      ∀ before declaration after, sampleChain.reverse = before ++ declaration :: after →
        ∃ dependencies, declaration.dependencies = .ok dependencies ∧
          ∀ other ∈ sampleChain, other.name ∈ dependencies → other ∈ before := by
  have evaluated : order sampleChain = .ok sampleChain.reverse := by cbv
  have holds := order_perm_dependencies_first evaluated
  exact ⟨evaluated, holds.1, holds.2.2⟩

/-- Distinct names leave two outcomes, and the circles of the references decide between them. -/
theorem order_of_distinct_cases
    (complete : ∀ declaration ∈ declarations, declaration.isComplete = true)
    (distinct : (declarations.map Declaration.name).Nodup) :
    (∃ name, TransGen (DependsOn declarations) name name ∧
        order declarations = .error (.circularReference name)) ∨
      (∀ name, ¬ TransGen (DependsOn declarations) name name) ∧
        ∃ ordered, order declarations = .ok ordered := by
  obtain ⟨graph, built⟩ := exists_dependencyGraph fun declaration inside =>
    Declaration.exists_dependencies (complete declaration inside)
  have wf := wellFormed_dependencyGraph distinct built
  rw [order_of_distinct distinct built, ← refers_dependencyGraph distinct built]
  cases emitted : graph.emissionOrder with
  | error name => exact .inl ⟨name, Graph.emissionOrder_error wf emitted, rfl⟩
  | ok names => exact .inr ⟨Graph.acyclic_of_emissionOrder wf emitted, _, rfl⟩

/-- A name on a circle is declared. -/
theorem mem_names_of_circle {name : String} (circle : TransGen (DependsOn declarations) name name) :
    name ∈ declarations.map Declaration.name := by
  obtain ⟨_, _, declared, _⟩ := TransGen.tail'_iff.mp circle
  exact declared

/-- The declaration that repeats a name is reported, if there is one. -/
theorem order_of_not_distinct (repeated : ¬ (declarations.map Declaration.name).Nodup) :
    ∃ before declaration after, declarations = before ++ declaration :: after ∧
      (before.map Declaration.name).Nodup ∧ declaration.name ∈ before.map Declaration.name ∧
      order declarations = .error (.duplicateName declaration.name) := by
  have reported : firstRepeated? (declarations.map Declaration.name) ≠ none :=
    mt firstRepeated?_eq_none_iff.mp repeated
  obtain ⟨name, found⟩ := Option.ne_none_iff_exists'.mp reported
  obtain ⟨front, back, split, distinct, met⟩ := firstRepeated?_eq_some found
  obtain ⟨before, rest, rfl, rfl, restNames⟩ := List.map_eq_append_iff.mp split
  obtain ⟨declaration, after, rfl, rfl, rfl⟩ := List.map_eq_cons_iff.mp restNames
  exact ⟨before, declaration, after, rfl, distinct, met, order_of_repeated found⟩

/-- **The outcomes of ordering.** A repeated name is reported first, by the first declaration that
repeats one. Otherwise a circle of references is reported by a name on it, and without a circle
the declarations are ordered. -/
theorem order_outcomes
    (complete : ∀ declaration ∈ declarations, declaration.isComplete = true) :
    (¬ (declarations.map Declaration.name).Nodup →
      ∃ before declaration after, declarations = before ++ declaration :: after ∧
        (before.map Declaration.name).Nodup ∧ declaration.name ∈ before.map Declaration.name ∧
        order declarations = .error (.duplicateName declaration.name)) ∧
    ((declarations.map Declaration.name).Nodup →
      (∃ name, TransGen (DependsOn declarations) name name) →
      ∃ name ∈ declarations.map Declaration.name, TransGen (DependsOn declarations) name name ∧
        order declarations = .error (.circularReference name)) ∧
    ((declarations.map Declaration.name).Nodup →
      (∀ name, ¬ TransGen (DependsOn declarations) name name) →
      ∃ ordered, order declarations = .ok ordered) ∧
    ((∃ name, order declarations = .error (.circularReference name)) ↔
      (declarations.map Declaration.name).Nodup ∧
        ∃ name, TransGen (DependsOn declarations) name name) := by
  refine ⟨order_of_not_distinct, ?_, ?_, ?_, ?_⟩
  · rintro distinct ⟨name, circle⟩
    rcases order_of_distinct_cases complete distinct with ⟨other, found, reported⟩ | ⟨acyclic, _⟩
    · exact ⟨other, mem_names_of_circle found, found, reported⟩
    · exact absurd circle (acyclic name)
  · intro distinct acyclic
    rcases order_of_distinct_cases complete distinct with ⟨name, circle, _⟩ | ⟨_, ordered⟩
    · exact absurd circle (acyclic name)
    · exact ordered
  · rintro ⟨name, reported⟩
    -- a repeated name would have been reported in place of the circle
    by_cases distinct : (declarations.map Declaration.name).Nodup
    · refine ⟨distinct, ?_⟩
      rcases order_of_distinct_cases complete distinct with ⟨other, circle, _⟩ | ⟨_, _, ordered⟩
      · exact ⟨other, circle⟩
      · rw [ordered] at reported
        cases reported
    · obtain ⟨_, _, _, _, _, _, duplicate⟩ := order_of_not_distinct distinct
      rw [duplicate] at reported
      cases reported
  · rintro ⟨distinct, name, circle⟩
    rcases order_of_distinct_cases complete distinct with ⟨other, _, reported⟩ | ⟨acyclic, _⟩
    · exact ⟨other, reported⟩
    · exact absurd circle (acyclic name)

/-- A record that leads to a circle of two others. -/
def sampleCircle : List Declaration :=
  [.record ⟨"Root", [⟨"left", .reference .record "Left", false⟩]⟩,
    .record ⟨"Left", [⟨"right", .reference .record "Right", true⟩]⟩,
    .record ⟨"Right", [⟨"lefts", .array (.reference .record "Left"), false⟩]⟩]

theorem order_outcomes_circle :
    (∀ declaration ∈ sampleCircle, declaration.isComplete = true) ∧
      ∃ name, order sampleCircle = .error (.circularReference name) := by
  have complete : ∀ declaration ∈ sampleCircle, declaration.isComplete = true := by decide
  have forth : DependsOn sampleCircle "Left" "Right" :=
    ⟨by decide, _, .tail _ (.head _), rfl, ["Right"], rfl, by decide⟩
  have back : DependsOn sampleCircle "Right" "Left" :=
    ⟨by decide, _, .tail _ (.tail _ (.head _)), rfl, ["Left"], rfl, by decide⟩
  have outcomes := order_outcomes complete
  exact ⟨complete, outcomes.2.2.2.mpr ⟨by decide, "Left", (TransGen.single forth).tail back⟩⟩

end NativeRecords.Schema
