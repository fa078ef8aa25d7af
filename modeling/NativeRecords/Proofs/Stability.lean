/-
# NativeRecords.Proofs.Stability -- what the emission order is sensitive to

Declarations that stand after all that they depend on stay where they are: when the visit of one
starts, all its references are done, so it ends at once. What ordering returns stands like this, and
so ordering it again changes nothing.

Of the declarations themselves the order sees little. The search runs on the graph of references,
and the graph lists the references of a declaration in the order of the declared names, which is to
say sorted by the places of the declarations. In which fields they stand, how often, and inside which
containers is lost on the way, so declarations that depend on the same names are ordered alike, or
fail alike.
-/
import NativeRecords.Proofs.FirstOccurrences
import NativeRecords.Proofs.PostOrder

namespace NativeRecords.Schema

variable {declarations others ordered before rest : List Declaration}

/-! ## Declarations that stand in order -/

/-- Every declaration has its dependencies, and those that are declared stand before it. -/
def StandsInOrder (declarations : List Declaration) : Prop :=
  ∀ before declaration after, declarations = before ++ declaration :: after →
    ∃ dependencies, declaration.dependencies = .ok dependencies ∧
      ∀ other ∈ declarations, other.name ∈ dependencies → other ∈ before

/-- Finished names are passed over. -/
theorem visitNames_of_done {path names : List String} {done : List Declaration}
    (finished : ∀ name ∈ names, name ∈ done.map Declaration.name) :
    visitNames declarations path done names = .ok done := by
  induction names with
  | nil => exact visitNames_nil
  | cons name names ih =>
    obtain ⟨here, others⟩ := List.forall_mem_cons.mp finished
    rw [visitNames_cons, visitName_of_done here]
    exact ih others

/-- Where declarations stand in order, what one depends on is among the names before it. -/
theorem StandsInOrder.mem_before (inOrder : StandsInOrder declarations)
    {after : List Declaration} {declaration : Declaration}
    (split : declarations = before ++ declaration :: after) {target : String}
    (inside : target ∈ declaredDependencies declarations declaration) :
    target ∈ before.map Declaration.name := by
  obtain ⟨dependencies, found, earlier⟩ := inOrder before declaration after split
  rw [declaredDependencies, found] at inside
  obtain ⟨declared, listed⟩ := List.mem_filter.mp inside
  obtain ⟨other, member, rfl⟩ := List.mem_map.mp declared
  exact List.mem_map_of_mem (earlier other member (List.contains_iff_mem.mp listed))

/-- A declaration whose turn has come is added as it stands. -/
theorem StandsInOrder.visitName_next (inOrder : StandsInOrder declarations)
    (distinct : (declarations.map Declaration.name).Nodup) {after : List Declaration}
    {declaration : Declaration} (split : declarations = before ++ declaration :: after) :
    visitName declarations [] before declaration.name = .ok (before ++ [declaration]) := by
  have unfinished : declaration.name ∉ before.map Declaration.name := by
    rw [split, List.map_append, List.map_cons] at distinct
    exact fun inside => List.disjoint_of_nodup_append distinct inside List.mem_cons_self
  have member : declaration ∈ declarations := by simp [split]
  -- its dependencies are finished, so the visit goes to none of them
  rw [visitName_of_find? unfinished List.not_mem_nil (find?_of_distinct distinct member),
    visitNames_of_done fun target inside => inOrder.mem_before split inside]
  rfl

/-- The visits of what is left add it as it stands. -/
theorem StandsInOrder.visitNames_rest (inOrder : StandsInOrder declarations)
    (distinct : (declarations.map Declaration.name).Nodup) (split : declarations = before ++ rest) :
    visitNames declarations [] before (rest.map Declaration.name) = .ok declarations := by
  induction rest generalizing before with
  | nil => rw [List.map_nil, visitNames_nil, split, List.append_nil]
  | cons declaration rest ih =>
    rw [List.map_cons, visitNames_cons, inOrder.visitName_next distinct split]
    exact ih (by rw [split, List.append_assoc, List.singleton_append])

theorem StandsInOrder.order_eq (inOrder : StandsInOrder declarations)
    (distinct : (declarations.map Declaration.name).Nodup) :
    order declarations = .ok declarations := by
  obtain ⟨graph, built⟩ : ∃ graph, dependencyGraph declarations = .ok graph := by
    refine exists_dependencyGraph fun declaration inside => ?_
    obtain ⟨before, after, split⟩ := List.append_of_mem inside
    obtain ⟨dependencies, found, _⟩ := inOrder before declaration after split
    exact ⟨dependencies, found⟩
  rw [order_eq_depthFirst_of_graph distinct built]
  exact inOrder.visitNames_rest distinct (List.nil_append declarations).symm

/-- What ordering returns stands in order. -/
theorem standsInOrder_of_order (h : order declarations = .ok ordered) : StandsInOrder ordered := by
  intro before declaration after split
  have declared : declaration ∈ declarations := mem_of_order h split (.inr List.mem_cons_self)
  obtain ⟨dependencies, found⟩ := exists_dependencies_of_order h declared
  refine ⟨dependencies, found, fun other inside listed => ?_⟩
  exact mem_before_of_order h split ((perm_of_order h).1.subset inside) found listed

/-- **Ordering is stable.** Declarations are returned as they are exactly if their names are
distinct and each already stands after the declarations that it depends on. What ordering returns is
such a list, so ordering it again returns it. -/
theorem order_stable_idempotent (declarations : List Declaration) :
    (order declarations = .ok declarations ↔
      (declarations.map Declaration.name).Nodup ∧ StandsInOrder declarations) ∧
    ∀ ordered, order declarations = .ok ordered → order ordered = .ok ordered := by
  refine ⟨⟨?_, ?_⟩, ?_⟩
  · intro unchanged
    exact ⟨(perm_of_order unchanged).2, standsInOrder_of_order unchanged⟩
  · rintro ⟨distinct, inOrder⟩
    exact inOrder.order_eq distinct
  · intro ordered h
    exact (standsInOrder_of_order h).order_eq (perm_of_order h).2

theorem order_stable_idempotent_chain :
    order sampleChain = .ok sampleChain.reverse ∧
      StandsInOrder sampleChain.reverse ∧
      order sampleChain.reverse = .ok sampleChain.reverse := by
  have evaluated : order sampleChain = .ok sampleChain.reverse := by cbv
  have again := (order_stable_idempotent sampleChain).2 _ evaluated
  exact ⟨evaluated, ((order_stable_idempotent sampleChain.reverse).1.mp again).2, again⟩

/-! ## References sorted by place -/

/-- The names sorted by their places among the declared ones. -/
def sortByPlace (declared names : List String) : List String :=
  names.mergeSort fun name other => declared.idxOf name ≤ declared.idxOf other

theorem pairwise_sortByPlace (declared names : List String) :
    (sortByPlace declared names).Pairwise fun name other =>
      declared.idxOf name ≤ declared.idxOf other := by
  have sorted : (sortByPlace declared names).Pairwise fun name other =>
      decide (declared.idxOf name ≤ declared.idxOf other) = true := by
    refine List.pairwise_mergeSort ?_ ?_ names
    · intro a b c
      simpa using Nat.le_trans
    · intro a b
      simpa using Nat.le_total _ _
  exact sorted.imp of_decide_eq_true

/-- Distinct names stand in the order of their places. -/
theorem pairwise_idxOf {declared : List String} (distinct : declared.Nodup) :
    declared.Pairwise fun name other => declared.idxOf name ≤ declared.idxOf other := by
  rw [List.pairwise_iff_getElem]
  intro i j hi hj before
  rw [distinct.idxOf_getElem, distinct.idxOf_getElem]
  exact Nat.le_of_lt before

/-- Going through the declared names for those that are listed gives the listed ones that are
declared, sorted by place. -/
theorem filter_eq_sortByPlace {declared names : List String} (distinct : declared.Nodup)
    (once : names.Nodup) : declared.filter (names.contains ·) =
      sortByPlace declared (names.filter (declared.contains ·)) := by
  have perm : (sortByPlace declared (names.filter (declared.contains ·))).Perm
      (names.filter (declared.contains ·)) := List.mergeSort_perm _ _
  refine List.Perm.eq_of_pairwise ?_ ((pairwise_idxOf distinct).filter _)
    (pairwise_sortByPlace declared _) (List.Perm.trans ?_ perm.symm)
  · intro name other inside _ before after
    exact (List.idxOf_inj (List.mem_of_mem_filter inside)).mp (Nat.le_antisymm before after)
  · refine (List.perm_ext_iff_of_nodup (distinct.filter _) (once.filter _)).mpr fun name => ?_
    simp [and_comm]

/-- The references of each declaration are its declared dependencies, sorted by the places of their
declarations. -/
theorem dependencyGraph_eq_sorted (distinct : (declarations.map Declaration.name).Nodup) :
    dependencyGraph declarations = declarations.mapM fun declaration => do
      let dependencies ← declaration.dependencies
      return (declaration.name, sortByPlace (declarations.map Declaration.name)
        (dependencies.filter ((declarations.map Declaration.name).contains ·))) := by
  refine mapM_congr_of_mem fun declaration _ => ?_
  cases found : declaration.dependencies with
  | error failure => rfl
  | ok dependencies =>
    show Except.ok (declaration.name, _) = Except.ok (declaration.name, _)
    rw [filter_eq_sortByPlace distinct (Declaration.nodup_dependencies found)]

/-! ## Declarations with the same dependencies -/

/-- Two declarations depend on the same names, in whatever order these are listed, or their
dependencies cannot be told for the same reason. -/
inductive SameDependencies (declaration other : Declaration) : Prop
  | listed {names names' : List String} : declaration.dependencies = .ok names →
      other.dependencies = .ok names' → (∀ name, name ∈ names ↔ name ∈ names') →
      SameDependencies declaration other
  | failed {failure : Failure} : declaration.dependencies = .error failure →
      other.dependencies = .error failure → SameDependencies declaration other

/-- Declarations of the same names in the same places, each with the same dependencies as the other
of its name. -/
def Corresponding (declarations others : List Declaration) : Prop :=
  List.Forall₂ (fun declaration other =>
    declaration.name = other.name ∧ SameDependencies declaration other) declarations others

theorem Corresponding.map_name (h : Corresponding declarations others) :
    declarations.map Declaration.name = others.map Declaration.name :=
  map_eq_map_of_forall₂ h fun _ _ same => same.1

/-- The graph shows nothing of a declaration but its name and the set of its dependencies. -/
theorem Corresponding.dependencyGraph_eq (h : Corresponding declarations others) :
    dependencyGraph declarations = dependencyGraph others := by
  unfold dependencyGraph
  rw [h.map_name]
  refine mapM_congr_of_forall₂ h ?_
  rintro declaration other ⟨named, same⟩
  rw [named]
  cases same with
  | failed found found' => rw [found, found']
  | @listed names names' found found' members =>
    have filtered : (others.map Declaration.name).filter (names.contains ·)
        = (others.map Declaration.name).filter (names'.contains ·) :=
      List.filter_congr fun name _ => by simp [members]
    rw [found, found']
    show Except.ok (other.name, _) = Except.ok (other.name, _)
    rw [filtered]

/-- The names of the ordered declarations, from the declared names and the graph alone. -/
def orderedNames (names : List String) (graph : Except Failure Graph) :
    Except Failure (List String) :=
  match firstRepeated? names with
  | some name => .error (.duplicateName name)
  | none => graph >>= fun graph => graph.emissionOrder.mapError .circularReference

theorem map_name_order (declarations : List Declaration) :
    (order declarations).map (List.map Declaration.name)
      = orderedNames (declarations.map Declaration.name) (dependencyGraph declarations) := by
  unfold orderedNames
  cases repeated : firstRepeated? (declarations.map Declaration.name) with
  | some name =>
    rw [order_of_repeated repeated]
    rfl
  | none =>
    have distinct := firstRepeated?_eq_none_iff.mp repeated
    cases built : dependencyGraph declarations with
    | error failure =>
      rw [order_of_graph_error distinct built]
      rfl
    | ok graph =>
      rw [order_of_distinct distinct built]
      show _ = graph.emissionOrder.mapError Failure.circularReference
      cases emitted : graph.emissionOrder with
      | error name => rfl
      | ok names =>
        have perm := perm_of_emissionOrder distinct built emitted
        -- an emitted name is declared, so it is the name of the declaration that it is replaced by
        show Except.ok _ = Except.ok names
        rw [map_name_filterMap_find? fun name inside => perm.subset inside]

/-- **The emission order depends on names and dependencies alone.** Two lists of declarations that
have the same names in the same places, and the same set of dependencies at each, are put into the
same order, or fail for the same reason with the same name. -/
theorem order_determined_by_dependencies (h : Corresponding declarations others) :
    (order declarations).map (List.map Declaration.name)
      = (order others).map (List.map Declaration.name) := by
  rw [map_name_order, map_name_order, h.map_name, h.dependencyGraph_eq]

/-- A record with two fields, before what it depends on. -/
def samplePage : List Declaration :=
  [.record ⟨"Page", [⟨"lines", .array (.reference .record "Line"), false⟩,
      ⟨"title", .reference .enum "Title", true⟩]⟩,
    .enum ⟨"Title", [⟨"none", some (.int 0)⟩]⟩,
    .record ⟨"Line", []⟩]

/-- The same names, but the record refers to them in other fields and the other way round. -/
def samplePageRearranged : List Declaration :=
  [.record ⟨"Page", [⟨"heads", .map (.primitive .string) (.reference .record "Title"), false⟩,
      ⟨"body", .reference .enum "Line", true⟩,
      ⟨"feet", .array (.array (.reference .record "Title")), false⟩]⟩,
    .record ⟨"Title", [⟨"text", .primitive .string, false⟩]⟩,
    .enum ⟨"Line", [⟨"empty", some (.int 0)⟩]⟩]

theorem order_determined_by_dependencies_page :
    Corresponding samplePage samplePageRearranged ∧
      (order samplePage).map (List.map Declaration.name) = .ok ["Title", "Line", "Page"] ∧
      (order samplePageRearranged).map (List.map Declaration.name)
        = .ok ["Title", "Line", "Page"] := by
  have turned : ∀ name, name ∈ ["Line", "Title"] ↔ name ∈ ["Title", "Line"] := by
    simp [or_comm]
  have alike : Corresponding samplePage samplePageRearranged :=
    .cons ⟨rfl, .listed rfl rfl turned⟩
      (.cons ⟨rfl, .listed rfl rfl fun _ => Iff.rfl⟩
        (.cons ⟨rfl, .listed rfl rfl fun _ => Iff.rfl⟩ .nil))
  have evaluated : (order samplePage).map (List.map Declaration.name)
      = .ok ["Title", "Line", "Page"] := by cbv
  exact ⟨alike, evaluated, by rw [← order_determined_by_dependencies alike, evaluated]⟩

end NativeRecords.Schema
