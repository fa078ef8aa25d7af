/-
# NativeRecords.Proofs.PostOrder -- the search as a recursion

The search for an emission order keeps its own stack. What it computes is the depth-first post-order
that is written down more easily as a recursion, and this module gives the recursion and shows that
the two agree, in what they return and in what they report.

The link between them is `unwind`, which says what the recursion has still to do when the search has
a certain stack: each visit of the stack goes on with the references that it has not followed, and
the visit below it goes on with the result. No step of the search changes what is left to do, so the
search returns what the recursion does. That the two mark the same names as finished and as in
progress is what the invariant of the search is needed for.
-/
import NativeRecords.Proofs.Order

namespace NativeRecords.Schema

variable {declarations : List Declaration}

/-! ## The recursion -/

/-- The declared names that a declaration depends on, in the order in which they are declared. A
declaration whose dependencies cannot be told has none. -/
def declaredDependencies (declarations : List Declaration) (declaration : Declaration) :
    List String :=
  let dependencies := declaration.dependencies.toOption.getD []
  (declarations.map Declaration.name).filter (dependencies.contains ·)

/-- The declared names whose visits are not in progress. -/
def unentered (declarations : List Declaration) (path : List String) : Nat :=
  (declarations.map Declaration.name).countP fun name => !path.contains name

theorem unentered_cons {path : List String} {name : String} {declaration : Declaration}
    (found : declarations.find? (·.name = name) = some declaration) (fresh : name ∉ path) :
    unentered declarations (name :: path) < unentered declarations path := by
  have named : declaration.name = name := by simpa using List.find?_some found
  have member : name ∈ declarations.map Declaration.name :=
    List.mem_map.mpr ⟨declaration, List.mem_of_find?_eq_some found, named⟩
  exact countP_lt_of_mem (fun other => by simp) member (by simp) (by simpa using fresh)

mutual

/-- Visits a name while the visits in `path` are in progress and those of `done` are finished. A
finished name is skipped, and one whose visit is in progress is reported. Any other name has its
dependencies visited first and is then added to what is finished. -/
def visitName (declarations : List Declaration) (path : List String) (done : List Declaration)
    (name : String) : Except Failure (List Declaration) :=
  if name ∈ done.map Declaration.name then .ok done
  else if _fresh : name ∈ path then .error (.circularReference name)
  else
    match _found : declarations.find? (·.name = name) with
    | none => .ok done
    | some declaration =>
      (visitNames declarations (name :: path) done
        (declaredDependencies declarations declaration)).map (· ++ [declaration])
termination_by (unentered declarations path, 0)
decreasing_by
  exact Prod.Lex.left _ _ (unentered_cons _found _fresh)

/-- Visits names one after the other. -/
def visitNames (declarations : List Declaration) (path : List String) (done : List Declaration)
    (names : List String) : Except Failure (List Declaration) :=
  match names with
  | [] => .ok done
  | name :: rest => do
    let done ← visitName declarations path done name
    visitNames declarations path done rest
termination_by (unentered declarations path, names.length)
decreasing_by
  · exact Prod.Lex.right _ (Nat.succ_pos _)
  · exact Prod.Lex.right _ (Nat.lt_succ_self _)

end

/-- The declarations in depth-first post-order: all are visited in the order given. -/
def depthFirst (declarations : List Declaration) : Except Failure (List Declaration) :=
  visitNames declarations [] [] (declarations.map Declaration.name)

section Visits

variable {path : List String} {done : List Declaration} {name : String}

theorem visitNames_nil : visitNames declarations path done [] = .ok done := by
  rw [visitNames]

theorem visitNames_cons {rest : List String} :
    visitNames declarations path done (name :: rest) =
      visitName declarations path done name >>= fun done =>
        visitNames declarations path done rest := by
  rw [visitNames]

theorem visitName_of_done (finished : name ∈ done.map Declaration.name) :
    visitName declarations path done name = .ok done := by
  rw [visitName, if_pos finished]

theorem visitName_of_path (unfinished : name ∉ done.map Declaration.name) (entered : name ∈ path) :
    visitName declarations path done name = .error (.circularReference name) := by
  rw [visitName, if_neg unfinished, dif_pos entered]

theorem visitName_of_find? {declaration : Declaration}
    (unfinished : name ∉ done.map Declaration.name) (fresh : name ∉ path)
    (found : declarations.find? (·.name = name) = some declaration) :
    visitName declarations path done name =
      (visitNames declarations (name :: path) done
        (declaredDependencies declarations declaration)).map (· ++ [declaration]) := by
  rw [visitName, if_neg unfinished, dif_neg fresh]
  split <;> rename_i found' <;> rw [found] at found' <;> cases found'
  rfl

end Visits

/-! ## Names and their declarations -/

/-- The declarations of these names. -/
def named (declarations : List Declaration) (names : List String) : List Declaration :=
  names.filterMap fun name => declarations.find? (·.name = name)

theorem named_concat (names : List String) (name : String) :
    named declarations (names ++ [name]) = named declarations names ++ named declarations [name] :=
  List.filterMap_append

theorem named_singleton {name : String} {declaration : Declaration}
    (found : declarations.find? (·.name = name) = some declaration) :
    named declarations [name] = [declaration] := by
  simp [named, found]

/-- The dependencies of all declarations decide whether there is a graph, and how it fails. -/
theorem dependencyGraph_eq_map (declarations : List Declaration) :
    dependencyGraph declarations =
      (declarations.mapM Declaration.dependencies).map
        (List.zipWith (fun declaration dependencies =>
          (declaration.name, (declarations.map Declaration.name).filter (dependencies.contains ·)))
          declarations) := by
  rw [← mapM_map]
  rfl

variable {graph : Graph}

/-- The targets of a name in the graph are the declared dependencies of its declaration. -/
theorem exists_find?_of_targets? (distinct : (declarations.map Declaration.name).Nodup)
    (built : dependencyGraph declarations = .ok graph) {name : String} {targets : List String}
    (found : graph.targets? name = some targets) :
    ∃ declaration, declarations.find? (·.name = name) = some declaration ∧
      targets = declaredDependencies declarations declaration := by
  obtain ⟨declaration, inside, dependencies, listed, same⟩ :=
    exists_left_of_forall₂ (dependencyGraph_eq_ok_iff.mp built) (Graph.mem_of_targets? found)
  cases same
  refine ⟨declaration, find?_of_distinct distinct inside, ?_⟩
  rw [declaredDependencies, listed]
  rfl

/-! ## What is left to do -/

namespace Search

/-- What the recursion has still to do when these visits are in progress. The innermost visit goes
on with the references that it has not followed and ends, and the others follow. -/
def unwind (declarations : List Declaration) :
    List (String × List String) → List Declaration → Except Failure (List Declaration)
  | [], done => .ok done
  | (name, targets) :: outer, done => do
    let done ← visitNames declarations (name :: outer.map (·.1)) done targets
    unwind declarations outer (done ++ named declarations [name])

/-- What a search that has come to an end amounts to. -/
def outcome (declarations : List Declaration) :
    Except String Search → Except Failure (List Declaration)
  | .error name => .error (.circularReference name)
  | .ok search => .ok (named declarations search.ordered)

variable {search next : Search} {name : String}

/-- The names that the search has emitted are those that the recursion has finished. -/
theorem Consistent.map_name_named (built : dependencyGraph declarations = .ok graph)
    (consistent : Consistent graph search) :
    (named declarations search.ordered).map Declaration.name = search.ordered := by
  refine map_name_filterMap_find? fun name inside => ?_
  rw [← names_dependencyGraph built]
  exact consistent.known inside

/-- Following a reference is visiting a name that is neither finished nor in progress. -/
theorem Consistent.visitName_follow (distinct : (declarations.map Declaration.name).Nodup)
    (built : dependencyGraph declarations = .ok graph) (consistent : Consistent graph search)
    {path targets : List String} (unmet : name ∉ search.visited) (fresh : name ∉ path)
    (found : graph.targets? name = some targets) :
    visitName declarations path (named declarations search.ordered) name =
      (visitNames declarations (name :: path) (named declarations search.ordered) targets).map
        (· ++ named declarations [name]) := by
  obtain ⟨declaration, known, rfl⟩ := exists_find?_of_targets? distinct built found
  have unfinished : name ∉ (named declarations search.ordered).map Declaration.name := by
    rw [consistent.map_name_named built]
    exact fun inside => unmet (consistent.mem_visited.mpr inside)
  rw [visitName_of_find? unfinished fresh known, named_singleton known]

/-- No step changes what is left to do. -/
theorem Consistent.unwind_step (distinct : (declarations.map Declaration.name).Nodup)
    (built : dependencyGraph declarations = .ok graph) (consistent : Consistent graph search)
    (busy : search.stack ≠ []) (h : search.step graph = .ok next) :
    unwind declarations search.stack (named declarations search.ordered) =
      unwind declarations next.stack (named declarations next.ordered) := by
  have finished := consistent.map_name_named built
  cases move_of_step busy h with
  | @finish name outer top =>
    have emitted : (search.leave name outer).ordered = search.ordered ++ [name] := rfl
    have below : (search.leave name outer).stack = outer := rfl
    rw [top, emitted, below, unwind, visitNames_nil, named_concat]
    rfl
  | @skip name target targets outer top met =>
    have done : target ∈ (named declarations search.ordered).map Declaration.name := by
      rw [finished]
      exact consistent.mem_visited.mp met
    rw [top, unwind, visitNames_cons, visitName_of_done done]
    rfl
  | @follow name target targets next outer top unmet unopened found =>
    have fresh : target ∉ name :: outer.map (·.1) := by
      rw [consistent.visiting_eq, top] at unopened
      exact unopened
    rw [top, unwind, visitNames_cons, consistent.visitName_follow distinct built unmet fresh found]
    -- the new visit stands above the one that waits for it, which goes on with the other targets
    show _ = unwind declarations ((target, next) :: (name, targets) :: outer)
      (named declarations search.ordered)
    rw [unwind, List.map_cons]
    cases visitNames declarations (target :: name :: outer.map (·.1))
      (named declarations search.ordered) next with
    | error failure => rfl
    | ok inner => rfl
  | @stray name target targets outer top missing =>
    -- a reference of the graph has its own entry
    have waits := consistent.waits
    rw [top] at waits
    have wf := wellFormed_dependencyGraph distinct built
    exact absurd missing (Graph.targets?_ne_none (wf.mem_names waits.1.refers_next))

/-- The name that a step reports is the one at which the recursion stops. -/
theorem Consistent.unwind_error (built : dependencyGraph declarations = .ok graph)
    (consistent : Consistent graph search) (h : search.step graph = .error name) :
    unwind declarations search.stack (named declarations search.ordered) =
      .error (.circularReference name) := by
  obtain ⟨top, targets, outer, stack, opened⟩ := top_of_step_error h
  rw [consistent.visiting_eq] at opened
  have unfinished : name ∉ (named declarations search.ordered).map Declaration.name := by
    rw [consistent.map_name_named built]
    exact fun inside => List.disjoint_of_nodup_append consistent.distinct opened inside
  rw [stack, List.map_cons] at opened
  rw [stack, unwind, visitNames_cons, visitName_of_path unfinished opened]
  rfl

/-- A run does what is left to do. -/
theorem Consistent.outcome_run (distinct : (declarations.map Declaration.name).Nodup)
    (built : dependencyGraph declarations = .ok graph) (consistent : Consistent graph search) :
    outcome declarations (search.run graph) =
      unwind declarations search.stack (named declarations search.ordered) := by
  induction search using Search.run.induct graph with
  | case1 search idle =>
    rw [run, dif_pos idle, idle, unwind, outcome]
  | case2 search busy name stopped =>
    rw [run_of_step_error busy stopped, outcome, consistent.unwind_error built stopped]
  | case3 search busy next progress ih =>
    have wf := wellFormed_dependencyGraph distinct built
    have kept := consistent.move wf (move_of_step busy progress)
    rw [run_of_step_ok busy progress, ih kept]
    exact (consistent.unwind_step distinct built busy progress).symm

/-- A visit of the search is a visit of the recursion from which no other is in progress. -/
theorem Settled.outcome_visit (distinct : (declarations.map Declaration.name).Nodup)
    (built : dependencyGraph declarations = .ok graph) (settled : Settled graph search)
    {entry : String × List String} (inside : entry ∈ graph) :
    outcome declarations (search.visit graph entry) =
      visitName declarations [] (named declarations search.ordered) entry.1 := by
  have wf := wellFormed_dependencyGraph distinct built
  unfold visit
  split
  · rename_i met
    have done : entry.1 ∈ (named declarations search.ordered).map Declaration.name := by
      rw [settled.map_name_named built]
      exact settled.mem_visited.mp met
    rw [visitName_of_done done, outcome]
  · rename_i unmet
    have found := Graph.targets?_of_mem wf.distinct inside
    rw [(settled.enter wf inside unmet).outcome_run distinct built,
      settled.visitName_follow distinct built unmet List.not_mem_nil found]
    show unwind declarations (entry :: search.stack) (named declarations search.ordered) = _
    rw [settled.idle, unwind, List.map_nil]
    cases visitNames declarations [entry.1] (named declarations search.ordered) entry.2 with
    | error failure => rfl
    | ok inner => rfl

/-- Visits in turn are what the recursion does with the names in turn. -/
theorem Settled.outcome_visits (distinct : (declarations.map Declaration.name).Nodup)
    (built : dependencyGraph declarations = .ok graph) {entries : List (String × List String)}
    (sub : entries ⊆ graph) (settled : Settled graph search) :
    outcome declarations (entries.foldlM (visit graph) search) =
      visitNames declarations [] (named declarations search.ordered) (entries.map (·.1)) := by
  induction entries generalizing search with
  | nil =>
    rw [List.map_nil, visitNames_nil]
    rfl
  | cons entry entries ih =>
    have known : entry ∈ graph := sub List.mem_cons_self
    have first := settled.outcome_visit distinct built known
    rw [List.foldlM_cons, List.map_cons, visitNames_cons, ← first]
    cases visited : search.visit graph entry with
    | error name => rfl
    | ok next =>
      have wf := wellFormed_dependencyGraph distinct built
      have settled' := (settled.visit_ok wf known visited).1
      exact ih (fun _ inside => sub (List.mem_cons_of_mem _ inside)) settled'

end Search

/-! ## The search and the recursion -/

theorem order_eq_depthFirst_of_graph (distinct : (declarations.map Declaration.name).Nodup)
    (built : dependencyGraph declarations = .ok graph) :
    order declarations = depthFirst declarations := by
  have visits := (Search.settled_empty graph).outcome_visits distinct built (List.Subset.refl graph)
  have sameNames : graph.map (·.1) = declarations.map Declaration.name :=
    names_dependencyGraph built
  rw [sameNames] at visits
  rw [order_of_distinct distinct built]
  refine Eq.trans ?_ visits
  unfold Graph.emissionOrder
  cases graph.foldlM (Search.visit graph) {} with
  | error name => rfl
  | ok final => rfl

/-- **Ordering is depth-first post-order.** Once the dependencies of all declarations are known, the
loop over a stack gives what the recursion gives: the same declarations in the same order, or the
same name where references run in a circle. -/
theorem order_eq_depthFirst (distinct : (declarations.map Declaration.name).Nodup) :
    order declarations =
      declarations.mapM Declaration.dependencies >>= fun _ => depthFirst declarations := by
  have graphs := dependencyGraph_eq_map declarations
  cases listed : declarations.mapM Declaration.dependencies with
  | error failure =>
    rw [listed] at graphs
    rw [order, firstRepeated?_eq_none_iff.mpr distinct]
    show (dependencyGraph declarations >>= _) = _
    rw [graphs]
    rfl
  | ok dependencies =>
    rw [listed] at graphs
    exact order_eq_depthFirst_of_graph distinct graphs

theorem order_eq_depthFirst_circle :
    (sampleCircle.map Declaration.name).Nodup ∧
      order sampleCircle = .error (.circularReference "Left") ∧
      depthFirst sampleCircle = .error (.circularReference "Left") := by
  have distinct : (sampleCircle.map Declaration.name).Nodup := by decide
  have evaluated : order sampleCircle = .error (.circularReference "Left") := by cbv
  refine ⟨distinct, evaluated, ?_⟩
  rw [order_eq_depthFirst distinct] at evaluated
  exact evaluated

end NativeRecords.Schema
