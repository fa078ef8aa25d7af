/-
# NativeRecords.Proofs.Search -- what the search for an emission order keeps true

The search is a loop over an explicit stack, so nothing about it can be read off a recursion. What
carries every result is one invariant, `Search.Consistent`: the visits under way form a chain in
which each one waits for the visit directly above it, and everything else that they have followed
has been emitted. The names emitted so far stand after all that they refer to.

The invariant gives both answers of the search. If it ends, the names come in an order that puts
references first, and a graph with such an order has no circle. If it stops at a name, the chain of
visits leads from that name back to itself.
-/
import Mathlib.Data.List.Nodup
import Mathlib.Logic.Relation
import NativeRecords.Proofs.Outcome
import NativeRecords.Schema.Order

namespace NativeRecords.Schema

open Relation (TransGen)

/-! ## Graphs and the orders that suit them -/

namespace Graph

variable {graph : Graph}

/-- A reference of the graph. -/
def Refers (graph : Graph) (source target : String) : Prop :=
  ∃ targets, graph.targets? source = some targets ∧ target ∈ targets

/-- Each name has one entry, and references stay inside the graph. -/
structure WellFormed (graph : Graph) : Prop where
  distinct : graph.names.Nodup
  closed : ∀ entry ∈ graph, ∀ target ∈ entry.2, target ∈ graph.names

theorem mem_of_targets? {name : String} {targets : List String}
    (h : graph.targets? name = some targets) : (name, targets) ∈ graph := by
  obtain ⟨before, after, rfl, _⟩ := List.lookup_eq_some_iff.mp h
  simp

theorem mem_names_of_targets? {name : String} {targets : List String}
    (h : graph.targets? name = some targets) : name ∈ graph.names :=
  List.mem_map.mpr ⟨(name, targets), mem_of_targets? h, rfl⟩

theorem targets?_ne_none {name : String} (h : name ∈ graph.names) : graph.targets? name ≠ none := by
  intro missing
  obtain ⟨entry, inside, rfl⟩ := List.mem_map.mp h
  have apart := List.lookup_eq_none_iff.mp missing entry inside
  simp at apart

/-- Where names are distinct, the look-up finds every entry. -/
theorem targets?_of_mem (distinct : graph.names.Nodup) {entry : String × List String}
    (inside : entry ∈ graph) : graph.targets? entry.1 = some entry.2 := by
  have member : entry.1 ∈ graph.names := List.mem_map.mpr ⟨entry, inside, rfl⟩
  obtain ⟨targets, found⟩ := Option.ne_none_iff_exists'.mp (targets?_ne_none member)
  have same : (entry.1, targets) = entry :=
    List.inj_on_of_nodup_map distinct (mem_of_targets? found) inside rfl
  rw [found, ← same]

theorem WellFormed.mem_names (wf : graph.WellFormed) {source target : String}
    (h : graph.Refers source target) : target ∈ graph.names := by
  obtain ⟨targets, found, inside⟩ := h
  exact wf.closed _ (mem_of_targets? found) target inside

/-- Every name of the list stands after all the names that it refers to. -/
def DependenciesFirst (graph : Graph) (names : List String) : Prop :=
  ∀ before name after, names = before ++ name :: after →
    ∀ target, graph.Refers name target → target ∈ before

theorem dependenciesFirst_nil : graph.DependenciesFirst [] := by
  intro before name after h
  simp at h

/-- A name may be added once all that it refers to is there. -/
theorem DependenciesFirst.concat {names : List String} {name : String}
    (first : graph.DependenciesFirst names)
    (complete : ∀ target, graph.Refers name target → target ∈ names) :
    graph.DependenciesFirst (names ++ [name]) := by
  intro before other after h target refers
  -- the split is at the new name, or it splits the old names
  rcases List.eq_nil_or_concat after with rfl | ⟨after, last, rfl⟩
  · obtain ⟨rfl, same⟩ := List.append_inj' h rfl
    cases same
    exact complete target refers
  · have h : names ++ [name] = (before ++ other :: after) ++ [last] := by simpa using h
    obtain ⟨rfl, _⟩ := List.append_inj' h rfl
    exact first before other after rfl target refers

/-- What a name leads to stands before it. -/
theorem DependenciesFirst.mem_before {names : List String} (first : graph.DependenciesFirst names)
    {source target : String} (leads : TransGen graph.Refers source target) {before after : List String}
    (h : names = before ++ source :: after) : target ∈ before := by
  induction leads with
  | single refers => exact first before source after h _ refers
  | tail _ refers ih =>
    obtain ⟨early, late, rfl⟩ := List.append_of_mem ih
    -- the middle name splits `before`, so what it refers to stands in the first part of it
    have inside := first early _ (late ++ source :: after) (by simpa using h) _ refers
    exact List.mem_append_left _ inside

/-- A graph whose names have such an order has no circle. -/
theorem DependenciesFirst.acyclic {names : List String} (first : graph.DependenciesFirst names)
    (distinct : names.Nodup) (all : graph.names ⊆ names) (name : String) :
    ¬ TransGen graph.Refers name name := by
  intro circle
  have known : name ∈ graph.names := by
    obtain ⟨_, ⟨_, found, _⟩, _⟩ := TransGen.head'_iff.mp circle
    exact mem_names_of_targets? found
  obtain ⟨before, after, rfl⟩ := List.append_of_mem (all known)
  have again := first.mem_before circle rfl
  rw [List.nodup_append] at distinct
  exact distinct.2.2 name again name List.mem_cons_self rfl

end Graph

/-! ## Visits that wait for each other -/

namespace Search

variable {graph : Graph} {done more : List String} {above : Option String}

/-- How far a visit has come. It has followed the first of its references and has the others still
before it; all that it followed is done but the reference to `above`, the visit it waits for. -/
def Waits (graph : Graph) (done : List String) (above : Option String)
    (visit : String × List String) : Prop :=
  ∃ followed, graph.targets? visit.1 = some (followed ++ visit.2) ∧
    (∀ target ∈ followed, target ∈ done ∨ above = some target) ∧
    ∀ target, above = some target → target ∈ followed

/-- Each visit of the stack waits for the one directly above it. -/
def WaitsInTurn (graph : Graph) (done : List String) :
    Option String → List (String × List String) → Prop
  | _, [] => True
  | above, visit :: outer =>
    Waits graph done above visit ∧ WaitsInTurn graph done (some visit.1) outer

theorem Waits.mono {visit : String × List String} (sub : done ⊆ more)
    (h : Waits graph done above visit) : Waits graph more above visit := by
  obtain ⟨followed, found, settled, waiting⟩ := h
  exact ⟨followed, found, fun target inside => (settled target inside).imp_left (@sub _), waiting⟩

theorem WaitsInTurn.mono {stack : List (String × List String)} (sub : done ⊆ more)
    (h : WaitsInTurn graph done above stack) : WaitsInTurn graph more above stack := by
  induction stack generalizing above with
  | nil => trivial
  | cons visit outer ih => exact ⟨h.1.mono sub, ih h.2⟩

/-- A visit starts with none of its references followed. -/
theorem waits_of_targets? {name : String} {targets : List String}
    (found : graph.targets? name = some targets) : Waits graph done none (name, targets) := by
  refine ⟨[], found, ?_, ?_⟩
  · intro target inside
    simp at inside
  · intro target waiting
    cases waiting

/-- The next reference of a visit is one that the graph has. -/
theorem Waits.refers_next {name target : String} {targets : List String}
    (h : Waits graph done above (name, target :: targets)) : graph.Refers name target := by
  obtain ⟨followed, found, _, _⟩ := h
  exact ⟨_, found, by simp⟩

/-- A visit waits for something that it refers to. -/
theorem Waits.refers_above {target : String} {visit : String × List String}
    (h : Waits graph done (some target) visit) : graph.Refers visit.1 target := by
  obtain ⟨followed, found, _, waiting⟩ := h
  exact ⟨_, found, List.mem_append_left _ (waiting target rfl)⟩

/-- A visit goes on behind a reference that is done. -/
theorem Waits.skip {name target : String} {targets : List String}
    (h : Waits graph done none (name, target :: targets)) (met : target ∈ done) :
    Waits graph done none (name, targets) := by
  obtain ⟨followed, found, settled, _⟩ := h
  refine ⟨followed ++ [target], by simpa using found, ?_, ?_⟩
  · intro other inside
    rcases List.mem_append.mp inside with inside | inside
    · exact settled other inside
    · rw [List.mem_singleton.mp inside]
      exact .inl met
  · intro other waiting
    cases waiting

/-- A visit waits for the reference that it follows next. -/
theorem Waits.descend {name target : String} {targets : List String}
    (h : Waits graph done none (name, target :: targets)) :
    Waits graph done (some target) (name, targets) := by
  obtain ⟨followed, found, settled, _⟩ := h
  refine ⟨followed ++ [target], by simpa using found, ?_, ?_⟩
  · intro other inside
    rcases List.mem_append.mp inside with inside | inside
    · rcases settled other inside with met | waiting
      · exact .inl met
      · cases waiting
    · rw [List.mem_singleton.mp inside]
      exact .inr rfl
  · intro other waiting
    cases waiting
    simp

/-- A visit waits for nothing once what it waited for is done. -/
theorem Waits.resume {target : String} {visit : String × List String}
    (h : Waits graph done (some target) visit) (met : target ∈ done) :
    Waits graph done none visit := by
  obtain ⟨followed, found, settled, _⟩ := h
  refine ⟨followed, found, ?_, ?_⟩
  · intro other inside
    rcases settled other inside with met | waiting
    · exact .inl met
    · cases waiting
      exact .inl met
  · intro other waiting
    cases waiting

/-- A visit without references before it has all of them done. -/
theorem Waits.complete {name : String} (h : Waits graph done none (name, [])) :
    ∀ target, graph.Refers name target → target ∈ done := by
  obtain ⟨followed, found, settled, _⟩ := h
  rintro target ⟨targets, found', inside⟩
  rw [found', Option.some.injEq, List.append_nil] at found
  rcases settled target (found ▸ inside) with met | waiting
  · exact met
  · cases waiting

/-- Every visit of the stack leads to the one that the stack waits for. -/
theorem WaitsInTurn.leads {target : String} {stack : List (String × List String)}
    (h : WaitsInTurn graph done (some target) stack) {name : String}
    (inside : name ∈ stack.map (·.1)) : TransGen graph.Refers name target := by
  induction stack generalizing target with
  | nil => simp at inside
  | cons visit outer ih =>
    have top : graph.Refers visit.1 target := h.1.refers_above
    rw [List.map_cons] at inside
    rcases List.mem_cons.mp inside with rfl | inside
    · exact .single top
    · -- the visits below lead to this one
      exact (ih h.2 inside).tail top

/-! ## One step -/

/-- What a step does while visits are under way: the innermost visit ends, goes on behind a
reference that is done, or follows one. A reference out of the graph is passed over. -/
inductive Move (graph : Graph) (search : Search) : Search → Prop
  | finish {name : String} {outer : List (String × List String)}
      (top : search.stack = (name, []) :: outer) : Move graph search (search.leave name outer)
  | skip {name target : String} {targets : List String} {outer : List (String × List String)}
      (top : search.stack = (name, target :: targets) :: outer) (met : target ∈ search.visited) :
      Move graph search { search with stack := (name, targets) :: outer }
  | follow {name target : String} {targets next : List String}
      {outer : List (String × List String)}
      (top : search.stack = (name, target :: targets) :: outer)
      (unmet : target ∉ search.visited) (unopened : target ∉ search.visiting)
      (found : graph.targets? target = some next) :
      Move graph search ({ search with stack := (name, targets) :: outer }.enter target next)
  | stray {name target : String} {targets : List String} {outer : List (String × List String)}
      (top : search.stack = (name, target :: targets) :: outer)
      (missing : graph.targets? target = none) :
      Move graph search { search with stack := (name, targets) :: outer }

variable {search next final : Search}

theorem move_of_step (busy : search.stack ≠ []) (h : search.step graph = .ok next) :
    Move graph search next := by
  unfold step at h
  split at h
  · contradiction
  · rename_i name outer top
    cases h
    exact .finish top
  · rename_i name target targets outer top
    simp only at h
    split at h
    · rename_i met
      cases h
      exact .skip top met
    · rename_i unmet
      split at h
      · cases h
      · rename_i unopened
        split at h
        · rename_i found
          cases h
          exact .follow top unmet unopened found
        · rename_i missing
          cases h
          exact .stray top missing

/-- A step that reports a name has met it as a reference of the innermost visit, while the visit of
the name itself is under way. -/
theorem top_of_step_error {name : String} (h : search.step graph = .error name) :
    ∃ top targets outer, search.stack = (top, name :: targets) :: outer ∧
      name ∈ search.visiting := by
  unfold step at h
  split at h
  · cases h
  · cases h
  · rename_i top target targets outer stack
    simp only at h
    split at h
    · cases h
    · split at h
      · rename_i opened
        cases h
        exact ⟨top, targets, outer, stack, opened⟩
      · split at h
        · cases h
        · cases h

/-! ## The invariant -/

/-- The search is consistent: its marks agree with its stack and with the names that it has
emitted, no name is met twice, the visits wait for each other in turn, and the emitted names stand
after all that they refer to. -/
structure Consistent (graph : Graph) (search : Search) : Prop where
  visiting_eq : search.visiting = search.stack.map (·.1)
  visited_eq : search.visited = search.ordered.reverse
  distinct : (search.stack.map (·.1) ++ search.ordered).Nodup
  waits : WaitsInTurn graph search.ordered none search.stack
  first : graph.DependenciesFirst search.ordered
  known : search.ordered ⊆ graph.names

/-- A search between two visits is consistent, and no visit is under way. -/
structure Settled (graph : Graph) (search : Search) : Prop extends Consistent graph search where
  idle : search.stack = []

/-- A name has been met when it has been emitted or its visit is under way. -/
def Met (search : Search) (name : String) : Prop :=
  name ∈ search.stack.map (·.1) ∨ name ∈ search.ordered

theorem settled_empty (graph : Graph) : Settled graph {} where
  visiting_eq := rfl
  visited_eq := rfl
  distinct := List.nodup_nil
  waits := trivial
  first := Graph.dependenciesFirst_nil
  known := List.nil_subset _
  idle := rfl

theorem Consistent.mem_visited (consistent : Consistent graph search) {name : String} :
    name ∈ search.visited ↔ name ∈ search.ordered := by
  rw [consistent.visited_eq, List.mem_reverse]

/-- The innermost visit ends: it had followed all its references, and its name is new. -/
theorem Consistent.finish (consistent : Consistent graph search) {name : String}
    {outer : List (String × List String)} (top : search.stack = (name, []) :: outer) :
    Consistent graph (search.leave name outer) := by
  have distinct := consistent.distinct
  have waits := consistent.waits
  rw [top] at distinct waits
  obtain ⟨innermost, others⟩ := waits
  have grown : search.ordered ⊆ search.ordered ++ [name] := List.subset_append_left _ _
  refine ⟨?_, ?_, ?_, ?_, ?_, ?_⟩
  · show search.visiting.erase name = outer.map (·.1)
    rw [consistent.visiting_eq, top, List.map_cons, List.erase_cons_head]
  · show name :: search.visited = (search.ordered ++ [name]).reverse
    rw [consistent.visited_eq, List.reverse_append, List.reverse_singleton, List.singleton_append]
  · show (outer.map (·.1) ++ (search.ordered ++ [name])).Nodup
    rw [← List.append_assoc]
    exact (List.perm_append_singleton name _).nodup_iff.mpr distinct
  · show WaitsInTurn graph (search.ordered ++ [name]) none outer
    -- only the visit below waited for `name`, which is emitted now
    cases outer with
    | nil => trivial
    | cons visit outer =>
      exact ⟨(others.1.mono grown).resume (by simp), others.2.mono grown⟩
  · exact consistent.first.concat innermost.complete
  · show search.ordered ++ [name] ⊆ graph.names
    obtain ⟨_, found, _⟩ := innermost
    intro other inside
    rcases List.mem_append.mp inside with inside | inside
    · exact consistent.known inside
    · rw [List.mem_singleton.mp inside]
      exact Graph.mem_names_of_targets? found

/-- The innermost visit goes on behind a reference that is done. -/
theorem Consistent.skip (consistent : Consistent graph search) {name target : String}
    {targets : List String} {outer : List (String × List String)}
    (top : search.stack = (name, target :: targets) :: outer) (met : target ∈ search.visited) :
    Consistent graph { search with stack := (name, targets) :: outer } := by
  have distinct := consistent.distinct
  have waits := consistent.waits
  rw [top] at distinct waits
  refine ⟨?_, consistent.visited_eq, distinct, ?_, consistent.first, consistent.known⟩
  · show search.visiting = name :: outer.map (·.1)
    rw [consistent.visiting_eq, top, List.map_cons]
  · exact ⟨waits.1.skip (consistent.mem_visited.mp met), waits.2⟩

/-- The innermost visit follows a reference: a new visit starts above it. -/
theorem Consistent.follow (consistent : Consistent graph search) {name target : String}
    {targets next : List String} {outer : List (String × List String)}
    (top : search.stack = (name, target :: targets) :: outer) (unmet : target ∉ search.visited)
    (unopened : target ∉ search.visiting) (found : graph.targets? target = some next) :
    Consistent graph ({ search with stack := (name, targets) :: outer }.enter target next) := by
  have distinct := consistent.distinct
  have waits := consistent.waits
  rw [top] at distinct waits
  refine ⟨?_, consistent.visited_eq, ?_, ?_, consistent.first, consistent.known⟩
  · show target :: search.visiting = target :: name :: outer.map (·.1)
    rw [consistent.visiting_eq, top, List.map_cons]
  · show (target :: ((name :: outer.map (·.1)) ++ search.ordered)).Nodup
    refine List.nodup_cons.mpr ⟨?_, distinct⟩
    intro inside
    -- the marks tell that the new name is neither on the stack nor emitted
    rcases List.mem_append.mp inside with inside | inside
    · rw [consistent.visiting_eq, top] at unopened
      exact unopened inside
    · exact unmet (consistent.mem_visited.mpr inside)
  · exact ⟨waits_of_targets? found, waits.1.descend, waits.2⟩

/-- In a graph whose references stay inside it, every move keeps the search consistent. -/
theorem Consistent.move (wf : graph.WellFormed) (consistent : Consistent graph search)
    (move : Move graph search next) : Consistent graph next := by
  cases move with
  | finish top => exact consistent.finish top
  | skip top met => exact consistent.skip top met
  | follow top unmet unopened found => exact consistent.follow top unmet unopened found
  | stray top missing =>
    -- a closed graph has an entry for every reference
    have waits := consistent.waits
    rw [top] at waits
    exact absurd missing (Graph.targets?_ne_none (wf.mem_names waits.1.refers_next))

/-- No move forgets a name. -/
theorem Move.met (move : Move graph search next) {name : String} (h : search.Met name) :
    next.Met name := by
  cases move with
  | finish top =>
    unfold Met at h ⊢
    rw [top, List.map_cons, List.mem_cons] at h
    rcases h with (rfl | inside) | inside
    · exact .inr (List.mem_append_right _ (List.mem_singleton.mpr rfl))
    · exact .inl inside
    · exact .inr (List.mem_append_left _ inside)
  | skip top _ =>
    unfold Met at h ⊢
    rw [top] at h
    exact h
  | follow top _ _ _ =>
    unfold Met at h ⊢
    rw [top] at h
    exact h.imp_left (List.mem_cons_of_mem _)
  | stray top _ =>
    unfold Met at h ⊢
    rw [top] at h
    exact h

/-- The name that a step reports leads back to itself. -/
theorem Consistent.circle (consistent : Consistent graph search) {name : String}
    (h : search.step graph = .error name) : TransGen graph.Refers name name := by
  obtain ⟨top, targets, outer, stack, opened⟩ := top_of_step_error h
  have waits := consistent.waits
  rw [stack] at waits
  have last : graph.Refers top name := waits.1.refers_next
  rw [consistent.visiting_eq, stack, List.map_cons] at opened
  -- the visit of `name` is the innermost one, or one further down that leads to it
  rcases List.mem_cons.mp opened with rfl | below
  · exact .single last
  · exact (waits.2.leads below).tail last

/-! ## Runs -/

/-- A run stops where a step reports a name. -/
theorem run_of_step_error {name : String} (busy : search.stack ≠ [])
    (stopped : search.step graph = .error name) : search.run graph = .error name := by
  rw [run, dif_neg busy]
  split <;> rename_i outcome <;> rw [stopped] at outcome <;> cases outcome
  rfl

/-- A run goes on from where a step leads. -/
theorem run_of_step_ok (busy : search.stack ≠ []) (progress : search.step graph = .ok next) :
    search.run graph = next.run graph := by
  rw [run, dif_neg busy]
  split <;> rename_i outcome <;> rw [progress] at outcome <;> cases outcome
  rfl

/-- What every step keeps, a run keeps to its end, where no visit is under way. -/
theorem run_induction {motive : Search → Prop}
    (keep : ∀ search next, search.stack ≠ [] → motive search → search.step graph = .ok next →
      motive next)
    (start : motive search) (h : search.run graph = .ok final) :
    motive final ∧ final.stack = [] := by
  induction search using Search.run.induct graph with
  | case1 search idle =>
    rw [run, dif_pos idle] at h
    cases h
    exact ⟨start, idle⟩
  | case2 search busy name stopped =>
    rw [run_of_step_error busy stopped] at h
    cases h
  | case3 search busy next progress ih =>
    rw [run_of_step_ok busy progress] at h
    exact ih (keep search next busy start progress) h

/-- A run that reports a name has come to a step that does. -/
theorem run_error {motive : Search → Prop} {name : String}
    (keep : ∀ search next, search.stack ≠ [] → motive search → search.step graph = .ok next →
      motive next)
    (start : motive search) (h : search.run graph = .error name) :
    ∃ last, motive last ∧ last.step graph = .error name := by
  induction search using Search.run.induct graph with
  | case1 search idle =>
    rw [run, dif_pos idle] at h
    cases h
  | case2 search busy other stopped =>
    rw [run_of_step_error busy stopped] at h
    cases h
    exact ⟨search, start, stopped⟩
  | case3 search busy next progress ih =>
    rw [run_of_step_ok busy progress] at h
    exact ih (keep search next busy start progress) h

/-- A run that ends leaves a settled search that has emitted every name met before. -/
theorem Consistent.run_ok (wf : graph.WellFormed) (consistent : Consistent graph search)
    (h : search.run graph = .ok final) :
    Settled graph final ∧ ∀ name, search.Met name → name ∈ final.ordered := by
  have keep : ∀ s t : Search, s.stack ≠ [] →
      (Consistent graph s ∧ ∀ name, search.Met name → s.Met name) → s.step graph = .ok t →
      Consistent graph t ∧ ∀ name, search.Met name → t.Met name := by
    rintro s t busy ⟨consistent, met⟩ progress
    have move := move_of_step busy progress
    exact ⟨consistent.move wf move, fun name inside => move.met (met name inside)⟩
  obtain ⟨⟨consistent, met⟩, idle⟩ := run_induction keep ⟨consistent, fun _ inside => inside⟩ h
  refine ⟨⟨consistent, idle⟩, ?_⟩
  intro name inside
  -- at the end the stack is empty, so what has been met has been emitted
  rcases met name inside with underWay | emitted
  · rw [idle] at underWay
    cases underWay
  · exact emitted

/-- A run that stops reports a name on a circle. -/
theorem Consistent.run_error (wf : graph.WellFormed) (consistent : Consistent graph search)
    {name : String} (h : search.run graph = .error name) : TransGen graph.Refers name name := by
  obtain ⟨last, consistent, stopped⟩ := Search.run_error
    (fun _ _ busy consistent progress => Consistent.move wf consistent (move_of_step busy progress))
    consistent h
  exact consistent.circle stopped

/-! ## All visits -/

/-- A settled search may start a visit of any name that it has not emitted. -/
theorem Settled.enter (wf : graph.WellFormed) (settled : Settled graph search)
    {entry : String × List String} (inside : entry ∈ graph) (unmet : entry.1 ∉ search.visited) :
    Consistent graph (search.enter entry.1 entry.2) := by
  have idle := settled.idle
  refine ⟨?_, settled.visited_eq, ?_, ?_, settled.first, settled.known⟩
  · show entry.1 :: search.visiting = entry.1 :: search.stack.map (·.1)
    rw [settled.visiting_eq]
  · show (entry.1 :: (search.stack.map (·.1) ++ search.ordered)).Nodup
    refine List.nodup_cons.mpr ⟨?_, settled.distinct⟩
    rw [idle, List.map_nil, List.nil_append, ← settled.mem_visited]
    exact unmet
  · show WaitsInTurn graph search.ordered none (entry :: search.stack)
    rw [idle]
    exact ⟨waits_of_targets? (Graph.targets?_of_mem wf.distinct inside), trivial⟩

/-- A visit that ends has emitted its name and keeps what was emitted before. -/
theorem Settled.visit_ok (wf : graph.WellFormed) (settled : Settled graph search)
    {entry : String × List String} (inside : entry ∈ graph)
    (h : search.visit graph entry = .ok next) :
    Settled graph next ∧ entry.1 ∈ next.ordered ∧ search.ordered ⊆ next.ordered := by
  unfold visit at h
  split at h
  · rename_i met
    cases h
    exact ⟨settled, settled.mem_visited.mp met, List.Subset.refl _⟩
  · rename_i unmet
    obtain ⟨settled', emitted⟩ := (settled.enter wf inside unmet).run_ok wf h
    refine ⟨settled', emitted _ (.inl ?_), fun name old => emitted _ (.inr old)⟩
    exact List.mem_map.mpr ⟨entry, List.mem_cons_self, rfl⟩

/-- A visit that stops reports a name on a circle. -/
theorem Settled.visit_error (wf : graph.WellFormed) (settled : Settled graph search)
    {entry : String × List String} (inside : entry ∈ graph) {name : String}
    (h : search.visit graph entry = .error name) : TransGen graph.Refers name name := by
  unfold visit at h
  split at h
  · cases h
  · rename_i unmet
    exact (settled.enter wf inside unmet).run_error wf h

/-- Visits in turn that all end have emitted all their names. -/
theorem Settled.visits_ok (wf : graph.WellFormed) {entries : List (String × List String)}
    (sub : entries ⊆ graph) (settled : Settled graph search)
    (h : entries.foldlM (visit graph) search = .ok final) :
    Settled graph final ∧ (∀ entry ∈ entries, entry.1 ∈ final.ordered) ∧
      search.ordered ⊆ final.ordered := by
  induction entries generalizing search with
  | nil =>
    cases h
    exact ⟨settled, fun _ inside => absurd inside List.not_mem_nil, List.Subset.refl _⟩
  | cons entry entries ih =>
    rw [List.foldlM_cons] at h
    obtain ⟨next, visited, h⟩ := bind_eq_ok_iff.mp h
    obtain ⟨settled', emitted, kept⟩ := settled.visit_ok wf (sub List.mem_cons_self) visited
    obtain ⟨settledFinal, others, keptFinal⟩ :=
      ih (fun _ inside => sub (List.mem_cons_of_mem _ inside)) settled' h
    refine ⟨settledFinal, ?_, List.Subset.trans kept keptFinal⟩
    intro other inside
    rcases List.mem_cons.mp inside with rfl | inside
    · exact keptFinal emitted
    · exact others other inside

/-- Visits in turn stop only at a name on a circle. -/
theorem Settled.visits_error (wf : graph.WellFormed) {entries : List (String × List String)}
    (sub : entries ⊆ graph) (settled : Settled graph search) {name : String}
    (h : entries.foldlM (visit graph) search = .error name) : TransGen graph.Refers name name := by
  induction entries generalizing search with
  | nil => cases h
  | cons entry entries ih =>
    have known : entry ∈ graph := sub List.mem_cons_self
    rw [List.foldlM_cons] at h
    cases visited : search.visit graph entry with
    | error other =>
      rw [visited] at h
      cases h
      exact settled.visit_error wf known visited
    | ok next =>
      rw [visited] at h
      obtain ⟨settled', _, _⟩ := settled.visit_ok wf known visited
      exact ih (fun _ inside => sub (List.mem_cons_of_mem _ inside)) settled' h

end Search

/-! ## The emission order -/

namespace Graph

variable {graph : Graph}

/-- The emission order has each name of the graph once, after all that it refers to. -/
theorem emissionOrder_ok (wf : graph.WellFormed) {names : List String}
    (h : graph.emissionOrder = .ok names) :
    names.Perm graph.names ∧ graph.DependenciesFirst names := by
  obtain ⟨final, visits, rfl⟩ := map_eq_ok_iff.mp h
  obtain ⟨settled, emitted, _⟩ :=
    (Search.settled_empty graph).visits_ok wf (List.Subset.refl _) visits
  have distinct : final.ordered.Nodup := by
    have distinct := settled.distinct
    rwa [settled.idle, List.map_nil, List.nil_append] at distinct
  refine ⟨?_, settled.first⟩
  -- neither list repeats a name, so it is enough that they have the same names
  refine (List.perm_ext_iff_of_nodup distinct wf.distinct).mpr fun name => ⟨?_, ?_⟩
  · intro inside
    exact settled.known inside
  · intro inside
    obtain ⟨entry, member, rfl⟩ := List.mem_map.mp inside
    exact emitted entry member

/-- There is no emission order only where a name leads back to itself, and such a name is reported.
-/
theorem emissionOrder_error (wf : graph.WellFormed) {name : String}
    (h : graph.emissionOrder = .error name) : TransGen graph.Refers name name := by
  unfold emissionOrder at h
  cases visits : graph.foldlM (Search.visit graph) {} with
  | ok final =>
    rw [visits] at h
    cases h
  | error other =>
    rw [visits] at h
    cases h
    exact (Search.settled_empty graph).visits_error wf (List.Subset.refl _) visits

/-- A graph with an emission order has no circle. -/
theorem acyclic_of_emissionOrder (wf : graph.WellFormed) {names : List String}
    (h : graph.emissionOrder = .ok names) (name : String) : ¬ TransGen graph.Refers name name := by
  obtain ⟨perm, first⟩ := emissionOrder_ok wf h
  exact first.acyclic (perm.nodup_iff.mpr wf.distinct) perm.symm.subset name

end Graph
end NativeRecords.Schema
