/-
# NativeRecords.Proofs.Rounds -- every round of the search for an emission order

Ordering is two loops. The outer one goes through the declarations in the order given and opens the
visit of each that has not been visited. The inner one goes round until no visit is under way, and
in each round the innermost visit takes the next of its references or ends. A `Stage` is what there
is to see between two rounds, together with two things that the loops do not keep: which visits have
been opened, and how many rounds there have been.

The invariant is that of the search, and a balance: each round uses up one reference or ends one
visit, so the rounds done and those that the open visits can still make are what all visits opened
so far have to spend. Since no name is opened twice, that is at most one round for each declaration
and one for each reference.
-/
import Mathlib.Algebra.Order.BigOperators.Group.List
import Mathlib.Algebra.Order.Ring.Nat
import NativeRecords.Proofs.Order

namespace NativeRecords.Schema

open Relation (ReflTransGen)

namespace Search

/-! ## Stages -/

/-- How far the two loops have come. -/
structure Stage where
  /-- The entries that the outer loop has not come to. -/
  rest : Graph
  search : Search
  /-- The names whose visits have been opened, in this order. -/
  opened : List String
  /-- How often the inner loop has gone round. -/
  rounds : Nat

/-- The stage before the first declaration is looked at. -/
def Stage.start (graph : Graph) : Stage := ⟨graph, {}, [], 0⟩

/-- The names that stand on a stack above those that stood there before. -/
def openedBy (search next : Search) : List String :=
  (next.stack.map (·.1)).take (next.stack.length - search.stack.length)

/-- The loops go on: the outer one passes over a name that has been visited or opens a visit, the
inner one goes round once. -/
inductive Advances (graph : Graph) : Stage → Stage → Prop
  | pass {entry : String × List String} {rest : Graph} {search : Search} {opened : List String}
      {rounds : Nat} (idle : search.stack = []) (met : entry.1 ∈ search.visited) :
      Advances graph ⟨entry :: rest, search, opened, rounds⟩ ⟨rest, search, opened, rounds⟩
  | enter {entry : String × List String} {rest : Graph} {search : Search} {opened : List String}
      {rounds : Nat} (idle : search.stack = []) (unmet : entry.1 ∉ search.visited) :
      Advances graph ⟨entry :: rest, search, opened, rounds⟩
        ⟨rest, search.enter entry.1 entry.2, opened ++ [entry.1], rounds⟩
  | round {rest : Graph} {search next : Search} {opened : List String} {rounds : Nat}
      (busy : search.stack ≠ []) (progress : search.step graph = .ok next) :
      Advances graph ⟨rest, search, opened, rounds⟩
        ⟨rest, next, opened ++ openedBy search next, rounds + 1⟩

/-- The loops come to this stage. -/
def Reaches (graph : Graph) (stage : Stage) : Prop :=
  ReflTransGen (Advances graph) (.start graph) stage

/-- Nothing is left to do at this stage, or a round reports a name. -/
def Stage.Ends (graph : Graph) (stage : Stage) : Prop :=
  stage.rest = [] ∧ stage.search.stack = [] ∨
    ∃ name, stage.search.stack ≠ [] ∧ stage.search.step graph = .error name

variable {graph : Graph} {stage next : Stage}

/-- The loops go on until they end. -/
theorem ends_or_advances (graph : Graph) (stage : Stage) :
    stage.Ends graph ∨ ∃ next, Advances graph stage next := by
  obtain ⟨rest, search, opened, rounds⟩ := stage
  by_cases idle : search.stack = []
  · cases rest with
    | nil => exact .inl (.inl ⟨rfl, idle⟩)
    | cons entry rest =>
      by_cases met : entry.1 ∈ search.visited
      · exact .inr ⟨_, .pass idle met⟩
      · exact .inr ⟨_, .enter idle met⟩
  · cases progress : search.step graph with
    | error name => exact .inl (.inr ⟨name, idle, progress⟩)
    | ok next => exact .inr ⟨_, .round idle progress⟩

/-! ## What is left to do -/

/-- What comes of the loops from a stage on. -/
def Stage.outcome (graph : Graph) (stage : Stage) : Except String (List String) :=
  (stage.search.run graph >>= fun search => stage.rest.foldlM (visit graph) search).map ordered

theorem run_of_idle {search : Search} (idle : search.stack = []) :
    search.run graph = .ok search := by
  rw [run, dif_pos idle]

theorem outcome_start (graph : Graph) :
    (Stage.start graph).outcome graph = graph.emissionOrder := by
  rw [Stage.outcome, Stage.start, run_of_idle rfl]
  rfl

/-- No advance changes what comes of the loops. -/
theorem Advances.outcome_eq (advance : Advances graph stage next) :
    stage.outcome graph = next.outcome graph := by
  cases advance with
  | @pass entry rest search opened rounds idle met =>
    have visited : search.visit graph entry = .ok search := by rw [visit, if_pos met]
    simp only [Stage.outcome, run_of_idle idle, List.foldlM_cons]
    show Except.map ordered (search.visit graph entry >>= _) = _
    rw [visited]
  | @enter entry rest search opened rounds idle unmet =>
    have visited : search.visit graph entry = (search.enter entry.1 entry.2).run graph := by
      rw [visit, if_neg unmet]
    simp only [Stage.outcome, run_of_idle idle, List.foldlM_cons]
    show Except.map ordered (search.visit graph entry >>= _) = _
    rw [visited]
  | @round rest search after opened rounds busy progress =>
    simp only [Stage.outcome, run_of_step_ok busy progress]

theorem Reaches.outcome_eq (reached : Reaches graph stage) :
    stage.outcome graph = graph.emissionOrder := by
  rw [← outcome_start]
  induction reached with
  | refl => rfl
  | tail _ advance ih => rw [← ih, advance.outcome_eq]

/-! ## The invariant -/

/-- The rounds that the visit of a name takes: one for each reference, and one to end. -/
def cost (graph : Graph) (name : String) : Nat := ((graph.targets? name).getD []).length + 1

/-- The search is consistent, the visits opened are those under way and those that have ended, and
what these visits cost is what has been spent on them and what is still to be spent. -/
structure Stage.Invariant (graph : Graph) (stage : Stage) : Prop where
  consistent : Consistent graph stage.search
  rest_subset : stage.rest ⊆ graph
  opened_perm : stage.opened.Perm (stage.search.stack.map (·.1) ++ stage.search.ordered)
  balance : stage.rounds + stage.search.pending = (stage.opened.map (cost graph)).sum

theorem cost_of_targets? {name : String} {targets : List String}
    (found : graph.targets? name = some targets) : cost graph name = targets.length + 1 := by
  rw [cost, found, Option.getD_some]

theorem invariant_start (graph : Graph) : (Stage.start graph).Invariant graph where
  consistent := (settled_empty graph).toConsistent
  rest_subset := List.Subset.refl graph
  opened_perm := .nil
  balance := rfl

/-- Opening a visit sets aside what it costs. -/
theorem Stage.Invariant.enter (wf : graph.WellFormed) {entry : String × List String} {rest : Graph}
    {search : Search} {opened : List String} {rounds : Nat}
    (invariant : Stage.Invariant graph ⟨entry :: rest, search, opened, rounds⟩)
    (idle : search.stack = []) (unmet : entry.1 ∉ search.visited) :
    Stage.Invariant graph ⟨rest, search.enter entry.1 entry.2, opened ++ [entry.1], rounds⟩ := by
  obtain ⟨consistent, sub, perm, balance⟩ := invariant
  have inside : entry ∈ graph := sub List.mem_cons_self
  have found := Graph.targets?_of_mem wf.distinct inside
  refine ⟨Settled.enter wf ⟨consistent, idle⟩ inside unmet, ?_, ?_, ?_⟩
  · exact fun other member => sub (List.mem_cons_of_mem entry member)
  · exact (List.perm_append_singleton entry.1 opened).trans (perm.cons entry.1)
  · simp only [pending, Search.enter, List.foldr_cons, List.map_append, List.map_singleton,
      List.sum_append, List.sum_singleton, cost_of_targets? found] at balance ⊢
    omega

theorem openedBy_of_le {search after : Search}
    (noHigher : after.stack.length ≤ search.stack.length) : openedBy search after = [] := by
  rw [openedBy, Nat.sub_eq_zero_of_le noHigher, List.take_zero]

/-- What a move does to the visits and to what is still to be spent on them. It keeps all visits and
may open one, and it spends one round besides what the new visit is going to cost. -/
def Accounted (graph : Graph) (search after : Search) : Prop :=
  (after.stack.map (·.1) ++ after.ordered).Perm
      (openedBy search after ++ (search.stack.map (·.1) ++ search.ordered)) ∧
    after.pending + 1 = search.pending + ((openedBy search after).map (cost graph)).sum

/-- A reference that opens no visit is used up. -/
theorem accounted_drop {search : Search} {name target : String} {targets : List String}
    {outer : List (String × List String)}
    (top : search.stack = (name, target :: targets) :: outer) :
    Accounted graph search { search with stack := (name, targets) :: outer } := by
  rw [Accounted, openedBy_of_le (by simp [top]), top]
  refine ⟨.refl _, ?_⟩
  simp only [pending, top, List.foldr_cons, List.length_cons, List.map_nil, List.sum_nil]
  omega

theorem Move.accounted {search after : Search} (move : Move graph search after) :
    Accounted graph search after := by
  cases move with
  | @finish name outer top =>
    rw [Accounted, openedBy_of_le (by simp [leave, top]), top]
    constructor
    · show (outer.map (·.1) ++ (search.ordered ++ [name])).Perm _
      rw [← List.append_assoc]
      exact List.perm_append_singleton name _
    · simp [pending, leave, top, Nat.add_comm]
  | skip top met => exact accounted_drop top
  | @follow name target targets next outer top unmet unopened found =>
    have one : openedBy search
        ({ search with stack := (name, targets) :: outer }.enter target next) = [target] := by
      simp [openedBy, Search.enter, top]
    rw [Accounted, one, top]
    refine ⟨.refl _, ?_⟩
    simp [pending, Search.enter, top, cost_of_targets? found]
    omega
  | stray top missing => exact accounted_drop top

/-- A round spends one. -/
theorem Stage.Invariant.round (wf : graph.WellFormed) {rest : Graph} {search after : Search}
    {opened : List String} {rounds : Nat}
    (invariant : Stage.Invariant graph ⟨rest, search, opened, rounds⟩) (busy : search.stack ≠ [])
    (progress : search.step graph = .ok after) :
    Stage.Invariant graph ⟨rest, after, opened ++ openedBy search after, rounds + 1⟩ := by
  obtain ⟨consistent, sub, perm, balance⟩ := invariant
  have move := move_of_step busy progress
  obtain ⟨kept, spent⟩ := move.accounted
  refine ⟨consistent.move wf move, sub, ?_, ?_⟩
  · exact List.perm_append_comm.trans ((perm.append_left _).trans kept.symm)
  · simp only [List.map_append, List.sum_append] at balance ⊢
    omega

/-- Every advance keeps the invariant. -/
theorem Stage.Invariant.advance (wf : graph.WellFormed) (invariant : stage.Invariant graph)
    (advance : Advances graph stage next) : next.Invariant graph := by
  cases advance with
  | @pass entry rest search opened rounds idle met =>
    obtain ⟨consistent, sub, perm, balance⟩ := invariant
    exact ⟨consistent, fun other member => sub (List.mem_cons_of_mem entry member), perm, balance⟩
  | enter idle unmet => exact invariant.enter wf idle unmet
  | round busy progress => exact invariant.round wf busy progress

/-- At every stage that the loops come to the invariant holds. -/
theorem Reaches.invariant (wf : graph.WellFormed) (reached : Reaches graph stage) :
    stage.Invariant graph := by
  induction reached with
  | refl => exact invariant_start graph
  | tail _ advance ih => exact ih.advance wf advance

/-! ## The number of rounds -/

/-- What the visits of all names cost together. -/
theorem sum_cost_names (wf : graph.WellFormed) :
    (graph.names.map (cost graph)).sum = graph.length + (graph.map (·.2.length)).sum := by
  have each : graph.names.map (cost graph) = graph.map fun entry => entry.2.length + 1 := by
    rw [Graph.names, List.map_map]
    refine List.map_congr_left fun entry inside => ?_
    exact cost_of_targets? (Graph.targets?_of_mem wf.distinct inside)
  rw [each, List.sum_map_add]
  simp [Nat.add_comm]

theorem Stage.Invariant.nodup_opened (invariant : stage.Invariant graph) : stage.opened.Nodup :=
  invariant.opened_perm.nodup_iff.mpr invariant.consistent.distinct

/-- Every visit of the stack waits for the one directly above it, and the innermost for nothing. -/
theorem WaitsInTurn.waits {done : List String} {above : Option String}
    {inner outer : List (String × List String)} {visit : String × List String}
    (h : WaitsInTurn graph done above (inner ++ visit :: outer)) :
    Waits graph done ((inner.getLast?.map (·.1)).or above) visit := by
  induction inner generalizing above with
  | nil => exact h.1
  | cons first inner ih =>
    have below := ih h.2
    rw [List.getLast?_cons]
    cases last : inner.getLast? with
    | none => simpa [last] using below
    | some other => simpa [last] using below

theorem Stage.Invariant.opened_subset (invariant : stage.Invariant graph) :
    stage.opened ⊆ graph.names := by
  intro name inside
  rcases List.mem_append.mp (invariant.opened_perm.subset inside) with underWay | emitted
  · obtain ⟨visit, member, rfl⟩ := List.mem_map.mp underWay
    obtain ⟨inner, outer, split⟩ := List.append_of_mem member
    have waits := invariant.consistent.waits
    rw [split] at waits
    obtain ⟨_, found, _⟩ := waits.waits
    exact Graph.mem_names_of_targets? found
  · exact invariant.consistent.known emitted

/-- No name is opened twice, so there is at most one round for each name and for each reference. -/
theorem Stage.Invariant.rounds_le (wf : graph.WellFormed) (invariant : stage.Invariant graph) :
    stage.rounds ≤ graph.length + (graph.map (·.2.length)).sum := by
  obtain ⟨sub, perm, sublist⟩ :=
    List.subperm_of_subset invariant.nodup_opened invariant.opened_subset
  calc stage.rounds
      _ ≤ stage.rounds + stage.search.pending := Nat.le_add_right _ _
      _ = (stage.opened.map (cost graph)).sum := invariant.balance
      _ = (sub.map (cost graph)).sum := (perm.map (cost graph)).sum_eq.symm
      _ ≤ (graph.names.map (cost graph)).sum :=
        (sublist.map (cost graph)).sum_le_sum fun _ _ => Nat.zero_le _
      _ = graph.length + (graph.map (·.2.length)).sum := sum_cost_names wf

/-! ## The loops end -/

/-- As long as there is a bound on the rounds, an advance leaves less to do below it. -/
theorem Advances.less_to_do (advance : Advances graph stage next) {bound : Nat}
    (bounded : next.rounds ≤ bound) :
    bound - next.rounds + next.rest.length < bound - stage.rounds + stage.rest.length := by
  cases advance with
  | pass idle met => simp
  | enter idle unmet => simp
  | round busy progress =>
    simp only at bounded ⊢
    omega

/-- From every stage that the loops come to they come to an end. -/
theorem Reaches.exists_end (wf : graph.WellFormed) {stage : Stage} (reached : Reaches graph stage) :
    ∃ last, Reaches graph last ∧ last.Ends graph := by
  rcases ends_or_advances graph stage with ended | ⟨next, advance⟩
  · exact ⟨stage, reached, ended⟩
  · exact exists_end wf (reached.tail advance)
termination_by graph.length + (graph.map (·.2.length)).sum - stage.rounds + stage.rest.length
decreasing_by
  have further : Reaches graph next := reached.tail advance
  exact advance.less_to_do ((further.invariant wf).rounds_le wf)

/-- The stage at which the loops end tells what has come of them. -/
theorem Reaches.emissionOrder_of_ends (reached : Reaches graph stage) (ended : stage.Ends graph) :
    graph.emissionOrder = .ok stage.search.ordered ∧ stage.rest = [] ∧ stage.search.stack = [] ∨
      ∃ name, stage.search.step graph = .error name ∧ graph.emissionOrder = .error name := by
  rw [← reached.outcome_eq, Stage.outcome]
  rcases ended with ⟨done, idle⟩ | ⟨name, busy, stopped⟩
  · refine .inl ⟨?_, done, idle⟩
    rw [run_of_idle idle, done]
    rfl
  · refine .inr ⟨name, stopped, ?_⟩
    rw [run_of_step_error busy stopped]
    rfl

/-! ## What holds between two rounds -/

/-- Each visit of the stack is one that the visit below it refers to. -/
theorem WaitsInTurn.isChain {done : List String} {above : Option String}
    {stack : List (String × List String)} (h : WaitsInTurn graph done above stack) :
    stack.IsChain fun inner outer => graph.Refers outer.1 inner.1 := by
  induction stack generalizing above with
  | nil => exact .nil
  | cons visit outer ih =>
    cases outer with
    | nil => exact .singleton visit
    | cons below outer => exact .cons_cons h.2.1.refers_above (ih h.2)

/-- What holds at a stage of ordering the declarations. -/
structure Stage.Sound (declarations : List Declaration) (graph : Graph) (stage : Stage) : Prop where
  /-- The visits under way are of distinct names, and they are what is marked as such. -/
  stack_nodup : (stage.search.stack.map (·.1)).Nodup
  visiting_iff : ∀ name, name ∈ stage.search.visiting ↔ name ∈ stage.search.stack.map (·.1)
  /-- The names marked as visited are those in the order so far, and none of them is under way. -/
  visited_iff : ∀ name, name ∈ stage.search.visited ↔ name ∈ stage.search.ordered
  disjoint : ∀ name ∈ stage.search.visited, name ∉ stage.search.visiting
  /-- Each visit is of a dependency of the one below it. -/
  chained : stage.search.stack.IsChain fun inner outer => DependsOn declarations outer.1 inner.1
  /-- What a visit has followed is visited, but for the visit directly above it. -/
  followed : ∀ above visit below, stage.search.stack = above ++ visit :: below →
    ∃ followed, graph.targets? visit.1 = some (followed ++ visit.2) ∧
      (∀ target ∈ followed,
        target ∈ stage.search.visited ∨ above.getLast?.map (·.1) = some target) ∧
      ∀ target, above.getLast?.map (·.1) = some target → target ∈ followed
  /-- A visit that ends is marked as under way, and its name is declared. -/
  removable : ∀ name below, stage.search.stack = (name, []) :: below →
    name ∈ stage.search.visiting ∧
      ∃ declaration, declarations.find? (·.name = name) = some declaration
  /-- What is looked up in the graph is there. -/
  targets_found : ∀ visit ∈ stage.search.stack, ∀ target ∈ visit.2,
    ∃ targets, graph.targets? target = some targets
  rest_found : ∀ entry ∈ stage.rest, graph.targets? entry.1 = some entry.2
  /-- A visit is opened of no name twice, and only of declared names. -/
  opened_nodup : stage.opened.Nodup
  opened_iff : ∀ name, name ∈ stage.opened ↔
    name ∈ stage.search.stack.map (·.1) ∨ name ∈ stage.search.ordered
  opened_declared : stage.opened ⊆ declarations.map Declaration.name
  /-- There are no more rounds than names and references. -/
  rounds_le : stage.rounds ≤ graph.length + (graph.map (·.2.length)).sum

variable {declarations : List Declaration}

theorem Reaches.sound (distinct : (declarations.map Declaration.name).Nodup)
    (built : dependencyGraph declarations = .ok graph) (reached : Reaches graph stage) :
    stage.Sound declarations graph := by
  have wf := wellFormed_dependencyGraph distinct built
  have invariant := reached.invariant wf
  have consistent := invariant.consistent
  have apart := consistent.distinct
  have declared : stage.opened ⊆ declarations.map Declaration.name := by
    rw [← names_dependencyGraph built]
    exact invariant.opened_subset
  have opened : ∀ name, name ∈ stage.opened ↔
      name ∈ stage.search.stack.map (·.1) ∨ name ∈ stage.search.ordered := by
    intro name
    rw [invariant.opened_perm.mem_iff, List.mem_append]
  constructor
  case stack_nodup => exact (List.nodup_append.mp apart).1
  case visiting_iff =>
    intro name
    rw [consistent.visiting_eq]
  case visited_iff => exact fun name => consistent.mem_visited
  case disjoint =>
    intro name visited visiting
    rw [consistent.visiting_eq] at visiting
    exact List.disjoint_of_nodup_append apart visiting (consistent.mem_visited.mp visited)
  case chained =>
    rw [← refers_dependencyGraph distinct built]
    exact consistent.waits.isChain
  case followed =>
    intro above visit below split
    have waits := consistent.waits
    rw [split] at waits
    obtain ⟨followed, found, settled, waiting⟩ := waits.waits
    rw [Option.or_none] at settled waiting
    exact ⟨followed, found, fun target inside => (settled target inside).imp_left
      consistent.mem_visited.mpr, waiting⟩
  case removable =>
    intro name below top
    have inside : name ∈ stage.search.stack.map (·.1) := by
      rw [top]
      exact List.mem_cons_self
    obtain ⟨declaration, member, rfl⟩ :=
      List.mem_map.mp (declared ((opened name).mpr (.inl inside)))
    rw [consistent.visiting_eq]
    exact ⟨inside, declaration, find?_of_distinct distinct member⟩
  case targets_found =>
    intro visit member target inside
    obtain ⟨above, below, split⟩ := List.append_of_mem member
    have waits := consistent.waits
    rw [split] at waits
    obtain ⟨followed, found, _⟩ := waits.waits
    have known : target ∈ graph.names :=
      wf.mem_names ⟨_, found, List.mem_append_right followed inside⟩
    exact Option.ne_none_iff_exists'.mp (Graph.targets?_ne_none known)
  case rest_found =>
    intro entry inside
    exact Graph.targets?_of_mem wf.distinct (invariant.rest_subset inside)
  case opened_nodup => exact invariant.nodup_opened
  case opened_iff => exact opened
  case opened_declared => exact declared
  case rounds_le => exact invariant.rounds_le wf

end Search

variable {declarations : List Declaration} {graph : Graph}

/-- **Every round is sound, and there are finitely many.** Whatever stage the loops come to, the
marks agree with the stack and with the order so far, each visit waits for the one above it, nothing
is looked up or taken away that is not there, and no name has been opened twice. The loops come to
an end, and what they have found there is the outcome of ordering. -/
theorem every_round_sound (distinct : (declarations.map Declaration.name).Nodup)
    (built : dependencyGraph declarations = .ok graph) :
    (∀ stage, Search.Reaches graph stage → stage.Sound declarations graph) ∧
    ∃ last, Search.Reaches graph last ∧
      (last.rest = [] ∧ last.search.stack = [] ∧
          order declarations = .ok (last.search.ordered.filterMap fun name =>
            declarations.find? (·.name = name)) ∨
        ∃ name, last.search.step graph = .error name ∧
          order declarations = .error (.circularReference name)) := by
  have wf := wellFormed_dependencyGraph distinct built
  refine ⟨fun stage reached => reached.sound distinct built, ?_⟩
  have start : Search.Reaches graph (.start graph) := .refl
  obtain ⟨last, reached, ended⟩ := start.exists_end wf
  refine ⟨last, reached, ?_⟩
  rw [order_of_distinct distinct built]
  rcases reached.emissionOrder_of_ends ended with ⟨emitted, done, idle⟩ | ⟨name, stopped, reported⟩
  · rw [emitted]
    exact .inl ⟨done, idle, rfl⟩
  · rw [reported]
    exact .inr ⟨name, stopped, rfl⟩

theorem every_round_sound_circle :
    let graph : Graph := [("Root", ["Left"]), ("Left", ["Right"]), ("Right", ["Left"])]
    (sampleCircle.map Declaration.name).Nodup ∧ dependencyGraph sampleCircle = .ok graph ∧
      ∀ stage, Search.Reaches graph stage → stage.rounds ≤ 6 := by
  intro graph
  have distinct : (sampleCircle.map Declaration.name).Nodup := by decide
  have built : dependencyGraph sampleCircle = .ok graph := rfl
  exact ⟨distinct, built, fun stage reached =>
    ((every_round_sound distinct built).1 stage reached).rounds_le⟩

end NativeRecords.Schema
