/-
# NativeRecords.Schema.Order -- the order in which declarations are emitted

Declarations are put into an order in which each one stands after all that it refers to. The order
is that of a depth-first search: declarations are visited in the order given, a visit goes first
to the declarations referred to, again in the order given, and a declaration is emitted when its
visit ends. Meeting a declaration whose visit is under way means that references run in a circle.

The search keeps its own stack, so chains of references may be of any length.
-/
import NativeRecords.Measure
import NativeRecords.Schema.Declaration

namespace NativeRecords.Schema

/-! ## The graph of references -/

/-- For each name in order, the names that it refers to, in the same order. -/
abbrev Graph := List (String × List String)

/-- The names of a graph. -/
def Graph.names (graph : Graph) : List String := graph.map (·.1)

/-- The names that a name refers to, if it belongs to the graph. -/
def Graph.targets? (graph : Graph) (name : String) : Option (List String) :=
  List.lookup name graph

/-- The first of the names that is among `seen` or occurred before. -/
def firstRepeatedAfter? (seen : List String) : List String → Option String
  | [] => none
  | name :: rest => if name ∈ seen then some name else firstRepeatedAfter? (name :: seen) rest

/-- The first name that occurred before. -/
def firstRepeated? (names : List String) : Option String := firstRepeatedAfter? [] names

/-- The graph of references among the declarations; references to other names are left out. -/
def dependencyGraph (declarations : List Declaration) : Except Failure Graph :=
  let names := declarations.map Declaration.name
  declarations.mapM fun declaration => do
    let dependencies ← declaration.dependencies
    return (declaration.name, names.filter (dependencies.contains ·))

/-! ## The search -/

/-- The state of the search. The stack holds the visits under way, the innermost first, each with
the references that it has not followed yet. -/
structure Search where
  stack : List (String × List String) := []
  visiting : List String := []
  visited : List String := []
  ordered : List String := []

namespace Search

/-- Starts a visit. -/
def enter (search : Search) (name : String) (targets : List String) : Search :=
  { search with
    stack := (name, targets) :: search.stack
    visiting := name :: search.visiting }

/-- Ends the visit of `name`, which is the innermost one, and goes on with the others. -/
def leave (search : Search) (name : String) (outer : List (String × List String)) : Search where
  stack := outer
  visiting := search.visiting.erase name
  visited := name :: search.visited
  ordered := search.ordered ++ [name]

/-- One step of the innermost visit: it follows its next reference, or ends. A reference to a name
whose visit is under way is reported. -/
def step (graph : Graph) (search : Search) : Except String Search :=
  match search.stack with
  | [] => .ok search
  | (name, []) :: outer => .ok (search.leave name outer)
  | (name, target :: targets) :: outer =>
    let search := { search with stack := (name, targets) :: outer }
    if target ∈ search.visited then .ok search
    else if target ∈ search.visiting then .error target
    else
      match graph.targets? target with
      | some next => .ok (search.enter target next)
      | none => .ok search

/-- The names of the graph that no visit has reached. -/
def unreached (graph : Graph) (search : Search) : Nat :=
  graph.names.countP fun name => !search.visited.contains name && !search.visiting.contains name

/-- The steps that the visits under way can still make on their own. -/
def pending (search : Search) : Nat :=
  search.stack.foldr (fun visit steps => visit.2.length + 1 + steps) 0

/-- A step reaches a new name, or it uses up a reference or a visit. -/
theorem step_decreases {graph : Graph} {search next : Search} (busy : search.stack ≠ [])
    (h : search.step graph = .ok next) :
    next.unreached graph < search.unreached graph ∨
      next.unreached graph ≤ search.unreached graph ∧ next.pending < search.pending := by
  unfold step at h
  split at h
  · contradiction
  · rename_i name outer top
    cases h
    right
    constructor
    · refine List.countP_mono_left fun other _ => ?_
      simp only [leave, List.contains_eq_mem, List.mem_cons, Bool.and_eq_true,
        Bool.not_eq_true', decide_eq_false_iff_not, not_or]
      rintro ⟨⟨differs, unvisited⟩, unopened⟩
      exact ⟨unvisited, fun inside => unopened ((List.mem_erase_of_ne differs).mpr inside)⟩
    · simp [pending, leave, top]
  · rename_i name target targets outer top
    simp only at h
    split at h
    · cases h
      exact .inr ⟨Nat.le_refl _, by simp [pending, top]⟩
    · rename_i unvisited
      split at h
      · cases h
      · rename_i unopened
        split at h
        · rename_i found known
          cases h
          left
          have member : target ∈ graph.names := by
            simp only [Graph.targets?, Graph.names] at known ⊢
            obtain ⟨before, after, rfl, _⟩ := List.lookup_eq_some_iff.mp known
            simp
          exact countP_lt_of_mem (fun other => by simp +contextual [enter]) member (by simp [enter])
            (by simpa using ⟨unvisited, unopened⟩)
        · cases h
          exact .inr ⟨Nat.le_refl _, by simp [pending, top]⟩

/-- Runs the visits under way to their end. -/
def run (graph : Graph) (search : Search) : Except String Search :=
  if _busy : search.stack = [] then .ok search
  else
    match _progress : search.step graph with
    | .error name => .error name
    | .ok next => next.run graph
termination_by (search.unreached graph, search.pending)
decreasing_by
  rcases step_decreases _busy _progress with fewer | ⟨noMore, less⟩
  · exact Prod.Lex.left _ _ fewer
  · rcases Nat.lt_or_eq_of_le noMore with fewer | same
    · exact Prod.Lex.left _ _ fewer
    · rw [same]
      exact Prod.Lex.right _ less

/-- Visits one name unless it has been visited. -/
def visit (graph : Graph) (search : Search) (entry : String × List String) :
    Except String Search :=
  if entry.1 ∈ search.visited then .ok search
  else (search.enter entry.1 entry.2).run graph

end Search

/-- The names of a graph in the order in which they are emitted, or a name on a circle. -/
def Graph.emissionOrder (graph : Graph) : Except String (List String) :=
  (graph.foldlM (Search.visit graph) {}).map Search.ordered

/-! ## Schemas -/

/-- The declarations in the order in which they are emitted. Names are distinct, and references do
not run in a circle. -/
def order (declarations : List Declaration) : Except Failure (List Declaration) :=
  match firstRepeated? (declarations.map Declaration.name) with
  | some name => .error (.duplicateName name)
  | none => do
    let graph ← dependencyGraph declarations
    match graph.emissionOrder with
    | .error name => .error (.circularReference name)
    | .ok names => .ok (names.filterMap fun name => declarations.find? (·.name = name))

end NativeRecords.Schema
