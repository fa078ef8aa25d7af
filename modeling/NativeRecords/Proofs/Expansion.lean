/-
# NativeRecords.Proofs.Expansion -- aliases that do not lead back to themselves

An alias that is met again while it is being expanded is left as it stands. So what a name is read as
depends on where it is read: on the aliases that are open at that point. Nothing of this shows as
long as aliases do not lead in circles. Then every alias may be replaced by its type without a look
at what is open, along references that come to an end (`expansion`), and reading a type gives the
same whatever is open, except for the aliases that it needs itself.

An alias that is left as it stands was open before, or it leads back to itself.
-/
import Mathlib.Logic.Relation
import NativeRecords.Proofs.Grammar
import NativeRecords.Source.Reader

namespace NativeRecords.Source

open Relation (ReflTransGen TransGen)

/-! ## Aliases that lead to each other -/

/-- The names in the type that stands in for a reference to the declaration, if there is one. -/
def Outline.references : Outline → List String
  | .typeAlias _ false (some body) => body.names
  | _ => []

/-- The name is that of an alias that is replaced by its type. -/
def IsExpanded (table : List Outline) (name : String) : Prop :=
  ∃ own type, table.find? (·.name = name) = some (.typeAlias own false type)

/-- The name is that of an alias in whose type `other` is looked up. -/
def LeadsTo (table : List Outline) (name other : String) : Prop :=
  ∃ outline, table.find? (·.name = name) = some outline ∧ other ∈ outline.references

/-- Following aliases from the names in the expression comes to `name`. -/
def TypeExpr.Reaches (table : List Outline) (expr : TypeExpr) (name : String) : Prop :=
  ∃ start ∈ expr.names, ReflTransGen (LeadsTo table) start name

/-- Following aliases from the name comes back to it. -/
def Circular (table : List Outline) (name : String) : Prop := TransGen (LeadsTo table) name name

/-- Following aliases from the name comes to an end. -/
def Ends (table : List Outline) (name : String) : Prop :=
  Acc (fun other name => LeadsTo table name other) name

section Aliases

variable {table : List Outline} {expanding : List String} {name other own : String}
  {body : TypeExpr}

theorem leadsTo_of_find?
    (found : table.find? (·.name = name) = some (.typeAlias own false (some body)))
    (inside : other ∈ body.names) : LeadsTo table name other :=
  ⟨_, found, inside⟩

/-- Where no circle is reached, following aliases comes to an end. The names that were passed on the
way are all different, so each step leaves one declared name less. -/
theorem ends_of_no_circle (name : String) (passed : List String)
    (straight : ∀ last, ReflTransGen (LeadsTo table) name last → ¬ Circular table last)
    (path : ∀ earlier ∈ passed, TransGen (LeadsTo table) earlier name) : Ends table name := by
  refine Acc.intro name fun next step => ?_
  have declared : name ∈ table.map Outline.name := by
    obtain ⟨_, found, _⟩ := step
    exact mem_names_of_find? found
  have fresh : name ∉ passed := fun inside => straight name .refl (path name inside)
  have fewer := length_unexpanded_cons declared fresh
  apply ends_of_no_circle next (name :: passed)
  · intro last leads
    exact straight last (.head step leads)
  · intro earlier inside
    rcases List.mem_cons.mp inside with rfl | inside
    · exact .single step
    · exact (path earlier inside).tail step
termination_by (unexpanded table passed).length

end Aliases

/-! ## Plain expansion -/

/-- Classifies an expression by a look-up for the names in it. No other name is asked for. -/
def TypeExpr.classifyBy (expr : TypeExpr)
    (refer : (name : String) → name ∈ expr.names → Except Failure Descriptor) :
    Except Failure Descriptor :=
  expr.classify fun name =>
    if inside : name ∈ expr.names then refer name inside else .ok (.other name)

theorem classifyBy_eq {expr : TypeExpr} {refer : String → Except Failure Descriptor}
    {own : (name : String) → name ∈ expr.names → Except Failure Descriptor}
    (same : ∀ name inside, own name inside = refer name) :
    expr.classifyBy own = expr.classify refer := by
  apply classify_congr
  intro name inside
  rw [dif_pos inside, same]

/-- What a name stands for if every alias is replaced by its type, however it was come to. -/
def expansion (table : List Outline) (name : String) (ends : Ends table name) :
    Except Failure Descriptor :=
  match found : table.find? (·.name = name) with
  | none => .ok (.other name)
  | some (.enum _ _) => .ok (.reference .enum name)
  | some (.interface _ _) => .ok (.reference .record name)
  | some (.typeAlias _ true _) => .ok (.reference .record name)
  | some (.typeAlias _ false none) => .error (.malformed (.typeExpression .null))
  | some (.typeAlias _ false (some body)) =>
    (body.classifyBy fun other inside =>
      expansion table other (ends.inv (leadsTo_of_find? found inside))).map (Descriptor.aliased name)
termination_by (⟨name, ends⟩ : { name // Acc (fun other name => LeadsTo table name other) name })
decreasing_by exact leadsTo_of_find? found inside

/-- What an expression stands for if every alias is replaced by its type. -/
def TypeExpr.expansion (table : List Outline) (expr : TypeExpr)
    (ends : ∀ name ∈ expr.names, Ends table name) : Except Failure Descriptor :=
  expr.classifyBy fun name inside => Source.expansion table name (ends name inside)

section Expansion

variable {table : List Outline} {expanding : List String} {name : String} {expr : TypeExpr}

/-- A name is read as its expansion while no alias is open that it leads to. Opening one more keeps
this up: no alias leads back to the one that is opened. -/
theorem reference_eq_expansion (ends : Ends table name)
    (straight : ∀ last, ReflTransGen (LeadsTo table) name last → ¬ Circular table last)
    (closed : ∀ last, ReflTransGen (LeadsTo table) name last → IsExpanded table last →
      last ∉ expanding) :
    reference table expanding name = expansion table name ends := by
  fun_induction expansion table name ends generalizing expanding with
  | case1 name _ found => rw [reference_eq, found]
  | case2 name _ _ _ found => rw [reference_eq, found]
  | case3 name _ _ _ found => rw [reference_eq, found]
  | case4 name _ _ _ found =>
    rw [reference_eq, found]
    rfl
  | case5 name _ _ found =>
    have fresh := closed name .refl ⟨_, _, found⟩
    rw [reference_eq, found]
    simp only [Bool.false_eq_true, if_false, if_neg fresh]
  | case6 name _ own body found ih =>
    have fresh := closed name .refl ⟨_, _, found⟩
    rw [reference_of_alias found fresh]
    congr 1
    refine (classifyBy_eq fun other inside => ?_).symm
    have step := leadsTo_of_find? found inside
    refine (ih other inside ?_ ?_).symm
    · intro last leads
      exact straight last (.head step leads)
    · intro last leads expanded
      rw [List.mem_cons, not_or]
      refine ⟨?_, closed last (.head step leads) expanded⟩
      rintro rfl
      exact straight last .refl (.head' step leads)

theorem classify_eq_expansion (ends : ∀ name ∈ expr.names, Ends table name)
    (straight : ∀ name, expr.Reaches table name → ¬ Circular table name)
    (closed : ∀ name, expr.Reaches table name → IsExpanded table name → name ∉ expanding) :
    expr.classify (reference table expanding) = expr.expansion table ends := by
  refine (classifyBy_eq fun name inside => ?_).symm
  refine (reference_eq_expansion _ ?_ ?_).symm
  · intro last leads
    exact straight last ⟨name, inside, leads⟩
  · intro last leads
    exact closed last ⟨name, inside, leads⟩

end Expansion

/-! ## Names that are left as they stand -/

section Left

variable {table : List Outline} {expanding : List String} {left : String}

theorem Descriptor.not_isBuilt_other : ¬ (Descriptor.other left).IsBuilt := by
  intro built
  generalize same : Descriptor.other left = type at built
  cases built with
  | builtin found =>
    subst same
    unfold builtin? at found
    split at found <;> cases found
  | literal value => cases value <;> cases same
  | _ => cases same

theorem Descriptor.contains_of_aliased {own : String} {type : Descriptor}
    (h : (type.aliased own).Contains (.other left)) : type.Contains (.other left) := by
  cases type with
  | union display aliasName members =>
    cases h with
    | member inside h => exact .member inside h
  | _ => exact h

/-- A declared name that is left as it stands is that of an alias that was come to, and that was open
from the start or leads back to itself. -/
theorem left_of_reference {source : String} {type : Descriptor}
    (h : reference table expanding source = .ok type) (contains : type.Contains (.other left))
    (declared : left ∈ table.map Outline.name) :
    ReflTransGen (LeadsTo table) source left ∧ IsExpanded table left ∧
      (left ∈ expanding ∨ Circular table left) := by
  fun_induction reference table expanding source generalizing type with
  | case1 expanding source missing =>
    cases h
    cases contains
    obtain ⟨outline, inside, named⟩ := List.mem_map.mp declared
    have differs := List.find?_eq_none.mp missing outline inside
    exact absurd named (by simpa using differs)
  | case2 | case3 | case4 =>
    cases h
    cases contains
  | case5 expanding source own shaped type found plain opened =>
    rw [Bool.not_eq_true] at plain
    subst plain
    cases h
    cases contains
    exact ⟨.refl, ⟨own, type, found⟩, .inl opened⟩
  | case6 => cases h
  | case7 expanding source own shaped plain fresh body found _ ih =>
    rw [Bool.not_eq_true] at plain
    subst plain
    obtain ⟨target, classified, rfl⟩ := map_eq_ok_iff.mp h
    replace contains := Descriptor.contains_of_aliased contains
    rcases built_or_given_of_classify classified contains with
      built | ⟨other, inside, inner, looked, contains⟩
    · exact absurd built Descriptor.not_isBuilt_other
    · have step := leadsTo_of_find? found inside
      obtain ⟨leads, expanded, reason⟩ := ih other looked contains
      refine ⟨.head step leads, expanded, ?_⟩
      rcases reason with opened | circular
      · rcases List.mem_cons.mp opened with rfl | opened
        · exact .inr (.head' step leads)
        · exact .inl opened
      · exact .inr circular

theorem left_of_classify {expr : TypeExpr} {type : Descriptor}
    (h : expr.classify (reference table expanding) = .ok type)
    (contains : type.Contains (.other left)) (declared : left ∈ table.map Outline.name) :
    expr.Reaches table left ∧ IsExpanded table left ∧
      (left ∈ expanding ∨ Circular table left) := by
  rcases built_or_given_of_classify h contains with built | ⟨source, inside, _, looked, contains⟩
  · exact absurd built Descriptor.not_isBuilt_other
  · obtain ⟨leads, rest⟩ := left_of_reference looked contains declared
    exact ⟨⟨source, inside, leads⟩, rest⟩

end Left

/-! ## Reading without circles -/

/-- The outlines of a document of the grammar are well formed. -/
theorem wellFormed_of_isDocument {document : Json} {entries : List Json} {table : List Outline}
    {names : List String} (listed : entries? document = some entries)
    (valid : Outline.readAll entries = (table, none)) (h : Grammar.IsDocument document names) :
    ∀ outline ∈ table, outline.WellFormed := by
  obtain ⟨entries', holds, good⟩ := h
  have same := (entries?_eq_some_iff.mpr holds).symm.trans listed
  cases same
  intro outline inside
  obtain ⟨entry, member, read⟩ := exists_left_of_forall₂ (readAll_eq_iff.mp valid) inside
  obtain ⟨name, _, isEntry⟩ := exists_right_of_forall₂ good member
  obtain ⟨outline', outlined, _, formed⟩ := exists_outline_of_isEntry isEntry
  have unique := (outlined_iff.mpr outlined).symm.trans read
  cases unique
  exact formed

/-- **The guard stops circles and nothing else.** A type that reaches no circle of aliases is read as
its plain expansion, whatever other aliases are open, and no declared name is left as it stands in
it; where the document and the type are well formed there is such a type. In any type, a declared
name that is left as it stands is that of an alias that was open from the start or leads back to
itself. -/
theorem guard_stops_only_circles {document raw : Json} {entries : List Json} {table : List Outline}
    {expr : TypeExpr} (listed : entries? document = some entries)
    (valid : Outline.readAll entries = (table, none)) (written : TypeExpr.ofJson raw = expr) :
    ((∀ name, expr.Reaches table name → ¬ Circular table name) →
      ∃ ends : ∀ name ∈ expr.names, Ends table name,
        (∀ expanding,
          (∀ name, expr.Reaches table name → IsExpanded table name → name ∉ expanding) →
          Reading.ofType expr ⟨table, expanding⟩ =
            some (expr.expansion table ends, ⟨table, expanding⟩)) ∧
        (∀ type name, expr.expansion table ends = .ok type → type.Contains (.other name) →
          name ∉ table.map Outline.name) ∧
        ∀ names, Grammar.IsDocument document names → Grammar.IsType raw →
          ∃ type, expr.expansion table ends = .ok type) ∧
    ∀ expanding type after name, Reading.ofType expr ⟨table, expanding⟩ = some (.ok type, after) →
      type.Contains (.other name) → name ∈ table.map Outline.name →
      expr.Reaches table name ∧ IsExpanded table name ∧
        (name ∈ expanding ∨ Circular table name) := by
  constructor
  · intro straight
    have ends : ∀ name ∈ expr.names, Ends table name := fun name inside =>
      ends_of_no_circle name [] (fun last leads => straight last ⟨name, inside, leads⟩) (by simp)
    have closed := classify_eq_expansion ends straight fun _ _ _ => List.not_mem_nil
    refine ⟨ends, ?_, ?_, ?_⟩
    · intro expanding avoided
      rw [Reading.ofType_eq, classify_eq_expansion ends straight avoided]
    · intro type name expanded contains declared
      rw [← closed] at expanded
      obtain ⟨reached, _, opened | circular⟩ := left_of_classify expanded contains declared
      · cases opened
      · exact straight name reached circular
    · intro names isDocument isType
      have whole := wellFormed_of_isDocument listed valid isDocument
      rw [← closed, ← written]
      exact reads_of_isType (exists_reference whole []) raw isType
  · intro expanding type after name read contains declared
    rw [Reading.ofType_eq] at read
    obtain ⟨classified, _⟩ := Prod.mk.inj (Option.some.inj read)
    exact left_of_classify classified contains declared

/-- Aliases of which one is come to in two ways, and one that leads back to itself. -/
def sharedEntries : List Json :=
  [.obj [("kind", .str "type-alias"), ("name", .str "Tag"),
      ("type", .obj [("union", .arr [.obj [("literal", .str "a")], .str "null"])])],
    .obj [("kind", .str "type-alias"), ("name", .str "Tags"), ("type", .str "Tag[]")],
    .obj [("kind", .str "type-alias"), ("name", .str "Pair"),
      ("type", .obj [("generic", .str "Record"), ("arguments", .arr [.str "Tag", .str "Tags"])])],
    .obj [("kind", .str "type-alias"), ("name", .str "Loop"), ("type", .str "Loop[]")]]

/-- The outlines of `sharedEntries`. -/
def sharedTable : List Outline :=
  [.typeAlias "Tag" false (some (.union [.literal (.text "a"), .named "null"])),
    .typeAlias "Tags" false (some (.named "Tag[]")),
    .typeAlias "Pair" false (some (.generic "Record" [.named "Tag", .named "Tags"])),
    .typeAlias "Loop" false (some (.named "Loop[]"))]

/-- The place of a name in an order in which names lead only to names before them. -/
def sharedRank : String → Nat
  | "Pair" => 2
  | "Tags" => 1
  | _ => 0

theorem sharedRank_lt {name other : String} (leads : TransGen (LeadsTo sharedTable) name other)
    (apart : name ≠ "Loop") : other ≠ "Loop" ∧ sharedRank other < sharedRank name := by
  have ranked : ∀ outline ∈ sharedTable, outline.name ≠ "Loop" → ∀ other ∈ outline.references,
      other ≠ "Loop" ∧ sharedRank other < sharedRank outline.name := by decide
  have step {name other : String} (h : LeadsTo sharedTable name other) (apart : name ≠ "Loop") :
      other ≠ "Loop" ∧ sharedRank other < sharedRank name := by
    obtain ⟨outline, found, inside⟩ := h
    have named : outline.name = name := by simpa using List.find?_some found
    subst named
    exact ranked outline (List.mem_of_find?_eq_some found) apart other inside
  induction leads with
  | single h => exact step h apart
  | tail _ h ih =>
    obtain ⟨apart', last⟩ := step h ih.1
    exact ⟨apart', last.trans ih.2⟩

theorem guard_stops_only_circles_shared :
    (∀ name, (TypeExpr.named "Pair[]").Reaches sharedTable name → ¬ Circular sharedTable name) ∧
    (∃ ends, Reading.ofType (.named "Pair[]") ⟨sharedTable, ["Loop"]⟩ =
        some ((TypeExpr.named "Pair[]").expansion sharedTable ends, ⟨sharedTable, ["Loop"]⟩) ∧
      ∃ type, (TypeExpr.named "Pair[]").expansion sharedTable ends = .ok type ∧
        ∀ name ∈ sharedTable.map Outline.name, ¬ type.Contains (.other name)) ∧
    Reading.ofType (.named "Loop") ⟨sharedTable, []⟩ =
      some (.ok (.array "Loop[]" (.other "Loop")), ⟨sharedTable, []⟩) ∧
    Circular sharedTable "Loop" := by
  have listed : entries? (.arr sharedEntries) = some sharedEntries := rfl
  have valid : Outline.readAll sharedEntries = (sharedTable, none) := by cbv
  have isDocument : ∃ names, Grammar.IsDocument (.arr sharedEntries) names := by
    have read : ∃ declarations, readDocument (.arr sharedEntries) = .ok declarations := ⟨_, by cbv⟩
    obtain ⟨_, read⟩ := read
    exact ⟨_, isDocument_of_readDocument read⟩
  have apart : ∀ name, (TypeExpr.named "Pair[]").Reaches sharedTable name → name ≠ "Loop" := by
    rintro name ⟨start, inside, leads⟩
    have same : start = "Pair" := List.mem_singleton.mp inside
    subst same
    rcases Relation.reflTransGen_iff_eq_or_transGen.mp leads with rfl | leads
    · decide
    · exact (sharedRank_lt leads (by decide)).1
  have straight : ∀ name, (TypeExpr.named "Pair[]").Reaches sharedTable name →
      ¬ Circular sharedTable name := by
    intro name reached circular
    exact absurd (sharedRank_lt circular (apart name reached)).2 (Nat.lt_irrefl _)
  refine ⟨straight, ?_, ?_⟩
  · have written : TypeExpr.ofJson (.str "Pair[]") = .named "Pair[]" := by rw [TypeExpr.ofJson]
    obtain ⟨ends, plain, unleft, total⟩ :=
      (guard_stops_only_circles listed valid written).1 straight
    obtain ⟨names, isDocument⟩ := isDocument
    obtain ⟨type, expanded⟩ := total names isDocument (.name "Pair[]")
    refine ⟨ends, plain ["Loop"] ?_, type, expanded, ?_⟩
    · intro name reached _ opened
      exact apart name reached (List.mem_singleton.mp opened)
    · intro name declared contains
      exact unleft type name expanded contains declared
  · have read : Reading.ofType (.named "Loop") ⟨sharedTable, []⟩ =
        some (.ok (.array "Loop[]" (.other "Loop")), ⟨sharedTable, []⟩) := by
      rw [Reading.ofType_eq]
      cbv
    have written : TypeExpr.ofJson (.str "Loop") = .named "Loop" := by rw [TypeExpr.ofJson]
    obtain ⟨_, _, opened | circular⟩ := (guard_stops_only_circles listed valid written).2
      [] _ _ "Loop" read (.element .self) (by decide)
    · cases opened
    · exact ⟨read, circular⟩

end NativeRecords.Source
