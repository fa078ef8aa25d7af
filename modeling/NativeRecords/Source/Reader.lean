/-
# NativeRecords.Source.Reader -- one reader for many documents

`readDocument` says what a document means. A reader is how the work is done when one document comes
after the other: it keeps the outlines of the document at hand, and the aliases that it is expanding,
the latest first. Every step works on this one state. A step that fails leaves the state as it is at
that point, so that it is up to each expansion to close what it has opened, on failure as well.

The steps follow aliases from one declaration to the next, and whether that comes to an end depends
on the state. So each step is given the look-up that it goes on with (`look`), and the look-up goes
on with itself (`ofReference`) only while fewer aliases are left to open than before. Where they are
no fewer it gives up, which is `none`. That no step gives up is a theorem, and the same theorem says
that every step puts the state back (`Gives`). So the look-up does go on with itself in every state
(`ofReference_eq`), and no other look-up does (`eq_ofReference`).
-/
import NativeRecords.Source.Document

namespace NativeRecords.Source

/-- A reader: the outlines of the document it read last, and the aliases that it is expanding. -/
structure Reader where
  table : List Outline := []
  expanding : List String := []

namespace Reader

/-- The reader when it starts to expand one more alias. -/
def push (reader : Reader) (name : String) : Reader :=
  { reader with expanding := name :: reader.expanding }

/-- The reader when it is done with the alias that it came to last. -/
def pop (reader : Reader) : Reader := { reader with expanding := reader.expanding.tail }

/-- How many declared names there are that the reader can still expand. -/
def remaining (reader : Reader) : Nat := (unexpanded reader.table reader.expanding).length

/-- The reader with one more outline. -/
def addOutline (reader : Reader) (outline : Outline) : Reader :=
  { reader with table := reader.table ++ [outline] }

end Reader

/-- A step of a reader. It may fail, and it leaves a reader behind whether it fails or not; `none`
is a step that gives up. -/
abbrev Reading := ExceptT Failure (StateT Reader Option)

namespace Reading

/-! ## The steps -/

section Steps

variable (look : String → Reading Descriptor)

/-- Reads a name, with its characters given from its end. -/
def nameWith : List Char → Reading Descriptor
  | ']' :: '[' :: rest => do
    let element ← nameWith rest
    return .array (String.ofList (']' :: '[' :: rest).reverse) element
  | reversed =>
    let name := String.ofList reversed.reverse
    match builtin? name with
    | some type => return type
    | none => look name

mutual

/-- Reads a type expression. -/
def typeWith : TypeExpr → Reading Descriptor
  | .named name => nameWith look name.toList.reverse
  | .array element => do
    let type ← typeWith element
    return .array (type.display ++ "[]") type
  | .bareArray => return .bareArray "[]"
  | .generic name arguments => do
    let types ← typesWith arguments
    return .generic (name ++ "<" ++ ", ".intercalate (types.map Descriptor.display) ++ ">") name types
  | .union members => do
    let types ← typesWith members
    return .union (Descriptor.unionDisplay types) none types
  | .literal value => return literalType value
  | .object properties => do
    let typed ← propertiesWith properties
    return .object (objectDisplay typed) typed
  | .malformed failure => throw failure

/-- Reads type expressions in order. -/
def typesWith : List TypeExpr → Reading (List Descriptor)
  | [] => return []
  | expr :: rest => do
    let type ← typeWith expr
    let types ← typesWith rest
    return type :: types

/-- Reads a property. -/
def propertyWith : PropertyExpr → Reading Property
  | .typed name type optional => do
    let type ← typeWith type
    return .typed name type optional
  | .malformed failure => throw failure

/-- Reads properties in order. -/
def propertiesWith : List PropertyExpr → Reading (List Property)
  | [] => return []
  | expr :: rest => do
    let property ← propertyWith expr
    let properties ← propertiesWith rest
    return property :: properties

end

/-- Looks up a name. To expand an alias the reader opens it, reads its type, and closes it again,
whatever came of it. -/
def referenceWith (name : String) : Reading Descriptor := fun reader =>
  match reader.table.find? (·.name = name) with
  | none => some (.ok (.other name), reader)
  | some (.enum _ _) => some (.ok (.reference .enum name), reader)
  | some (.interface _ _) => some (.ok (.reference .record name), reader)
  | some (.typeAlias _ objectShaped type) =>
    if objectShaped then some (.ok (.reference .record name), reader)
    else if name ∈ reader.expanding then some (.ok (.other name), reader)
    else
      match type with
      | none => some (.error (.malformed (.typeExpression .null)), reader)
      | some expr => do
        let (outcome, after) ← typeWith look expr (reader.push name)
        return (outcome.map (Descriptor.aliased name), after.pop)

end Steps

/-- Looks up a name, and the names in its type in the same way, unless that leaves as many names to
expand as before: then nothing would bring it to an end. -/
def ofReference (name : String) : Reading Descriptor := fun reader =>
  referenceWith (fun other inner =>
    if inner.remaining < reader.remaining then ofReference other inner else none) name reader
termination_by reader => reader.remaining

/-- Reads a name, with its characters given from its end. -/
def ofName (reversed : List Char) : Reading Descriptor := nameWith ofReference reversed

/-- Reads a type expression. -/
def ofType (expr : TypeExpr) : Reading Descriptor := typeWith ofReference expr

/-- Reads a property. -/
def ofProperty (expr : PropertyExpr) : Reading Property := propertyWith ofReference expr

/-- Reads a declaration. -/
def ofOutline : Outline → Reading Declaration
  | .enum name members => fun reader => some (members.map (.enum name), reader)
  | .interface name properties => do
    let typed ← properties.mapM ofProperty
    return .interface name typed
  | .typeAlias name _ none => throw (.malformed (.aliasWithoutType name))
  | .typeAlias name _ (some type) => do
    let type ← ofType type
    return .typeAlias name type

/-- Takes the outline of an entry into the symbol table. -/
def enter (entry : Json) : Reading Unit := fun reader =>
  match Outline.ofJson entry with
  | .ok outline => some (.ok (), reader.addOutline outline)
  | .error failure => some (.error failure, reader)

/-- Reads a document: the symbol table is made anew before the first type is read. -/
def ofDocument (document : Json) : Reading (List Declaration) :=
  match entries? document with
  | none => throw (.malformed .noDeclarationList)
  | some entries => do
    modify fun reader => { reader with table := [] }
    entries.forM enter
    let reader ← get
    reader.table.mapM ofOutline

/-! ## Steps that end and put the state back -/

section Gives

variable {α β : Type} {reader : Reader}

/-- The step ends with this outcome, and the reader is as it was before. -/
def Gives (step : Reading α) (reader : Reader) (outcome : Except Failure α) : Prop :=
  step reader = some (outcome, reader)

/-- What two steps in turn do to a reader: the second starts where the first has left it. -/
theorem bind_apply (step : Reading α) (next : α → Reading β) (reader : Reader) :
    (step >>= next) reader = (step reader).bind fun (outcome, after) =>
      match outcome with
      | .ok a => next a after
      | .error failure => some (.error failure, after) := by
  simp only [bind, ExceptT.bind, ExceptT.mk, StateT.bind]
  congr
  funext pair
  obtain ⟨outcome, after⟩ := pair
  cases outcome with
  | ok a => rfl
  | error failure => rfl

theorem Gives.bind {step : Reading α} {outcome : Except Failure α} {next : α → Reading β}
    {result : α → Except Failure β} (first : Gives step reader outcome)
    (second : ∀ a, Gives (next a) reader (result a)) :
    Gives (step >>= next) reader (outcome >>= result) := by
  unfold Gives at first
  rw [Gives, bind_apply, first]
  cases outcome with
  | ok a => exact second a
  | error failure => rfl

theorem Gives.map {step : Reading α} {outcome : Except Failure α} (first : Gives step reader outcome)
    (f : α → β) : Gives (step >>= fun a => pure (f a)) reader (outcome.map f) := by
  have both : Gives (step >>= fun a => pure (f a)) reader (outcome >>= fun a => .ok (f a)) :=
    first.bind fun _ => rfl
  cases outcome with
  | ok a => exact both
  | error failure => exact both

theorem gives_mapM {step : α → Reading β} {result : α → Except Failure β} {parts : List α}
    (each : ∀ part ∈ parts, Gives (step part) reader (result part)) :
    Gives (parts.mapM step) reader (parts.mapM result) := by
  induction parts with
  | nil => rfl
  | cons part parts ih =>
    rw [List.mapM_cons, List.mapM_cons]
    have rest := ih fun other inside => each other (List.mem_cons_of_mem part inside)
    refine (each part List.mem_cons_self).bind fun b => ?_
    exact rest.bind fun _ => rfl

end Gives

/-! ## What the steps give -/

section Steps

variable {reader : Reader} {look : String → Reading Descriptor}
  {refer : String → Except Failure Descriptor}

theorem gives_nameWith (looks : ∀ name, Gives (look name) reader (refer name))
    (reversed : List Char) : Gives (nameWith look reversed) reader (classifyName refer reversed) := by
  induction reversed using classifyName.induct with
  | case1 rest ih =>
    rw [nameWith, classifyName]
    exact ih.map _
  | case2 reversed plain name type found =>
    rw [nameWith.eq_2 _ _ plain, classifyName.eq_2 _ _ plain]
    simp only [found, name]
    rfl
  | case3 reversed plain name missing =>
    rw [nameWith.eq_2 _ _ plain, classifyName.eq_2 _ _ plain]
    simp only [missing, name]
    exact looks name

mutual

/-- Where looking up names puts the state back, reading a type does, and it gives the type that the
look-up makes of the expression. -/
theorem gives_typeWith (looks : ∀ name, Gives (look name) reader (refer name))
    (expr : TypeExpr) : Gives (typeWith look expr) reader (expr.classify refer) := by
  match expr with
  | .named name =>
    rw [typeWith, TypeExpr.classify]
    exact gives_nameWith looks name.toList.reverse
  | .array element =>
    rw [typeWith, TypeExpr.classify]
    exact (gives_typeWith looks element).map _
  | .bareArray =>
    rw [typeWith, TypeExpr.classify]
    rfl
  | .generic name arguments =>
    rw [typeWith, TypeExpr.classify]
    exact (gives_typesWith looks arguments).map _
  | .union members =>
    rw [typeWith, TypeExpr.classify]
    exact (gives_typesWith looks members).map _
  | .literal value =>
    rw [typeWith, TypeExpr.classify]
    rfl
  | .object properties =>
    rw [typeWith, TypeExpr.classify]
    exact (gives_propertiesWith looks properties).map _
  | .malformed failure =>
    rw [typeWith, TypeExpr.classify]
    rfl

theorem gives_typesWith (looks : ∀ name, Gives (look name) reader (refer name))
    (exprs : List TypeExpr) :
    Gives (typesWith look exprs) reader (TypeExpr.classifyAll refer exprs) := by
  match exprs with
  | [] =>
    rw [typesWith, TypeExpr.classifyAll]
    rfl
  | expr :: rest =>
    rw [typesWith, TypeExpr.classifyAll]
    exact (gives_typeWith looks expr).bind fun _ => (gives_typesWith looks rest).bind fun _ => rfl

theorem gives_propertyWith (looks : ∀ name, Gives (look name) reader (refer name))
    (expr : PropertyExpr) : Gives (propertyWith look expr) reader (expr.classify refer) := by
  match expr with
  | .typed name type optional =>
    rw [propertyWith, PropertyExpr.classify]
    exact (gives_typeWith looks type).map _
  | .malformed failure =>
    rw [propertyWith, PropertyExpr.classify]
    rfl

theorem gives_propertiesWith (looks : ∀ name, Gives (look name) reader (refer name))
    (exprs : List PropertyExpr) :
    Gives (propertiesWith look exprs) reader (PropertyExpr.classifyAll refer exprs) := by
  match exprs with
  | [] =>
    rw [propertiesWith, PropertyExpr.classifyAll]
    rfl
  | expr :: rest =>
    rw [propertiesWith, PropertyExpr.classifyAll]
    exact (gives_propertyWith looks expr).bind fun _ =>
      (gives_propertiesWith looks rest).bind fun _ => rfl

end

/-- Looking up a name ends and puts the state back, if the look-ups do that are made while the name
is expanded. Such a name is declared and was not being expanded before. -/
theorem gives_referenceWith {table : List Outline} {expanding : List String} {name : String}
    (opened : name ∈ table.map Outline.name → ¬ name ∈ expanding → ∀ other,
      Gives (look other) ⟨table, name :: expanding⟩ (reference table (name :: expanding) other)) :
    Gives (referenceWith look name) ⟨table, expanding⟩ (reference table expanding name) := by
  rw [Gives, referenceWith]
  fun_cases reference table expanding name with
  | case1 missing => simp only [missing]
  | case2 own members found => simp only [found]
  | case3 own properties found => simp only [found]
  | case4 own type found => simp only [found, if_true]
  | case5 own shaped type found plain open' =>
    simp only [found]
    rw [if_neg plain, if_pos open']
  | case6 own shaped plain fresh found =>
    simp only [found]
    rw [if_neg plain, if_neg fresh]
  | case7 own shaped plain fresh expr found =>
    have inner := gives_typeWith (opened (mem_names_of_find? found) fresh) expr
    simp only [found]
    rw [if_neg plain, if_neg fresh]
    change ((typeWith look expr ⟨table, name :: expanding⟩).bind fun pair =>
      some (pair.1.map (Descriptor.aliased name), pair.2.pop)) = _
    rw [inner]
    rfl

end Steps

/-- Looking up a name ends and puts the state back: every alias that is opened on the way leaves one
name less to expand. -/
theorem gives_reference (table : List Outline) (expanding : List String) (name : String) :
    Gives (ofReference name) ⟨table, expanding⟩ (reference table expanding name) := by
  rw [Gives, ofReference]
  refine gives_referenceWith fun declared fresh other => ?_
  have fewer := length_unexpanded_cons declared fresh
  have inner := gives_reference table (name :: expanding) other
  exact (if_pos fewer).trans inner
termination_by (unexpanded table expanding).length

/-- Reading a type ends, puts the state back and gives what the expression stands for. -/
theorem ofType_eq (reader : Reader) (expr : TypeExpr) :
    ofType expr reader
      = some (expr.classify (reference reader.table reader.expanding), reader) :=
  gives_typeWith (gives_reference reader.table reader.expanding) expr

/-- The look-up goes on with itself: there is no state in which it gives up. -/
theorem ofReference_eq (name : String) : ofReference name = referenceWith ofReference name := by
  funext reader
  have ends := gives_reference reader.table reader.expanding name
  have onceMore : Gives (referenceWith ofReference name) reader _ :=
    gives_referenceWith fun _ _ => gives_reference reader.table (name :: reader.expanding)
  exact ends.trans onceMore.symm

/-- A look-up that goes on with itself gives what the names stand for. -/
theorem gives_of_eq {look : String → Reading Descriptor}
    (again : ∀ name, look name = referenceWith look name) (table : List Outline)
    (expanding : List String) (name : String) :
    Gives (look name) ⟨table, expanding⟩ (reference table expanding name) := by
  rw [again name]
  refine gives_referenceWith fun declared fresh other => ?_
  have fewer := length_unexpanded_cons declared fresh
  exact gives_of_eq again table (name :: expanding) other
termination_by (unexpanded table expanding).length

/-- There is only one look-up that goes on with itself. -/
theorem eq_ofReference {look : String → Reading Descriptor}
    (again : ∀ name, look name = referenceWith look name) : look = ofReference := by
  funext name reader
  have given := gives_of_eq again reader.table reader.expanding name
  have ends := gives_reference reader.table reader.expanding name
  exact given.trans ends.symm

theorem gives_ofOutline (reader : Reader) (outline : Outline) :
    Gives (ofOutline outline) reader (outline.classify reader.table reader.expanding) := by
  have refers := gives_reference reader.table reader.expanding
  cases outline with
  | enum name members => rfl
  | interface name properties =>
    rw [Outline.classify, PropertyExpr.classifyAll_eq_mapM]
    exact (gives_mapM fun property _ => gives_propertyWith refers property).map _
  | typeAlias name objectShaped type =>
    cases type with
    | none => rfl
    | some expr => exact (gives_typeWith refers expr).map _

/-! ## Documents -/

/-- The outlines of the entries are taken in up to the first entry that has none. -/
theorem forM_enter (entries : List Json) (reader : Reader) :
    entries.forM enter reader =
      match Outline.readAll entries with
      | (outlines, none) => some (.ok (), { reader with table := reader.table ++ outlines })
      | (outlines, some failure) =>
        some (.error failure, { reader with table := reader.table ++ outlines }) := by
  induction entries generalizing reader with
  | nil =>
    simp only [Outline.readAll, List.append_nil]
    rfl
  | cons entry entries ih =>
    -- the first entry is entered, and the others find the table with its outline
    change (enter entry >>= fun _ => entries.forM enter) reader = _
    rw [bind_apply, enter, Outline.readAll]
    cases read : Outline.ofJson entry with
    | error failure =>
      simp only [List.append_nil]
      rfl
    | ok outline =>
      simp only [Option.bind_some]
      rw [ih]
      cases rest : Outline.readAll entries with
      | mk outlines stop =>
        cases stop <;> simp [Reader.addOutline]

/-- Reading a document ends, and no alias is left open. What comes of it depends on the state only by
the aliases that were open before. -/
theorem exists_ofDocument (reader : Reader) (document : Json) :
    ∃ outcome table, ofDocument document reader = some (outcome, ⟨table, reader.expanding⟩) ∧
      (reader.expanding = [] → outcome = readDocument document) := by
  rw [ofDocument, readDocument]
  cases listed : entries? document with
  | none => exact ⟨_, reader.table, rfl, fun _ => rfl⟩
  | some entries =>
    let fresh : Reader := { reader with table := [] }
    change ∃ outcome table, (entries.forM enter >>= fun _ => get >>= fun reader =>
      reader.table.mapM ofOutline) fresh = some (outcome, ⟨table, reader.expanding⟩) ∧ _
    rw [bind_apply, forM_enter]
    cases read : Outline.readAll entries with
    | mk table stop =>
      cases stop with
      | some failure => exact ⟨_, table, rfl, fun _ => by simp only [read]⟩
      | none =>
        have each := gives_mapM fun outline (_ : outline ∈ table) =>
          gives_ofOutline ⟨table, reader.expanding⟩ outline
        refine ⟨_, table, each, fun closed => ?_⟩
        simp only [closed, read]

end Reading

namespace Reader

/-- Reads a document. -/
def read (reader : Reader) (document : Json) : Except Failure (List Declaration) × Reader :=
  (Reading.ofDocument document reader).get (by
    obtain ⟨outcome, table, ends, _⟩ := Reading.exists_ofDocument reader document
    rw [ends]
    rfl)

/-- Reads documents in turn. -/
def readEach (reader : Reader) : List Json → List (Except Failure (List Declaration))
  | [] => []
  | document :: rest =>
    let (outcome, reader) := reader.read document
    outcome :: reader.readEach rest

end Reader
end NativeRecords.Source
