/-
# NativeRecords.Proofs.Grammar -- which documents are read

Reading a type looks up the names in it and expands the aliases among them, so whether one
declaration is read seems to hang on all the others. It does not: this module gives a grammar in
which every entry of a document is judged on its own and every string is a type, and shows that the
documents that are read are those of the grammar.

An entry that is read is well formed, because a malformed part stays in its place until it is met.
Conversely, what an expansion meets in another declaration would have failed that declaration too,
so in a document of well-formed entries every look-up succeeds.
-/
import NativeRecords.Proofs.Agreement

namespace NativeRecords.Source

/-! ## The grammar -/

namespace Grammar

/-- The parts of which an object has one if it is a type. -/
inductive Part where
  | array
  | generic
  | union
  | literal
  | object

/-- The name of the field that holds a part. -/
def Part.key : Part → String
  | .array => "array"
  | .generic => "generic"
  | .union => "union"
  | .literal => "literal"
  | .object => "object"

/-- The parts in the order in which they are looked for. -/
def Part.all : List Part := [.array, .generic, .union, .literal, .object]

/-- The first part that an object has, with its content. -/
def firstPart? (fields : List (String × Json)) : Option (Part × Json) :=
  Part.all.findSome? fun part => (Json.field? part.key fields).map (part, ·)

/-- A string or a number. -/
inductive IsScalar : Json → Prop
  | str (s : String) : IsScalar (.str s)
  | int (n : Int) : IsScalar (.int n)
  | float (x : Binary64) : IsScalar (.float x)

/-- What counts as a list inside a declaration, with its items: besides an array, a string for its
characters and an object for the names of its fields. -/
inductive Lists : Json → List Json → Prop
  | arr (items : List Json) : Lists (.arr items) items
  | str (s : String) : Lists (.str s) (s.toList.map fun c => .str (String.singleton c))
  | obj (fields : List (String × Json)) : Lists (.obj fields) (fields.map fun field => .str field.1)

/-- The items that a field lists. A missing field lists none. -/
inductive ListsAt (fields : List (String × Json)) (key : String) : List Json → Prop
  | missing : Json.field? key fields = none → ListsAt fields key []
  | present {content : Json} {items : List Json} :
      Json.field? key fields = some content → Lists content items → ListsAt fields key items

mutual

/-- A well-formed type. -/
inductive IsType : Json → Prop
  | name (s : String) : IsType (.str s)
  | bareArray {fields : List (String × Json)} :
      firstPart? fields = some (.array, .null) → IsType (.obj fields)
  | array {fields : List (String × Json)} {element : Json} :
      firstPart? fields = some (.array, element) → IsType element → IsType (.obj fields)
  | generic {fields : List (String × Json)} {name : Json} {arguments : List Json} :
      firstPart? fields = some (.generic, name) →
      ListsAt fields "arguments" arguments →
      (∀ argument ∈ arguments, IsType argument) → IsType (.obj fields)
  | union {fields : List (String × Json)} {content : Json} {members : List Json} :
      firstPart? fields = some (.union, content) → Lists content members →
      (∀ member ∈ members, IsType member) → IsType (.obj fields)
  | literal {fields : List (String × Json)} {value : Json} :
      firstPart? fields = some (.literal, value) → IsScalar value → IsType (.obj fields)
  | object {fields : List (String × Json)} {content : Json} {properties : List Json} :
      firstPart? fields = some (.object, content) → Lists content properties →
      (∀ property ∈ properties, IsProperty property) → IsType (.obj fields)

/-- A well-formed property. -/
inductive IsProperty : Json → Prop
  | typed {fields : List (String × Json)} {name : String} {type : Json} :
      Json.field? "name" fields = some (.str name) → Json.field? "type" fields = some type →
      IsType type → IsProperty (.obj fields)

end

/-- A well-formed member of an enum. -/
inductive IsMember : Json → Prop
  | name (s : String) : IsMember (.str s)
  | object {fields : List (String × Json)} {name : String} :
      Json.field? "name" fields = some (.str name) →
      (∀ value, Json.field? "value" fields = some value → value = .null ∨ IsScalar value) →
      IsMember (.obj fields)

/-- The fields declare a name of this kind. -/
structure Declares (fields : List (String × Json)) (kind name : String) : Prop where
  named : Json.field? "name" fields = some (.str name)
  nonempty : name ≠ ""
  kind : Json.field? "kind" fields = some (.str kind)

/-- A well-formed entry that declares `name`. -/
inductive IsEntry : Json → String → Prop
  | enum {fields : List (String × Json)} {name : String} {members : List Json} :
      Declares fields "enum" name →
      ListsAt fields "members" members →
      (∀ member ∈ members, IsMember member) → IsEntry (.obj fields) name
  | interface {fields : List (String × Json)} {name : String} {properties : List Json} :
      Declares fields "interface" name →
      ListsAt fields "properties" properties →
      (∀ property ∈ properties, IsProperty property) → IsEntry (.obj fields) name
  | typeAlias {fields : List (String × Json)} {name : String} {type : Json} :
      Declares fields "type-alias" name → Json.field? "type" fields = some type → IsType type →
      IsEntry (.obj fields) name

/-- The document consists of these entries: it is a list, or an object that may have one. -/
inductive Holds : Json → List Json → Prop
  | list (entries : List Json) : Holds (.arr entries) entries
  | object {fields : List (String × Json)} {entries : List Json} :
      Json.field? "declarations" fields = some (.arr entries) → Holds (.obj fields) entries
  | empty {fields : List (String × Json)} :
      Json.field? "declarations" fields = none → Holds (.obj fields) []

/-- A well-formed document that declares these names, in this order. -/
def IsDocument (document : Json) (names : List String) : Prop :=
  ∃ entries, Holds document entries ∧ List.Forall₂ IsEntry entries names

end Grammar

open Grammar

/-! ## Lists and parts -/

theorem items?_eq_some_iff {raw : Json} {items : List Json} :
    raw.items? = some items ↔ Lists raw items := by
  constructor
  · intro h
    cases raw <;> cases h <;> constructor
  · intro h
    cases h <;> rfl

theorem items?_listField_iff {fields : List (String × Json)} {key : String} {items : List Json} :
    (Outline.listField key fields).items? = some items ↔ ListsAt fields key items := by
  rw [Outline.listField, items?_eq_some_iff]
  constructor
  · intro h
    cases held : Json.field? key fields with
    | none =>
      rw [held] at h
      cases h
      exact .missing held
    | some content =>
      rw [held] at h
      exact .present held h
  · intro h
    cases h with
    | missing absent =>
      rw [absent]
      exact .arr []
    | present held listed =>
      rw [held]
      exact listed

theorem TypeExpr.ofItems_eq_map (items : List Json) :
    TypeExpr.ofItems items = items.map TypeExpr.ofJson := by
  induction items with
  | nil => rw [TypeExpr.ofItems, List.map_nil]
  | cons item items ih => rw [TypeExpr.ofItems, List.map_cons, ih]

/-- A list of types is read item by item. -/
theorem TypeExpr.listOfJson_eq (raw : Json) :
    TypeExpr.listOfJson raw =
      match raw.items? with
      | some items => items.map TypeExpr.ofJson
      | none => [.malformed .notAList] := by
  cases raw with
  | arr items => rw [TypeExpr.listOfJson, Json.items?, TypeExpr.ofItems_eq_map]
  | str s => simp [TypeExpr.listOfJson, Json.items?, TypeExpr.ofJson]
  | obj fields => simp [TypeExpr.listOfJson, Json.items?, TypeExpr.ofJson]
  | null | bool _ | int _ | float _ => simp [TypeExpr.listOfJson, Json.items?]

theorem PropertyExpr.ofItems_eq_map (owner : String) (items : List Json) :
    PropertyExpr.ofItems owner items = items.map (PropertyExpr.ofJson owner) := by
  induction items with
  | nil => rw [PropertyExpr.ofItems, List.map_nil]
  | cons item items ih => rw [PropertyExpr.ofItems, List.map_cons, ih]

theorem PropertyExpr.ofJson_str (owner s : String) :
    PropertyExpr.ofJson owner (.str s) = .malformed (.malformed (.namelessProperty owner)) := by
  simp [PropertyExpr.ofJson]

/-- A list of properties is read item by item. -/
theorem PropertyExpr.listOfJson_eq (owner : String) (raw : Json) :
    PropertyExpr.listOfJson owner raw =
      match raw.items? with
      | some items => items.map (PropertyExpr.ofJson owner)
      | none => [.malformed .notAList] := by
  cases raw with
  | arr items => rw [PropertyExpr.listOfJson, Json.items?, PropertyExpr.ofItems_eq_map]
  | str s =>
    simp only [PropertyExpr.listOfJson, Json.items?, List.map_map]
    exact List.map_congr_left fun c _ => (ofJson_str owner _).symm
  | obj fields =>
    simp only [PropertyExpr.listOfJson, Json.items?, List.map_map]
    exact List.map_congr_left fun field _ => (ofJson_str owner _).symm
  | null | bool _ | int _ | float _ => simp [PropertyExpr.listOfJson, Json.items?]

/-- An object is read by its first part. -/
theorem TypeExpr.ofJson_obj (fields : List (String × Json)) :
    TypeExpr.ofJson (.obj fields) =
      match firstPart? fields with
      | some (.array, .null) => .bareArray
      | some (.array, element) => .array (TypeExpr.ofJson element)
      | some (.generic, name) =>
        .generic name.text (TypeExpr.listOfJson (Outline.listField "arguments" fields))
      | some (.union, members) => .union (TypeExpr.listOfJson members)
      | some (.literal, value) => .ofLiteral value
      | some (.object, properties) => .object (PropertyExpr.listOfJson objectOwner properties)
      | none => .malformed (.malformed (.typeExpression (.obj fields))) := by
  rw [TypeExpr.ofJson]
  simp only [firstPart?, Part.all, List.findSome?_cons, Part.key]
  -- key by key, in the order in which they are looked for
  split
  · rename_i array
    simp [array]
  · rename_i element notNull array
    simp [array]
  · rename_i array
    split
    · rename_i name generic
      split
      · rename_i arguments listed
        simp [array, generic, Outline.listField, listed]
      · rename_i missing
        simp [array, generic, Outline.listField, missing, TypeExpr.listOfJson_eq, Json.items?]
    · rename_i generic
      split
      · rename_i members union
        simp [array, generic, union]
      · rename_i union
        split
        · rename_i value literal
          simp [array, generic, union, literal]
        · rename_i literal
          split
          · rename_i properties object
            simp [array, generic, union, literal, object]
          · rename_i object
            simp [array, generic, union, literal, object]

/-- The part that an expression was read from. -/
def TypeExpr.part? : TypeExpr → Option Part
  | .array _ | .bareArray => some .array
  | .generic _ _ => some .generic
  | .union _ => some .union
  | .literal _ => some .literal
  | .object _ => some .object
  | .named _ | .malformed _ => none

/-- An expression that was read from a part was read from the first part of an object. -/
theorem exists_firstPart? {raw : Json} {part : Part} (h : (TypeExpr.ofJson raw).part? = some part) :
    ∃ fields content, raw = .obj fields ∧ firstPart? fields = some (part, content) := by
  cases raw with
  | obj fields =>
    rw [TypeExpr.ofJson_obj] at h
    split at h <;> rename_i first
    · cases h
      exact ⟨fields, _, rfl, first⟩
    · cases h
      exact ⟨fields, _, rfl, first⟩
    · cases h
      exact ⟨fields, _, rfl, first⟩
    · cases h
      exact ⟨fields, _, rfl, first⟩
    · rw [TypeExpr.ofLiteral] at h
      split at h <;> cases h
      exact ⟨fields, _, rfl, first⟩
    · cases h
      exact ⟨fields, _, rfl, first⟩
    · cases h
  | str name =>
    rw [TypeExpr.ofJson] at h
    cases h
  | null | bool _ | int _ | float _ | arr _ => simp [TypeExpr.ofJson, TypeExpr.part?] at h

/-- Only a string is read as a name. -/
theorem eq_str_of_ofJson {raw : Json} {name : String} (h : TypeExpr.ofJson raw = .named name) :
    raw = .str name := by
  cases raw with
  | str own =>
    rw [TypeExpr.ofJson] at h
    cases h
    rfl
  | obj fields =>
    rw [TypeExpr.ofJson_obj] at h
    split at h <;> try cases h
    rw [TypeExpr.ofLiteral] at h
    split at h <;> cases h
  | null | bool _ | int _ | float _ | arr _ => simp [TypeExpr.ofJson] at h

/-! ## One step into a type

The grammar and the reader both go from an object to its first part. They ask the same of the part,
given what they ask of the types in it. -/

namespace Grammar

/-- A property with a name and a good type. -/
def HasType (Good : Json → Prop) (raw : Json) : Prop :=
  ∃ fields name type, raw = .obj fields ∧ Json.field? "name" fields = some (.str name) ∧
    Json.field? "type" fields = some type ∧ Good type

/-- The content of the part is good, given which types are. -/
def Part.Admits (Good : Json → Prop) (fields : List (String × Json)) (content : Json) : Part → Prop
  | .array => content = .null ∨ Good content
  | .generic => ∃ arguments, ListsAt fields "arguments" arguments ∧ ∀ type ∈ arguments, Good type
  | .union => ∃ members, Lists content members ∧ ∀ type ∈ members, Good type
  | .literal => IsScalar content
  | .object =>
    ∃ properties, Lists content properties ∧ ∀ property ∈ properties, HasType Good property

theorem isProperty_iff {raw : Json} : IsProperty raw ↔ HasType IsType raw := by
  constructor
  · rintro ⟨named, typed, type⟩
    exact ⟨_, _, _, rfl, named, typed, type⟩
  · rintro ⟨fields, name, type, rfl, named, typed, h⟩
    exact .typed named typed h

theorem isType_obj_iff {fields : List (String × Json)} :
    IsType (.obj fields) ↔
      ∃ part content, firstPart? fields = some (part, content) ∧
        part.Admits IsType fields content := by
  constructor
  · intro h
    cases h with
    | bareArray first => exact ⟨_, _, first, .inl rfl⟩
    | array first element => exact ⟨_, _, first, .inr element⟩
    | generic first listed each => exact ⟨_, _, first, _, listed, each⟩
    | union first listed each => exact ⟨_, _, first, _, listed, each⟩
    | literal first scalar => exact ⟨_, _, first, scalar⟩
    | object first listed each =>
      exact ⟨_, _, first, _, listed, fun property inside =>
        isProperty_iff.mp (each property inside)⟩
  · rintro ⟨part, content, first, admitted⟩
    cases part with
    | array =>
      rcases admitted with rfl | element
      · exact .bareArray first
      · exact .array first element
    | generic =>
      obtain ⟨arguments, listed, each⟩ := admitted
      exact .generic first listed each
    | union =>
      obtain ⟨members, listed, each⟩ := admitted
      exact .union first listed each
    | literal => exact .literal first admitted
    | object =>
      obtain ⟨properties, listed, each⟩ := admitted
      exact .object first listed fun property inside => isProperty_iff.mpr (each property inside)

/-- A string, or a value smaller than the whole. -/
def Below (whole raw : Json) : Prop :=
  (∃ s, raw = .str s) ∨ sizeOf raw < sizeOf whole

theorem Below.mono {part whole raw : Json} (h : Below part raw)
    (smaller : sizeOf part < sizeOf whole) : Below whole raw :=
  h.imp_right fun small => Nat.lt_trans small smaller

theorem sizeOf_lt_obj {fields : List (String × Json)} {key : String} {value : Json}
    (held : Json.field? key fields = some value) : sizeOf value < sizeOf (Json.obj fields) := by
  have smaller := Json.sizeOf_field? held
  rw [Json.obj.sizeOf_spec]
  omega

/-- The first part of an object is one of its fields. -/
theorem field?_of_firstPart? {fields : List (String × Json)} {part : Part} {content : Json}
    (first : firstPart? fields = some (part, content)) :
    Json.field? part.key fields = some content := by
  obtain ⟨other, _, found⟩ := List.exists_of_findSome?_eq_some first
  obtain ⟨value, held, same⟩ := Option.map_eq_some_iff.mp found
  cases same
  exact held

theorem sizeOf_of_firstPart? {fields : List (String × Json)} {part : Part} {content : Json}
    (first : firstPart? fields = some (part, content)) :
    sizeOf content < sizeOf (Json.obj fields) :=
  sizeOf_lt_obj (field?_of_firstPart? first)

theorem Lists.below {raw item : Json} {items : List Json} (h : Lists raw items)
    (inside : item ∈ items) : Below raw item := by
  cases h with
  | arr =>
    have smaller := List.sizeOf_lt_of_mem inside
    refine .inr ?_
    rw [Json.arr.sizeOf_spec]
    omega
  | str s =>
    obtain ⟨c, _, rfl⟩ := List.mem_map.mp inside
    exact .inl ⟨_, rfl⟩
  | obj fields =>
    obtain ⟨field, _, rfl⟩ := List.mem_map.mp inside
    exact .inl ⟨_, rfl⟩

theorem ListsAt.below {fields : List (String × Json)} {key : String} {item : Json}
    {items : List Json} (h : ListsAt fields key items) (inside : item ∈ items) :
    Below (.obj fields) item := by
  cases h with
  | missing => cases inside
  | present held listed => exact (listed.below inside).mono (sizeOf_lt_obj held)

variable {Good Fine : Json → Prop}

/-- A property is not a string, so below a value it is smaller. -/
theorem HasType.sizeOf_lt {whole property : Json} (h : HasType Good property)
    (below : Below whole property) : sizeOf property < sizeOf whole := by
  obtain ⟨fields, name, type, rfl, _⟩ := h
  rcases below with ⟨s, same⟩ | smaller
  · cases same
  · exact smaller

/-- What is asked of a property grows with what is asked of its type. -/
theorem HasType.imp {property : Json} (h : HasType Good property)
    (step : ∀ type, sizeOf type < sizeOf property → Good type → Fine type) :
    HasType Fine property := by
  obtain ⟨fields, name, type, rfl, named, typed, good⟩ := h
  exact ⟨fields, name, type, rfl, named, typed, step type (sizeOf_lt_obj typed) good⟩

/-- What is asked of a part grows with what is asked of the types below it. -/
theorem Part.Admits.imp {fields : List (String × Json)} {part : Part} {content : Json}
    (h : part.Admits Good fields content) (first : firstPart? fields = some (part, content))
    (step : ∀ type, Below (.obj fields) type → Good type → Fine type) :
    part.Admits Fine fields content := by
  have smaller := sizeOf_of_firstPart? first
  cases part with
  | array => exact h.imp_right (step content (.inr smaller))
  | generic =>
    obtain ⟨arguments, listed, each⟩ := h
    exact ⟨arguments, listed, fun type inside => step type (listed.below inside) (each type inside)⟩
  | union =>
    obtain ⟨members, listed, each⟩ := h
    exact ⟨members, listed, fun type inside =>
      step type ((listed.below inside).mono smaller) (each type inside)⟩
  | literal => exact h
  | object =>
    obtain ⟨properties, listed, each⟩ := h
    refine ⟨properties, listed, fun property inside => ?_⟩
    have inner := (each property inside).sizeOf_lt ((listed.below inside).mono smaller)
    exact (each property inside).imp fun type small => step type (.inr (Nat.lt_trans small inner))

end Grammar

/-! ## What is read, given what every name stands for -/

section Lookup

variable {refer : String → Except Failure Descriptor}

/-- The type is read. -/
def Reads (refer : String → Except Failure Descriptor) (raw : Json) : Prop :=
  ∃ type, (TypeExpr.ofJson raw).classify refer = .ok type

theorem isScalar_iff {value : Json} :
    IsScalar value ↔ ∃ raw, RawValue.ofJson? value = some raw := by
  constructor
  · rintro (s | n | x)
    · exact ⟨.text s, rfl⟩
    · exact ⟨.int n, rfl⟩
    · exact ⟨.float x, rfl⟩
  · rintro ⟨raw, h⟩
    cases value with
    | str s => exact .str s
    | int n => exact .int n
    | float x => exact .float x
    | null | bool _ | arr _ | obj _ => cases h

theorem classify_ofLiteral_iff {value : Json} :
    (∃ type, (TypeExpr.ofLiteral value).classify refer = .ok type) ↔ IsScalar value := by
  rw [isScalar_iff, TypeExpr.ofLiteral]
  cases RawValue.ofJson? value with
  | none => simp [TypeExpr.classify]
  | some raw => simp [TypeExpr.classify]

/-- A list of types is read exactly if it is one and each item is read. -/
theorem classifyAll_types_iff {raw : Json} :
    (∃ types, TypeExpr.classifyAll refer (TypeExpr.listOfJson raw) = .ok types) ↔
      ∃ items, raw.items? = some items ∧ ∀ item ∈ items, Reads refer item := by
  rw [TypeExpr.classifyAll_eq_mapM, exists_mapM_eq_ok_iff, TypeExpr.listOfJson_eq]
  cases raw.items? with
  | none => simp [TypeExpr.classify]
  | some items => simp [Reads]

/-- The value is read as this property: it has a name and a type that is read, and any true value
marks it as optional. -/
def ReadsAs (refer : String → Except Failure Descriptor) (raw : Json) (property : Property) : Prop :=
  ∃ fields name written type, raw = .obj fields ∧ Json.field? "name" fields = some (.str name) ∧
    Json.field? "type" fields = some written ∧
    (TypeExpr.ofJson written).classify refer = .ok type ∧
    property = .typed name type (Json.fieldOrNull "optional" fields).truthy

theorem classify_property_eq_ok_iff {owner : String} {raw : Json} {property : Property} :
    (PropertyExpr.ofJson owner raw).classify refer = .ok property ↔ ReadsAs refer raw property := by
  constructor
  · intro h
    unfold PropertyExpr.ofJson at h
    split at h
    · rename_i fields
      split at h
      · rename_i name named
        split at h
        · rename_i written typed
          rw [PropertyExpr.classify] at h
          obtain ⟨type, classified, same⟩ := map_eq_ok_iff.mp h
          exact ⟨fields, name, written, type, rfl, named, typed, classified, same.symm⟩
        · cases h
      · cases h
    · cases h
  · rintro ⟨fields, name, written, type, rfl, named, typed, classified, rfl⟩
    rw [PropertyExpr.ofJson]
    simp only [named]
    split <;> rename_i typed' <;> rw [typed] at typed' <;> cases typed'
    rw [PropertyExpr.classify, classified]
    rfl

/-- A property is read exactly if it has a name and a type that is read. -/
theorem classify_property_iff {owner : String} {raw : Json} :
    (∃ property, (PropertyExpr.ofJson owner raw).classify refer = .ok property) ↔
      HasType (Reads refer) raw := by
  simp only [classify_property_eq_ok_iff]
  constructor
  · rintro ⟨_, fields, name, written, type, same, named, typed, classified, _⟩
    exact ⟨fields, name, written, same, named, typed, type, classified⟩
  · rintro ⟨fields, name, written, same, named, typed, type, classified⟩
    exact ⟨_, fields, name, written, type, same, named, typed, classified, rfl⟩

/-- A list of properties is read exactly if it is one and each item is a property whose type is
read. -/
theorem classifyAll_properties_iff {owner : String} {raw : Json} :
    (∃ typed, PropertyExpr.classifyAll refer (PropertyExpr.listOfJson owner raw) = .ok typed) ↔
      ∃ items, raw.items? = some items ∧ ∀ item ∈ items, HasType (Reads refer) item := by
  rw [PropertyExpr.classifyAll_eq_mapM, exists_mapM_eq_ok_iff, PropertyExpr.listOfJson_eq]
  cases raw.items? with
  | none => simp [PropertyExpr.classify]
  | some items => simp [classify_property_iff]

theorem reads_obj_iff {fields : List (String × Json)} :
    Reads refer (.obj fields) ↔
      ∃ part content, firstPart? fields = some (part, content) ∧
        part.Admits (Reads refer) fields content := by
  rw [Reads, TypeExpr.ofJson_obj]
  cases first : firstPart? fields with
  | none => simp [TypeExpr.classify]
  | some found =>
    obtain ⟨part, content⟩ := found
    simp only [Option.some.injEq, Prod.mk.injEq, existsAndEq, true_and, and_true]
    cases part with
    | array =>
      by_cases empty : content = .null
      · subst empty
        simp [TypeExpr.classify, Part.Admits]
      · simp only [Part.Admits, empty, false_or, TypeExpr.classify, exists_map_eq_ok_iff]
        rfl
    | generic =>
      simp only [TypeExpr.classify, exists_map_eq_ok_iff, classifyAll_types_iff,
        items?_listField_iff, Part.Admits]
    | union =>
      simp only [TypeExpr.classify, exists_map_eq_ok_iff, classifyAll_types_iff,
        items?_eq_some_iff, Part.Admits]
    | literal => exact classify_ofLiteral_iff
    | object =>
      simp only [TypeExpr.classify, exists_map_eq_ok_iff, classifyAll_properties_iff,
        items?_eq_some_iff, Part.Admits]

/-- A type that is read is well formed, whatever its names stand for. -/
theorem isType_of_reads (raw : Json) (h : Reads refer raw) : IsType raw := by
  cases raw with
  | str s => exact .name s
  | obj fields =>
    obtain ⟨part, content, first, admitted⟩ := reads_obj_iff.mp h
    refine isType_obj_iff.mpr ⟨part, content, first, admitted.imp first fun type below read => ?_⟩
    rcases below with ⟨s, rfl⟩ | smaller
    · exact .name s
    · exact isType_of_reads type read
  | null | bool _ | int _ | float _ | arr _ =>
    obtain ⟨type, h⟩ := h
    simp [TypeExpr.ofJson, TypeExpr.classify] at h
termination_by sizeOf raw

theorem exists_classifyName (total : ∀ name, ∃ type, refer name = .ok type) (reversed : List Char) :
    ∃ type, classifyName refer reversed = .ok type := by
  induction reversed using classifyName.induct with
  | case1 rest ih =>
    rw [classifyName]
    exact exists_map_eq_ok_iff.mpr ih
  | case2 reversed plain source builtin =>
    rename_i found
    exact ⟨_, classifyName_of_builtin? plain found⟩
  | case3 reversed plain source =>
    rename_i missing
    rw [classifyName_of_not_builtin? plain missing]
    exact total _

theorem reads_str (total : ∀ name, ∃ type, refer name = .ok type) (s : String) :
    Reads refer (.str s) := by
  rw [Reads, TypeExpr.ofJson, TypeExpr.classify]
  exact exists_classifyName total _

/-- A well-formed type is read, if every name can be looked up. -/
theorem reads_of_isType (total : ∀ name, ∃ type, refer name = .ok type) (raw : Json)
    (h : IsType raw) : Reads refer raw := by
  cases raw with
  | str s => exact reads_str total s
  | obj fields =>
    obtain ⟨part, content, first, admitted⟩ := isType_obj_iff.mp h
    refine reads_obj_iff.mpr ⟨part, content, first, admitted.imp first fun type below good => ?_⟩
    rcases below with ⟨s, rfl⟩ | smaller
    · exact reads_str total s
    · exact reads_of_isType total type good
  | null | bool _ | int _ | float _ | arr _ => cases h
termination_by sizeOf raw

end Lookup

/-! ## Entries -/

theorem memberOfJson_iff {enumName : String} {raw : Json} :
    (∃ member, Outline.memberOfJson enumName raw = .ok member) ↔ IsMember raw := by
  constructor
  · rintro ⟨member, h⟩
    unfold Outline.memberOfJson at h
    split at h
    · exact .name _
    · rename_i fields
      split at h
      · rename_i name named
        refine .object named fun value held => ?_
        rw [Json.fieldOrNull, held, Option.getD_some] at h
        split at h
        · exact .inl rfl
        · split at h
          · rename_i raw found
            exact .inr (isScalar_iff.mpr ⟨raw, found⟩)
          · cases h
      · cases h
    · cases h
  · intro h
    cases h with
    | name s => exact ⟨⟨s, none⟩, rfl⟩
    | object named valued =>
      rename_i fields name
      rw [Outline.memberOfJson]
      simp only [named]
      cases held : Json.field? "value" fields with
      | none => exact ⟨⟨name, none⟩, by simp [Json.fieldOrNull, held]⟩
      | some value =>
        rw [Json.fieldOrNull, held, Option.getD_some]
        rcases valued value held with rfl | scalar
        · exact ⟨⟨name, none⟩, rfl⟩
        · obtain ⟨raw, found⟩ := isScalar_iff.mp scalar
          cases scalar <;> simp [found]

theorem membersOfJson_iff {enumName : String} {raw : Json} :
    (∃ members, Outline.membersOfJson enumName raw = .ok members) ↔
      ∃ items, raw.items? = some items ∧ ∀ item ∈ items, IsMember item := by
  rw [Outline.membersOfJson]
  cases raw.items? with
  | none => simp
  | some items => simp [exists_mapM_eq_ok_iff, memberOfJson_iff]

/-- What the outline of an entry is. -/
inductive Outlined : Json → Outline → Prop
  | enum {fields : List (String × Json)} {name : String} : Declares fields "enum" name →
      Outlined (.obj fields)
        (.enum name (Outline.membersOfJson name (Outline.listField "members" fields)))
  | interface {fields : List (String × Json)} {name : String} : Declares fields "interface" name →
      Outlined (.obj fields)
        (.interface name (PropertyExpr.listOfJson name (Outline.listField "properties" fields)))
  | typeAlias {fields : List (String × Json)} {name : String} : Declares fields "type-alias" name →
      Outlined (.obj fields)
        (.typeAlias name ((Json.field? "type" fields).any Outline.hasObjectPart)
          ((Json.field? "type" fields).map TypeExpr.ofJson))

theorem field?_of_fieldOrNull {fields : List (String × Json)} {key : String} {s : String}
    (h : Json.fieldOrNull key fields = .str s) : Json.field? key fields = some (.str s) := by
  unfold Json.fieldOrNull at h
  cases held : Json.field? key fields with
  | none =>
    rw [held] at h
    cases h
  | some value =>
    rw [held] at h
    exact congrArg some h

theorem outlined_iff {entry : Json} {outline : Outline} :
    Outline.ofJson entry = .ok outline ↔ Outlined entry outline := by
  constructor
  · intro h
    unfold Outline.ofJson at h
    split at h
    · rename_i fields
      split at h
      · rename_i name named
        split at h
        · cases h
        · rename_i nonempty
          split at h <;> cases h <;> rename_i kind
          · exact .enum ⟨named, nonempty, field?_of_fieldOrNull kind⟩
          · exact .interface ⟨named, nonempty, field?_of_fieldOrNull kind⟩
          · exact .typeAlias ⟨named, nonempty, field?_of_fieldOrNull kind⟩
      · cases h
    · cases h
  · intro h
    cases h with
    | enum declares =>
      simp [Outline.ofJson, Json.fieldOrNull, declares.named, declares.nonempty, declares.kind]
    | interface declares =>
      simp [Outline.ofJson, Json.fieldOrNull, declares.named, declares.nonempty, declares.kind]
    | typeAlias declares =>
      simp [Outline.ofJson, Json.fieldOrNull, declares.named, declares.nonempty, declares.kind]

/-- An entry whose outline is classified is well formed, whatever the other entries are. -/
theorem isEntry_of_classify {entry : Json} {outline : Outline} {table : List Outline}
    {expanding : List String} {declaration : Declaration} (outlined : Outlined entry outline)
    (classified : outline.classify table expanding = .ok declaration) :
    IsEntry entry outline.name := by
  cases outlined with
  | enum declares =>
    obtain ⟨members, read, _⟩ := map_eq_ok_iff.mp classified
    obtain ⟨items, listed, each⟩ := membersOfJson_iff.mp ⟨members, read⟩
    exact .enum declares (items?_listField_iff.mp listed) each
  | interface declares =>
    obtain ⟨properties, read, _⟩ := map_eq_ok_iff.mp classified
    obtain ⟨items, listed, each⟩ := classifyAll_properties_iff.mp ⟨properties, read⟩
    exact .interface declares (items?_listField_iff.mp listed) fun property inside =>
      isProperty_iff.mpr ((each property inside).imp fun type _ => isType_of_reads type)
  | typeAlias declares =>
    rename_i fields name
    cases held : Json.field? "type" fields with
    | none =>
      rw [held] at classified
      cases classified
    | some type =>
      rw [held] at classified
      obtain ⟨target, read, _⟩ := map_eq_ok_iff.mp classified
      exact .typeAlias declares held (isType_of_reads type ⟨target, read⟩)

/-- An outline is well formed if it is classified wherever every name can be looked up. -/
def Outline.WellFormed (outline : Outline) : Prop :=
  ∀ table expanding, (∀ name, ∃ type, reference table expanding name = .ok type) →
    ∃ declaration, outline.classify table expanding = .ok declaration

/-- A well-formed entry has an outline, which is well formed. -/
theorem exists_outline_of_isEntry {entry : Json} {name : String} (h : IsEntry entry name) :
    ∃ outline, Outlined entry outline ∧ outline.name = name ∧ outline.WellFormed := by
  cases h with
  | enum declares listed each =>
    refine ⟨_, .enum declares, rfl, fun table expanding _ => ?_⟩
    exact exists_map_eq_ok_iff.mpr
      (membersOfJson_iff.mpr ⟨_, items?_listField_iff.mpr listed, each⟩)
  | interface declares listed each =>
    refine ⟨_, .interface declares, rfl, fun table expanding total => ?_⟩
    refine exists_map_eq_ok_iff.mpr (classifyAll_properties_iff.mpr
      ⟨_, items?_listField_iff.mpr listed, fun property inside => ?_⟩)
    exact (isProperty_iff.mp (each property inside)).imp fun type _ => reads_of_isType total type
  | typeAlias declares held good =>
    refine ⟨_, .typeAlias declares, rfl, fun table expanding total => ?_⟩
    rw [held]
    exact exists_map_eq_ok_iff.mpr (reads_of_isType total _ good)

/-! ## Documents -/

/-- Where all outlines are well formed, every name can be looked up. -/
theorem exists_reference {table : List Outline} (whole : ∀ outline ∈ table, outline.WellFormed)
    (expanding : List String) (name : String) :
    ∃ type, reference table expanding name = .ok type := by
  fun_induction reference table expanding name with
  | case6 expanding name own shaped plain fresh found =>
    -- an alias without a type is not even classified where no name is declared
    have unknown : ∀ name, ∃ type, reference [] [] name = .ok type := fun name =>
      ⟨.other name, by simp [reference]⟩
    obtain ⟨_, classified⟩ := whole _ (List.mem_of_find?_eq_some found) [] [] unknown
    cases classified
  | case7 expanding name own shaped plain fresh expr found _ ih =>
    -- what the expansion meets in the alias, the declaration of the alias meets too
    obtain ⟨_, classified⟩ := whole _ (List.mem_of_find?_eq_some found) table (name :: expanding) ih
    obtain ⟨type, read, _⟩ := map_eq_ok_iff.mp classified
    exact exists_map_eq_ok_iff.mpr ⟨type, read⟩
  | _ => exact ⟨_, rfl⟩

theorem entries?_eq_some_iff {document : Json} {entries : List Json} :
    entries? document = some entries ↔ Holds document entries := by
  constructor
  · intro h
    unfold entries? at h
    split at h
    · cases h
      exact .list _
    · rename_i fields
      split at h <;> cases h
      rename_i listed
      unfold Outline.listField at listed
      cases held : Json.field? "declarations" fields with
      | none =>
        rw [held] at listed
        cases listed
        exact .empty held
      | some content =>
        rw [held] at listed
        cases listed
        exact .object held
    · cases h
  · intro h
    cases h with
    | list => rfl
    | object held => simp [entries?, Outline.listField, held]
    | empty absent => simp [entries?, Outline.listField, absent]

/-- The entries of a document that is read are well formed. -/
theorem isDocument_of_readDocument {document : Json} {declarations : List Declaration}
    (read : readDocument document = .ok declarations) :
    IsDocument document (declarations.map Declaration.name) := by
  obtain ⟨entries, table, listed, outlined, classified⟩ := readDocument_eq_ok_iff.mp read
  refine ⟨entries, entries?_eq_some_iff.mp listed, ?_⟩
  rw [Outline.map_name_of_classify classified, List.forall₂_map_right_iff, List.forall₂_iff_zip]
  refine ⟨outlined.length_eq, fun {entry outline} paired => ?_⟩
  obtain ⟨declaration, _, h⟩ := exists_right_of_forall₂ classified (List.of_mem_zip paired).2
  exact isEntry_of_classify (outlined_iff.mp (List.forall₂_zip outlined paired)) h

/-- A document of well-formed entries is read, and gives what the entries declare. -/
theorem exists_readDocument_of_isDocument {document : Json} {names : List String}
    (h : IsDocument document names) :
    ∃ declarations, readDocument document = .ok declarations ∧
      declarations.map Declaration.name = names := by
  obtain ⟨entries, holds, good⟩ := h
  obtain ⟨table, outlined, sound⟩ :=
    exists_between_of_forall₂ good fun _ _ => exists_outline_of_isEntry
  have whole : ∀ outline ∈ table, outline.WellFormed := by
    intro outline inside
    obtain ⟨_, _, _, formed⟩ := exists_right_of_forall₂ sound inside
    exact formed
  obtain ⟨declarations, classified⟩ := exists_mapM_eq_ok fun outline inside =>
    whole outline inside table [] (exists_reference whole [])
  rw [mapM_eq_ok_iff] at classified
  refine ⟨declarations, readDocument_eq_ok_iff.mpr ⟨entries, table, entries?_eq_some_iff.mpr holds,
    outlined.imp fun _ _ => outlined_iff.mpr, classified⟩, ?_⟩
  calc declarations.map Declaration.name
      = table.map Outline.name := Outline.map_name_of_classify classified
    _ = names.map id := map_eq_map_of_forall₂ sound fun _ _ h => h.1
    _ = names := List.map_id names

/-- The documents that are read are those of the grammar, in which every entry is judged on its own.
A document gives one declaration for each entry, in their order and with their names. -/
theorem readDocument_ok_iff_isDocument (document : Json) (names : List String) :
    (∃ declarations, readDocument document = .ok declarations ∧
      declarations.map Declaration.name = names) ↔ IsDocument document names := by
  constructor
  · rintro ⟨declarations, read, rfl⟩
    exact isDocument_of_readDocument read
  · exact exists_readDocument_of_isDocument

end NativeRecords.Source
