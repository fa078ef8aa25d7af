/-
# NativeRecords.Proofs.TypeTexts -- the text of a type can be read in one way only

In both languages a type is written as a word, which may be empty, and brackets after it if it has
parts. Swift tells an array from a map only by a mark between the brackets, and a key or a value may
have brackets and marks of its own, so it is not enough to look for a bracket or a mark: one has to
know where the text of a part ends.

It ends where its word ends or its bracket is closed. So of two texts of types that start the same
text, followed by a closing bracket, a mark or nothing, neither goes on where the other ends
(`Spells.unique`), provided that the names in them are words and not those of primitive types.
-/
import NativeRecords.Proofs.Emission

namespace NativeRecords

/-- The type with every reference made one to a record. -/
def SchemaType.untagged : SchemaType → SchemaType
  | .array element => .array element.untagged
  | .map key value => .map key.untagged value.untagged
  | .reference _ name => .reference .record name
  | type => type

namespace Target.Language

/-! ## How types are written -/

/-- The word before the brackets of an array type. -/
def arrayHead : Language → List Char
  | .swift => []
  | .kotlin => ['L', 'i', 's', 't']

/-- The word before the brackets of a map type. -/
def mapHead : Language → List Char
  | .swift => []
  | .kotlin => ['M', 'a', 'p']

/-- The bracket that opens the parts of a type. -/
def opening : Language → Char
  | .swift => '['
  | .kotlin => '<'

/-- The bracket that closes the parts of a type. -/
def closing : Language → Char
  | .swift => ']'
  | .kotlin => '>'

/-- The mark between the key and the value of a map type. -/
def mark : Language → Char
  | .swift => ':'
  | .kotlin => ','

/-- The characters that a type is written with. -/
inductive Spells (language : Language) : SchemaType → List Char → Prop
  | primitive (kind : Primitive) :
      Spells language (.primitive kind) (language.typeWord kind).toList
  | array {element : SchemaType} {chars : List Char} : Spells language element chars →
      Spells language (.array element)
        (language.arrayHead ++ language.opening :: (chars ++ [language.closing]))
  | map {key value : SchemaType} {keyChars valueChars : List Char} :
      Spells language key keyChars → Spells language value valueChars →
      Spells language (.map key value) (language.mapHead ++ language.opening ::
        (keyChars ++ language.mark :: ' ' :: (valueChars ++ [language.closing])))
  | reference (kind : ReferenceKind) (name : String) :
      Spells language (.reference kind name) name.toList

variable {language : Language}

theorem spells_of_typeText {type : SchemaType} {text : String}
    (h : language.typeText type = .ok text) : language.Spells type text.toList := by
  induction type generalizing text with
  | primitive kind =>
    cases h
    exact .primitive kind
  | array element ih =>
    obtain ⟨inner, found, rfl⟩ := map_eq_ok_iff.mp h
    have spelled := Spells.array (ih found)
    cases language <;> simpa [arrayType, arrayHead, opening, closing] using spelled
  | map key value ihKey ihValue =>
    obtain ⟨keyText, keyOk, h⟩ := bind_eq_ok_iff.mp h
    obtain ⟨valueText, valueOk, h⟩ := bind_eq_ok_iff.mp h
    cases h
    have spelled := Spells.map (ihKey keyOk) (ihValue valueOk)
    cases language <;> simpa [mapType, mapHead, opening, closing, mark] using spelled
  | reference kind name =>
    cases h
    exact .reference kind name
  | other word => cases h
  | absent => cases h

/-! ## Where a text ends -/

/-- What may come after the text of a type: nothing, a closing bracket or a mark. -/
def Stops (language : Language) (rest : List Char) : Prop :=
  ∀ c ∈ rest.head?, c = language.closing ∨ c = language.mark

/-- What comes after a word: nothing, or a character that is not of the word. -/
def EndsWord (rest : List Char) : Prop := ∀ c ∈ rest.head?, isWordChar c = false

theorem endsWord_of_stops {rest : List Char} (h : language.Stops rest) : EndsWord rest := by
  intro c first
  rcases h c first with rfl | rfl <;> cases language <;> decide

theorem endsWord_opening (rest : List Char) : EndsWord (language.opening :: rest) := by
  rintro c ⟨⟩
  cases language <;> decide

theorem not_stops_opening (rest : List Char) : ¬ language.Stops (language.opening :: rest) := by
  intro stops
  have first := stops language.opening rfl
  cases language <;> revert first <;> decide

theorem stops_nil : language.Stops [] := by
  rintro c ⟨⟩

theorem stops_closing (rest : List Char) : language.Stops (language.closing :: rest) := by
  rintro c ⟨⟩
  exact .inl rfl

theorem stops_mark (rest : List Char) : language.Stops (language.mark :: rest) := by
  rintro c ⟨⟩
  exact .inr rfl

theorem closing_ne_mark (language : Language) : language.closing ≠ language.mark := by
  cases language <;> decide

/-- A word that starts a text is told by where it ends. -/
theorem eq_of_words {word word' rest rest' : List Char} (same : word ++ rest = word' ++ rest')
    (isWord : ∀ c ∈ word, isWordChar c = true) (isWord' : ∀ c ∈ word', isWordChar c = true)
    (ends : EndsWord rest) (ends' : EndsWord rest') : word = word' ∧ rest = rest' := by
  induction word generalizing word' with
  | nil =>
    cases word' with
    | nil => exact ⟨rfl, same⟩
    | cons c more =>
      subst same
      have outside := ends c rfl
      rw [isWord' c List.mem_cons_self] at outside
      cases outside
  | cons c word ih =>
    cases word' with
    | nil =>
      subst same
      have outside := ends' c rfl
      rw [isWord c List.mem_cons_self] at outside
      cases outside
    | cons c' word' =>
      obtain ⟨rfl, tails⟩ := List.cons.inj same
      obtain ⟨rfl, rests⟩ := ih tails (fun d inside => isWord d (List.mem_cons_of_mem _ inside))
        fun d inside => isWord' d (List.mem_cons_of_mem _ inside)
      exact ⟨rfl, rests⟩

/-! ## One reading -/

/-- A name that can be told from all else in the text of a type: it is a word, and no type word of
the language. -/
structure IsPlainName (language : Language) (name : String) : Prop where
  word : ∀ c ∈ name.toList, isWordChar c = true
  apart : ∀ kind, name ≠ language.typeWord kind

/-- The names of all references in the type are plain. -/
def HasPlainNames (language : Language) (type : SchemaType) : Prop :=
  ∀ kind name, type.Mentions kind name → language.IsPlainName name

theorem hasPlainNames_reference {kind : ReferenceKind} {name : String} :
    language.HasPlainNames (.reference kind name) ↔ language.IsPlainName name := by
  constructor
  · intro plain
    exact plain kind name .here
  · rintro plain _ _ ⟨⟩
    exact plain

theorem hasPlainNames_array {element : SchemaType} :
    language.HasPlainNames (.array element) ↔ language.HasPlainNames element := by
  constructor
  · intro plain kind name mention
    exact plain kind name (.element mention)
  · intro plain kind name mention
    cases mention with
    | element mention => exact plain kind name mention

theorem hasPlainNames_map {key value : SchemaType} :
    language.HasPlainNames (.map key value) ↔
      language.HasPlainNames key ∧ language.HasPlainNames value := by
  constructor
  · intro plain
    exact ⟨fun kind name mention => plain kind name (.key mention),
      fun kind name mention => plain kind name (.value mention)⟩
  · intro plain kind name mention
    cases mention with
    | key mention => exact plain.1 kind name mention
    | value mention => exact plain.2 kind name mention

theorem isWordChar_typeWord (kind : Primitive) :
    ∀ c ∈ (language.typeWord kind).toList, isWordChar c = true :=
  List.all_eq_true.mp (by cases language <;> cases kind <;> rfl)

theorem isWordChar_arrayHead : ∀ c ∈ language.arrayHead, isWordChar c = true :=
  List.all_eq_true.mp (by cases language <;> rfl)

theorem isWordChar_mapHead : ∀ c ∈ language.mapHead, isWordChar c = true :=
  List.all_eq_true.mp (by cases language <;> rfl)

theorem typeWord_injective (language : Language) : Function.Injective language.typeWord := by
  intro kind kind'
  cases language <;> cases kind <;> cases kind' <;> decide

/-- The type has parts, which are written between brackets. -/
inductive IsContainer : SchemaType → Prop
  | array {element : SchemaType} : IsContainer (.array element)
  | map {key value : SchemaType} : IsContainer (.map key value)

section Unique

variable {a b : SchemaType} {chars chars' rest rest' : List Char}

theorem Spells.isWord (h : language.Spells a chars) (simple : ¬ IsContainer a)
    (plain : language.HasPlainNames a) : ∀ c ∈ chars, isWordChar c = true := by
  cases h with
  | primitive kind => exact isWordChar_typeWord kind
  | reference kind name => exact (hasPlainNames_reference.mp plain).word
  | array => exact absurd .array simple
  | map => exact absurd .map simple

theorem Spells.exists_brackets (h : language.Spells a chars) (container : IsContainer a) :
    ∃ head parts, chars = head ++ language.opening :: parts ∧ ∀ c ∈ head, isWordChar c = true := by
  cases container with
  | array =>
    cases h
    exact ⟨_, _, rfl, isWordChar_arrayHead⟩
  | map =>
    cases h
    exact ⟨_, _, rfl, isWordChar_mapHead⟩

/-- A word tells its type, up to what a reference is to. -/
theorem Spells.untagged_eq (h : language.Spells a chars) (h' : language.Spells b chars')
    (simple : ¬ IsContainer a) (simple' : ¬ IsContainer b) (plain : language.HasPlainNames a)
    (plain' : language.HasPlainNames b) (same : chars = chars') : a.untagged = b.untagged := by
  cases h with
  | array => exact absurd .array simple
  | map => exact absurd .map simple
  | primitive kind =>
    cases h' with
    | array => exact absurd .array simple'
    | map => exact absurd .map simple'
    | primitive kind' => rw [typeWord_injective language (String.toList_injective same)]
    | reference kind' name =>
      have named : name = language.typeWord kind := String.toList_injective same.symm
      exact absurd named ((hasPlainNames_reference.mp plain').apart kind)
  | reference kind name =>
    cases h' with
    | array => exact absurd .array simple'
    | map => exact absurd .map simple'
    | primitive kind' =>
      have named : name = language.typeWord kind' := String.toList_injective same
      exact absurd named ((hasPlainNames_reference.mp plain).apart kind')
    | reference kind' name' =>
      have names : name = name' := String.toList_injective same
      rw [SchemaType.untagged, SchemaType.untagged, names]

/-- The text of a type without parts is not the beginning of another. -/
theorem Spells.unique_of_simple (h : language.Spells a chars) (h' : language.Spells b chars')
    (simple : ¬ IsContainer a) (plain : language.HasPlainNames a)
    (plain' : language.HasPlainNames b) (stops : language.Stops rest)
    (stops' : language.Stops rest') (same : chars ++ rest = chars' ++ rest') :
    a.untagged = b.untagged ∧ rest = rest' := by
  have isWord := h.isWord simple plain
  have ends := endsWord_of_stops stops
  by_cases container : IsContainer b
  · -- the bracket of `b` would come after the word of `a`
    obtain ⟨head, parts, rfl, isHead⟩ := h'.exists_brackets container
    rw [List.append_assoc, List.cons_append] at same
    obtain ⟨_, rfl⟩ := eq_of_words same isWord isHead ends (endsWord_opening _)
    exact absurd stops (not_stops_opening _)
  · have isWord' := h'.isWord container plain'
    obtain ⟨words, rests⟩ := eq_of_words same isWord isWord' ends (endsWord_of_stops stops')
    exact ⟨h.untagged_eq h' simple container plain plain' words, rests⟩

theorem parts_eq {head head' parts parts' : List Char}
    (same : head ++ language.opening :: parts = head' ++ language.opening :: parts')
    (isHead : ∀ c ∈ head, isWordChar c = true) (isHead' : ∀ c ∈ head', isWordChar c = true) :
    parts = parts' := by
  have rests := (eq_of_words same isHead isHead' (endsWord_opening _) (endsWord_opening _)).2
  exact (List.cons.inj rests).2

/-- Texts that start the same text are those of one type, up to what its references are to. -/
theorem Spells.unique (h : language.Spells a chars) (h' : language.Spells b chars')
    (plain : language.HasPlainNames a) (plain' : language.HasPlainNames b)
    (stops : language.Stops rest) (stops' : language.Stops rest')
    (same : chars ++ rest = chars' ++ rest') : a.untagged = b.untagged ∧ rest = rest' := by
  -- The texts are followed from the outside in. An array and a map may have the same bracket, but
  -- then the key of the map has the text of the element, with a mark after it in place of a bracket.
  induction h generalizing b chars' rest rest' with
  | primitive kind =>
    exact (Spells.primitive kind).unique_of_simple h' nofun plain plain' stops stops' same
  | reference kind name =>
    exact (Spells.reference kind name).unique_of_simple h' nofun plain plain' stops stops' same
  | array inner ih =>
    have plainElement := hasPlainNames_array.mp plain
    by_cases container : IsContainer b
    · cases container with
      | array =>
        cases h' with
        | array inner' =>
          simp only [List.append_assoc, List.cons_append, List.nil_append] at same
          have parts := parts_eq same isWordChar_arrayHead isWordChar_arrayHead
          obtain ⟨elements, rests⟩ :=
            ih inner' plainElement (hasPlainNames_array.mp plain') (stops_closing _) (stops_closing _) parts
          rw [SchemaType.untagged, SchemaType.untagged, elements]
          exact ⟨rfl, (List.cons.inj rests).2⟩
      | map =>
        cases h' with
        | map key' value' =>
          simp only [List.append_assoc, List.cons_append, List.nil_append] at same
          have parts := parts_eq same isWordChar_arrayHead isWordChar_mapHead
          obtain ⟨_, rests⟩ :=
            ih key' plainElement (hasPlainNames_map.mp plain').1 (stops_closing _) (stops_mark _) parts
          exact absurd (List.cons.inj rests).1 (closing_ne_mark language)
    · obtain ⟨types, rests⟩ :=
        h'.unique_of_simple (.array inner) container plain' plain stops' stops same.symm
      exact ⟨types.symm, rests.symm⟩
  | map key value ihKey ihValue =>
    obtain ⟨plainKey, plainValue⟩ := hasPlainNames_map.mp plain
    by_cases container : IsContainer b
    · cases container with
      | array =>
        cases h' with
        | array inner' =>
          simp only [List.append_assoc, List.cons_append, List.nil_append] at same
          have parts := parts_eq same isWordChar_mapHead isWordChar_arrayHead
          obtain ⟨_, rests⟩ :=
            ihKey inner' plainKey (hasPlainNames_array.mp plain') (stops_mark _) (stops_closing _) parts
          exact absurd (List.cons.inj rests).1.symm (closing_ne_mark language)
      | map =>
        cases h' with
        | map key' value' =>
          obtain ⟨plainKey', plainValue'⟩ := hasPlainNames_map.mp plain'
          simp only [List.append_assoc, List.cons_append, List.nil_append] at same
          have parts := parts_eq same isWordChar_mapHead isWordChar_mapHead
          obtain ⟨keys, rests⟩ :=
            ihKey key' plainKey plainKey' (stops_mark _) (stops_mark _) parts
          have parts := (List.cons.inj (List.cons.inj rests).2).2
          obtain ⟨values, rests⟩ :=
            ihValue value' plainValue plainValue' (stops_closing _) (stops_closing _) parts
          rw [SchemaType.untagged, SchemaType.untagged, keys, values]
          exact ⟨rfl, (List.cons.inj rests).2⟩
    · obtain ⟨types, rests⟩ :=
        h'.unique_of_simple (.map key value) container plain' plain stops' stops same.symm
      exact ⟨types.symm, rests.symm⟩

end Unique

theorem typeText_untagged (language : Language) (type : SchemaType) :
    language.typeText type.untagged = language.typeText type := by
  induction type with
  | array element ih => rw [SchemaType.untagged, typeText, typeText, ih]
  | map key value ihKey ihValue => rw [SchemaType.untagged, typeText, typeText, ihKey, ihValue]
  | primitive | reference | other | absent => rfl

/-- **The text of a type tells the type**, up to whether its references are to enums or to records,
as long as the names in it are words and not type words of the language. -/
theorem typeText_unambiguous (language : Language) {a b : SchemaType} (whole : a.Expressible)
    (plain : language.HasPlainNames a) (plain' : language.HasPlainNames b) :
    language.typeText a = language.typeText b ↔ a.untagged = b.untagged := by
  constructor
  · intro same
    obtain ⟨text, found⟩ := exists_typeText language whole
    have spelled := spells_of_typeText found
    have spelled' := spells_of_typeText (same.symm.trans found)
    exact (spelled.unique spelled' plain plain' stops_nil stops_nil rfl).1
  · intro same
    rw [← typeText_untagged language a, same, typeText_untagged]

/-- In `[Kind: [Item]]` the name `Kind` may be that of an enum or of a record, but the whole is no
array of maps, which is written `[[Kind: Item]]`. -/
theorem typeText_unambiguous_map_of_arrays :
    let item := SchemaType.reference .record "Item"
    let byKind (tag : ReferenceKind) := SchemaType.map (.reference tag "Kind") (.array item)
    typeText .swift (byKind .enum) = typeText .swift (byKind .record) ∧
      typeText .swift (byKind .enum) ≠
        typeText .swift (.array (.map (.reference .enum "Kind") item)) := by
  intro item byKind
  have whole : (byKind .enum).Expressible := .map (.reference _ _) (.array (.reference _ _))
  have plainKind (tag : ReferenceKind) : HasPlainNames .swift (.reference tag "Kind") :=
    hasPlainNames_reference.mpr ⟨List.all_eq_true.mp rfl, by rintro ⟨⟩ <;> decide⟩
  have plainItem : HasPlainNames .swift item :=
    hasPlainNames_reference.mpr ⟨List.all_eq_true.mp rfl, by rintro ⟨⟩ <;> decide⟩
  have plain (tag : ReferenceKind) : HasPlainNames .swift (byKind tag) :=
    hasPlainNames_map.mpr ⟨plainKind tag, hasPlainNames_array.mpr plainItem⟩
  constructor
  · exact (typeText_unambiguous .swift whole (plain _) (plain _)).mpr rfl
  · have plainPairs := hasPlainNames_array.mpr (hasPlainNames_map.mpr ⟨plainKind .enum, plainItem⟩)
    rw [Ne, typeText_unambiguous .swift whole (plain _) plainPairs]
    exact nofun

end Target.Language
end NativeRecords
