/-
# NativeRecords.Proofs.FirstCase -- what a field of enum type starts with

A required field of enum type starts with the first case of the enum. The name of that case is made
twice: alone, where the field is written, and beside the names of all other cases, where the enum
is. The two agree because the first name finds nothing taken, so it is never told apart by a number.

A field is of enum type if its type is a reference and an enum of the schema has the name. That does
not depend on what the reference takes the name for. The enum is looked up only where it is taken
for an enum, and then it is found and has members, so the look-up never falls back on a call of the
enum's name. An ambiguous alias is taken for a record, and a required field of its type starts with
the call.
-/
import NativeRecords.Proofs.Optionality

namespace NativeRecords

namespace Target.Language

open Schema

/-! ## The characters of identifiers -/

/-- A character that may stand in an identifier: a word character, an underscore, or the mark around
an escaped word. -/
def isIdentifierChar (c : Char) : Bool := isWordChar c || c = '_' || c = '\x60'

theorem isIdentifierChar_of_mem_wordChars {name : List Char} {c : Char} (h : c ∈ wordChars name) :
    isIdentifierChar c = true := by
  obtain ⟨source, _, rfl⟩ := List.mem_map.mp h
  by_cases word : isWordChar source = true
  · simp [isIdentifierChar, word]
  · simp [isIdentifierChar, word]

theorem mem_withLead {chars : List Char} {c : Char} (h : c ∈ withLead chars) :
    c = '_' ∨ c ∈ chars := by
  cases chars with
  | nil => exact .inl (List.mem_singleton.mp h)
  | cons first rest =>
    rw [withLead] at h
    split at h
    · exact List.mem_cons.mp h
    · exact .inr h

theorem isIdentifierChar_of_mem_plain {name : String} {c : Char}
    (h : c ∈ (plainIdentifier name).toList) : isIdentifierChar c = true := by
  rw [plainIdentifier, String.toList_ofList] at h
  rcases mem_withLead h with rfl | inside
  · decide
  · exact isIdentifierChar_of_mem_wordChars inside

theorem isIdentifierChar_of_mem {language : Language} {name : String} {c : Char}
    (h : c ∈ (language.identifier name).toList) : isIdentifierChar c = true := by
  rw [identifier] at h
  split at h
  · rw [escapeWord] at h
    simp only [String.toList_append, List.mem_append] at h
    rcases h with (mark | inside) | mark
    · rw [List.mem_singleton.mp mark]
      decide
    · exact isIdentifierChar_of_mem_plain inside
    · rw [List.mem_singleton.mp mark]
      decide
  · exact isIdentifierChar_of_mem_plain h

/-- A reference to a case is not a call of the enum's name. -/
theorem caseReference_ne_call (language : Language) (enumName : String) {caseName : String}
    (legal : ∀ c ∈ caseName.toList, isIdentifierChar c = true) :
    language.caseReference enumName caseName ≠ enumName ++ "()" := by
  intro same
  have chars := congrArg String.toList same
  cases language with
  | swift =>
    -- the call ends in a character that no identifier has
    have closing : ')' ∈ ("." ++ caseName).toList := by
      change ("." ++ caseName).toList = _ at chars
      rw [chars]
      simp
    simp only [String.toList_append, List.mem_append] at closing
    rcases closing with dot | inside
    · exact absurd dot (by decide)
    · exact absurd (legal _ inside) (by decide)
  | kotlin =>
    -- both start with the name of the enum, and go on with different characters
    simp [caseReference, List.append_assoc] at chars

theorem nullLiteral_ne_call (language : Language) (enumName : String) :
    language.nullLiteral ≠ enumName ++ "()" := by
  intro same
  have last := congrArg (fun s : String => s.toList.getLast?) same
  cases language <;> simp [nullLiteral] at last

/-! ## The first case of an enum -/

/-- The line of a case up to its value. -/
def caseLead : Language → String → String
  | .swift, name => "  case " ++ name ++ " = "
  | .kotlin, name => "  " ++ name ++ "("

theorem exists_caseLines_cons (language : Language) (name value : String)
    (rest : List (String × String)) :
    ∃ line lines, language.caseLines ((name, value) :: rest)
      = (language.caseLead name ++ line) :: lines := by
  cases language with
  | swift => exact ⟨value, _, rfl⟩
  | kotlin =>
    cases rest with
    | nil => exact ⟨value ++ ")", [], by simp [caseLines, caseLead, String.append_assoc]⟩
    | cons next others =>
      exact ⟨value ++ "),", _, by simp [caseLines, caseLead, String.append_assoc]; rfl⟩

/-- The first of several names gets the identifier that it has alone. -/
theorem exists_identifiers_cons (language : Language) (name : String) (names : List String) :
    ∃ more, language.identifiers (name :: names) = language.identifier name :: more := by
  obtain ⟨more, appended, _⟩ :=
    language.exists_identifiers_append names [language.freeIdentifier [] name]
  have alone : language.freeIdentifier [] name = language.identifier name := by
    simp [freeIdentifier]
  refine ⟨more, ?_⟩
  rw [identifiers, List.foldl_cons, List.nil_append, appended, alone, List.singleton_append]

/-- The section of an enum starts with its head and the line of its first case. -/
theorem exists_enumText_append {language : Language} {e : EnumDeclaration} {member : EnumMember}
    {rest : List EnumMember} (members : e.members = member :: rest) :
    ∃ tail, language.enumText e = language.enumHead e.name (language.rawType e) ++ "\n"
      ++ language.caseLead (language.identifier member.name) ++ tail := by
  obtain ⟨more, named⟩ :=
    language.exists_identifiers_cons member.name (rest.map EnumMember.name)
  have cases_eq : language.cases e = (language.identifier member.name, literal member.value)
      :: more.zip (rest.map fun member => literal member.value) := by
    rw [cases, members, List.map_cons, named, List.map_cons, List.zip_cons_cons]
  obtain ⟨line, lines, written⟩ := language.exists_caseLines_cons
    (language.identifier member.name) (literal member.value)
    (more.zip (rest.map fun member => literal member.value))
  refine ⟨"\n".intercalate (line :: (lines ++ ["\x7d"])), ?_⟩
  rw [enumText, cases_eq, written]
  simp only [List.cons_append, String.intercalate_cons_cons, String.intercalate_cons_append,
    String.append_assoc]

/-! ## Fields of enum type -/

/-- The default of a type that names a known enum is the first case of an enum of that name. -/
theorem exists_first_case {language : Language} {enums : List EnumDeclaration}
    {enumName initial : String} (known : ∃ e ∈ enums, e.name = enumName)
    (h : language.defaultText enums (.reference .enum enumName) = .ok initial) :
    ∃ e ∈ enums, ∃ member rest, e.name = enumName ∧ e.members = member :: rest ∧
      initial = language.caseReference enumName (language.identifier member.name) := by
  rw [defaultText] at h
  cases found : findEnum? enums enumName with
  | none =>
    obtain ⟨e, inside, named⟩ := known
    have other := List.find?_eq_none.mp found e (List.mem_reverse.mpr inside)
    exact absurd (decide_eq_true named) other
  | some e =>
    have selected := List.find?_some found
    have named : e.name = enumName := of_decide_eq_true selected
    have inside : e ∈ enums := List.mem_reverse.mp (List.mem_of_find?_eq_some found)
    rw [found] at h
    cases members : e.members with
    | nil =>
      simp only [members] at h
      cases h
    | cons member rest =>
      simp only [members] at h
      cases h
      exact ⟨e, inside, member, rest, named, members, by rw [named]⟩

/-- The field starts with the case that is written first in the section of the enum, above in the
file, and under the name that it has there. -/
def StartsWithFirstCase (language : Language) (above : List String) (e : EnumDeclaration)
    (field : Field) : Prop :=
  ∃ caseName rest, language.enumText e ∈ above ∧
    language.enumText e = language.enumHead e.name (language.rawType e) ++ "\n"
      ++ language.caseLead caseName ++ rest ∧
    (∀ c ∈ caseName.toList, isIdentifierChar c = true) ∧
    field.initial = language.caseReference e.name caseName

/-- What a field starts with whose type is a reference to the name of the enum `e`, as to an enum or
as to a record. Here `Ambiguous` says that the name is that of an ambiguous alias. -/
structure StartsAsEnum (language : Language) (above : List String) (e : EnumDeclaration)
    (Ambiguous : Prop) (kind : ReferenceKind) (property : RecordProperty) (field : Field) :
    Prop where
  /-- The name is taken for that of a record exactly if the alias is ambiguous. -/
  taken : kind = .record ↔ Ambiguous
  /-- A required field has the name of the enum for its type. -/
  shown : property.optional = false → field.type = e.name
  /-- It starts with the first case exactly if the alias is not ambiguous. -/
  first : property.optional = false →
    (language.StartsWithFirstCase above e field ↔ ¬ Ambiguous)
  /-- A call of the enum's name is what the required fields of an ambiguous alias start with, and no
  other field of enum type does. -/
  call : field.initial = e.name ++ "()" ↔ property.optional = false ∧ Ambiguous

theorem StartsWithFirstCase.ne_call {language : Language} {above : List String}
    {e : EnumDeclaration} {field : Field} (h : language.StartsWithFirstCase above e field) :
    field.initial ≠ e.name ++ "()" := by
  obtain ⟨caseName, _, _, _, legal, initial⟩ := h
  rw [initial]
  exact caseReference_ne_call language e.name legal

/-- What a required field starts with whose type is taken for the enum that it is. -/
theorem startsWithFirstCase_of_defaultText {language : Language} {schema : List Declaration}
    {above : List String} {e : EnumDeclaration} {field : Field}
    (distinct : (schema.map Declaration.name).Nodup) (declared : .enum e ∈ schema)
    (written : language.enumText e ∈ above)
    (h : language.defaultText (schema.filterMap Declaration.enum?) (.reference .enum e.name)
      = .ok field.initial) :
    language.StartsWithFirstCase above e field := by
  obtain ⟨found, inside, member, rest, named, members, initial⟩ :=
    exists_first_case ⟨e, mem_filterMap_enum?.mpr declared, rfl⟩ h
  -- names are distinct, so the enum that is found is this one
  have same : Declaration.enum found = .enum e :=
    List.inj_on_of_nodup_map distinct (mem_filterMap_enum?.mp inside) declared named
  cases same
  obtain ⟨tail, text⟩ := exists_enumText_append members
  exact ⟨_, tail, written, text, fun c inside => isIdentifierChar_of_mem inside, initial⟩

/-- A field whose type is a reference to the name of an enum. -/
theorem startsAsEnum_of_fieldNamed {language : Language} {schema : List Declaration}
    {above : List String} {e : EnumDeclaration} {Ambiguous : Prop} {kind : ReferenceKind}
    {name : String} {property : RecordProperty} {field : Field}
    (h : language.fieldNamed (schema.filterMap Declaration.enum?) name property = .ok field)
    (distinct : (schema.map Declaration.name).Nodup) (declared : .enum e ∈ schema)
    (written : language.enumText e ∈ above) (typed : property.type = .reference kind e.name)
    (taken : kind = .record ↔ Ambiguous) :
    language.StartsAsEnum above e Ambiguous kind property field := by
  obtain ⟨text, typeText, optional, required⟩ := shows_of_fieldNamed h
  rw [typed] at typeText required
  cases typeText
  have starts : property.optional = false →
      ¬ Ambiguous ∧ language.StartsWithFirstCase above e field ∨
        Ambiguous ∧ field.initial = e.name ++ "()" := by
    intro needed
    have started := (required (by simp [needed])).2
    cases kind with
    | enum =>
      have clear : ¬ Ambiguous := by
        intro ambiguous
        cases taken.mpr ambiguous
      exact .inl ⟨clear, startsWithFirstCase_of_defaultText distinct declared written started⟩
    | record => exact .inr ⟨taken.mp rfl, (Except.ok.inj started).symm⟩
  constructor
  case taken => exact taken
  case shown => exact fun needed => (required (by simp [needed])).1
  case first =>
    intro needed
    rcases starts needed with ⟨clear, first⟩ | ⟨ambiguous, call⟩
    · exact iff_of_true first clear
    · exact iff_of_false (fun first => first.ne_call call) (fun clear => clear ambiguous)
  case call =>
    by_cases needed : property.optional = false
    · rcases starts needed with ⟨clear, first⟩ | ⟨ambiguous, call⟩
      · exact iff_of_false first.ne_call fun both => clear both.2
      · exact iff_of_true call ⟨needed, ambiguous⟩
    · have null := (optional.mpr (by simpa using needed)).2
      rw [null]
      exact iff_of_false (nullLiteral_ne_call language e.name) fun both => needed both.1

end Target.Language

open Source (AmbiguousAlias readDocument)

/-- A record mentions what the types of its fields are references to. -/
theorem Schema.mentions_of_property {r : Schema.RecordDeclaration}
    {property : Schema.RecordProperty} (listed : property ∈ r.properties) {kind : ReferenceKind}
    {name : String} (typed : property.type = .reference kind name) :
    (Schema.Declaration.record r).Mentions kind name := by
  refine ⟨property, listed, ?_⟩
  rw [typed]
  exact .here

/-- A field of enum type names an enum of the schema. -/
theorem Source.Traced.exists_enum_of_property {document : Json} {table : List Source.Outline}
    {schema : List Schema.Declaration} (traced : Source.Traced document table schema)
    {r : Schema.RecordDeclaration} (inside : .record r ∈ schema)
    {property : Schema.RecordProperty} (listed : property ∈ r.properties) (enumName : String)
    (typed : property.type = .reference .enum enumName) :
    ∃ e, .enum e ∈ schema ∧ e.name = enumName := by
  have mention := Schema.mentions_of_property listed typed
  obtain ⟨resolved, member, named, isEnum⟩ :=
    traced.enum_of_referredAs (traced.referredAs inside mention)
  cases resolved with
  | enum e => exact ⟨e, member, named⟩
  | record other => cases isEnum

/-- The name of an enum is taken for that of a record exactly if it is that of an ambiguous alias. -/
theorem Source.Traced.taken_for_record_iff {document : Json} {table : List Source.Outline}
    {schema : List Schema.Declaration} (traced : Source.Traced document table schema)
    {r : Schema.RecordDeclaration} (inside : .record r ∈ schema)
    {property : Schema.RecordProperty} (listed : property ∈ r.properties)
    {e : Schema.EnumDeclaration} (declared : .enum e ∈ schema) {kind : ReferenceKind}
    (typed : property.type = .reference kind e.name) :
    kind = .record ↔ AmbiguousAlias document e.name := by
  have referred := traced.referredAs inside (Schema.mentions_of_property listed typed)
  cases kind with
  | enum => exact iff_of_false nofun (traced.not_ambiguous_of_referredAs referred)
  | record =>
    obtain ⟨resolved, member, named, isEnum⟩ := traced.record_of_referredAs referred
    -- names are distinct, so what the reference names is the enum
    have same : resolved = .enum e :=
      List.inj_on_of_nodup_map traced.distinctSchema member declared named
    rw [same] at isEnum
    exact iff_of_true rfl (isEnum.mp rfl)

/-- **A required field of enum type starts with the first case, save for ambiguous aliases.** In a
generated file every record of the schema has its section, with a field for each property. What is
referred to as an enum is an enum of the schema. A required field whose type names an enum of the
schema starts with the case that the section of the enum, which stands above, writes first, and
under the same name, exactly if the name is not that of an ambiguous alias. Exactly the required
fields of ambiguous aliases start with a call of the enum's name. -/
theorem enum_fields_start_with_first_case {document : Json}
    {declarations : List Source.Declaration} {languageName : String} {settings : Settings}
    {code : String} (read : readDocument document = .ok declarations)
    (generated : generate languageName settings declarations = .ok code) :
    ∃ (language : Target.Language) (schema : List Schema.Declaration),
      language.name = languageName ∧ Schema.build declarations = .ok schema ∧
      (schema.map Schema.Declaration.name).Nodup ∧
      ∀ r, .record r ∈ schema → ∃ before fields after,
        code = "\n\n".intercalate (before ++ language.recordSection r.name fields :: after) ∧
        (∀ property ∈ r.properties, ∀ enumName, property.type = .reference .enum enumName →
          ∃ e, .enum e ∈ schema ∧ e.name = enumName) ∧
        List.Forall₂ (fun property field => ∀ e kind, .enum e ∈ schema →
          property.type = .reference kind e.name → language.StartsAsEnum before e
            (AmbiguousAlias document e.name) kind property field) r.properties fields := by
  obtain ⟨backend, schema, named, built, written⟩ := Target.exists_schema_of_generate generated
  obtain ⟨table, traced⟩ := Source.exists_traced read built
  refine ⟨backend.language, schema, named, built, traced.distinctSchema, fun r inside => ?_⟩
  obtain ⟨before, fields, after, split, shown, above⟩ := Target.exists_record_section written inside
  refine ⟨before, fields, after, split,
    fun property listed => traced.exists_enum_of_property inside listed, ?_⟩
  have each := (List.forall₂_and_left _ _).mpr ⟨fun property listed => listed, shown⟩
  refine each.imp ?_
  rintro property field ⟨listed, name, fieldNamed⟩ e kind declared typed
  exact Target.Language.startsAsEnum_of_fieldNamed fieldNamed traced.distinctSchema declared
    (above e declared) typed (traced.taken_for_record_iff inside listed declared typed)

/-- An enum whose first case is a reserved word and whose other cases collide, and an interface with
a field of that type. -/
def firstCaseDocument : Json :=
  .arr [.obj [("kind", .str "interface"), ("name", .str "Device"), ("properties",
      .arr [.obj [("name", .str "mode"), ("type", .str "Mode")]])],
    .obj [("kind", .str "enum"), ("name", .str "Mode"), ("members",
      .arr [.str "in", .str "a b", .str "a_b"])]]

/-- The enum of `firstCaseDocument`. -/
def firstCaseEnum : Schema.EnumDeclaration :=
  ⟨"Mode", [⟨"in", some (.int 0)⟩, ⟨"a b", some (.int 1)⟩, ⟨"a_b", some (.int 2)⟩]⟩

/-- The schema of `firstCaseDocument`. -/
def firstCaseSchema : List Schema.Declaration :=
  [.enum firstCaseEnum, .record ⟨"Device", [⟨"mode", .reference .enum "Mode", false⟩]⟩]

/-- The file of `firstCaseDocument`. -/
def firstCaseFile : String :=
  "import ExpoModulesCore\n\n" ++
  "enum Mode: Int, Enumerable \x7b\n  case `in` = 0\n  case a_b = 1\n  case a_b_2 = 2\n\x7d\n\n" ++
  "public struct Device: Record \x7b\n  @Field\n  var mode: Mode = .`in`\n\x7d"

theorem enum_fields_start_with_first_case_reserved :
    ∃ declarations, readDocument firstCaseDocument = .ok declarations ∧
      generate "swift" {} declarations = .ok firstCaseFile ∧
      ¬ AmbiguousAlias firstCaseDocument "Mode" ∧
      ∃ (language : Target.Language) (before after : List String) (field : Target.Language.Field),
        firstCaseFile
          = "\n\n".intercalate (before ++ language.recordSection "Device" [field] :: after) ∧
        field.type = "Mode" ∧ language.StartsWithFirstCase before firstCaseEnum field := by
  have whole : (readDocument firstCaseDocument >>= Schema.build) = .ok firstCaseSchema := by cbv
  obtain ⟨declarations, read, built⟩ := bind_eq_ok_iff.mp whole
  have generated : generate "swift" {} declarations = .ok firstCaseFile :=
    Target.generate_swift_of_build built (by decide +kernel)
  obtain ⟨language, schema, _, built', _, each⟩ := enum_fields_start_with_first_case read generated
  rw [built] at built'
  cases built'
  obtain ⟨before, fields, after, split, _, starts⟩ := each _ (.tail _ (.head _))
  cases starts with
  | @cons _ field _ _ starts none =>
    cases none
    have starts := starts firstCaseEnum .enum (.head _) rfl
    have clear : ¬ AmbiguousAlias firstCaseDocument "Mode" := by
      intro ambiguous
      cases starts.taken.mpr ambiguous
    exact ⟨declarations, read, generated, clear, language, before, after, field, split,
      starts.shown rfl, (starts.first rfl).mpr clear⟩

/-- The file of `ambiguousDocument`. -/
def ambiguousFile : String :=
  "import ExpoModulesCore\n\n" ++
  "enum Status: String, Enumerable \x7b\n  case on = \"on\"\n  case off = \"off\"\n\x7d\n\n" ++
  "public struct Device: Record \x7b\n  @Field\n  var status: Status = Status()\n\x7d"

/-- The enum of `ambiguousDocument`. -/
def ambiguousEnum : Schema.EnumDeclaration :=
  ⟨"Status", [⟨"on", some (.text "on")⟩, ⟨"off", some (.text "off")⟩]⟩

/-- The required field has the name of the enum for its type, and starts with a call. -/
theorem ambiguous_field_starts_with_call :
    let field : Target.Language.Field := ⟨"status", "Status", "Status()"⟩
    ∃ declarations, readDocument Schema.ambiguousDocument = .ok declarations ∧
      Schema.build declarations = .ok
        [.enum ambiguousEnum, .record ⟨"Device", [⟨"status", .reference .record "Status", false⟩]⟩] ∧
      generate "swift" {} declarations = .ok ambiguousFile ∧
      ambiguousFile = "\n\n".intercalate ["import ExpoModulesCore",
        Target.Language.swift.enumText ambiguousEnum,
        Target.Language.swift.recordSection "Device" [field]] ∧
      ∀ above, ¬ Target.Language.swift.StartsWithFirstCase above ambiguousEnum field := by
  intro field
  have whole : (readDocument Schema.ambiguousDocument >>= Schema.build)
      = .ok Schema.ambiguousSchema := by cbv
  obtain ⟨declarations, read, built⟩ := bind_eq_ok_iff.mp whole
  exact ⟨declarations, read, built, Target.generate_swift_of_build built (by decide +kernel),
    by decide +kernel, fun above starts => starts.ne_call rfl⟩

end NativeRecords
