/-
# NativeRecords.Proofs.RawValues -- the raw values of enums

An enum is written with a raw type and a raw value for each case. The values of a document are
texts, integers of any size and floating-point numbers, and none of them may change on the way into
the file: a number is written as a decimal numeral of exactly the same number, and two numbers that
are written alike are the same number, whichever of the two kinds they have.

Literals of a union are compared by what they mean, and so the cases of an enum made from a union
have distinct raw values.
-/
import NativeRecords.Proofs.Emission
import NativeRecords.Proofs.EnumMembers
import NativeRecords.Proofs.Flattening
import NativeRecords.Proofs.TextLiterals

namespace NativeRecords

/-! ## Written values -/

/-- The natural that a text of decimal digits denotes. -/
def readDigits? (digits : List Char) : Option Nat :=
  if !digits.isEmpty && digits.all Char.isDigit then some (Nat.ofDigitChars 10 digits 0) else none

/-- The integer that a decimal numeral denotes: it consists of digits, after a minus sign if it is
negative. -/
def readNumeral? (text : String) : Option Int :=
  match text.toList with
  | '-' :: digits => (readDigits? digits).map fun (n : Nat) => -(n : Int)
  | digits => (readDigits? digits).map fun (n : Nat) => (n : Int)

theorem readDigits?_digitsOf (n : Nat) : readDigits? (digitsOf n) = some n := by
  have digits : ∀ c ∈ digitsOf n, c.isDigit = true := by
    intro c inside
    exact Nat.isDigit_of_mem_toDigits (by decide) (by decide) inside
  have numeral : (!(digitsOf n).isEmpty && (digitsOf n).all Char.isDigit) = true := by
    simpa [digitsOf, Nat.toDigits_ne_nil] using digits
  rw [readDigits?, if_pos numeral, digitsOf, Nat.ofDigitChars_ten_toDigits]

theorem readNumeral?_integerText (n : Int) : readNumeral? (integerText n) = some n := by
  rw [readNumeral?, integerText]
  by_cases negative : n < 0
  · rw [if_pos negative, String.toList_ofList]
    show (readDigits? (digitsOf n.natAbs)).map _ = some n
    rw [readDigits?_digitsOf, Option.map_some, Option.some_inj]
    omega
  · rw [if_neg negative, String.toList_ofList]
    split
    · -- a digit is no minus sign
      rename_i rest starts
      have digit : '-'.isDigit = true := by
        apply Nat.isDigit_of_mem_toDigits (b := 10) (n := n.natAbs) (by decide) (by decide)
        rw [← digitsOf, starts]
        exact List.mem_cons_self
      cases digit
    · rw [readDigits?_digitsOf, Option.map_some, Option.some_inj]
      omega

namespace Target.Language

/-- Two texts are written alike only if they are one. -/
theorem textLiteral_injective {s t : String} (h : textLiteral s = textLiteral t) : s = t := by
  rw [textLiteral, textLiteral, String.ofList_inj] at h
  have quoted := congrArg unescape (List.append_cancel_right (List.cons.inj h).2)
  rw [unescape_flatMap_literalChar, unescape_flatMap_literalChar] at quoted
  exact String.toList_inj.mp (Option.some.inj quoted)

end Target.Language

/-! ## Members -/

/-- The number that a member's value is. -/
def EnumMember.number? (member : EnumMember) : Option ℚ := member.value.bind RawValue.number?

/-- A raw type and raw values that say exactly what the values of the members are. -/
inductive ExactlyTyped (members : List EnumMember) : String → List String → Prop
  | texts {values : List String} :
      List.Forall₂ (fun member value => ∃ text, member.value = some (.text text) ∧
        value = Target.Language.textLiteral text) members values →
      ExactlyTyped members "String" values
  | numbers {values : List String} :
      List.Forall₂ (fun member value => ∃ n : Int, readNumeral? value = some n ∧
        member.number? = some (n : ℚ)) members values →
      ExactlyTyped members "Int" values

/-- Members that differ in their values are written differently. -/
theorem ExactlyTyped.nodup {members : List EnumMember} {rawType : String} {values : List String}
    (exact : ExactlyTyped members rawType values)
    (apart : members.Pairwise fun earlier later => sameValue later.value earlier.value = false) :
    values.Nodup := by
  cases exact with
  | texts written =>
    refine pairwise_of_forall₂ written apart ?_
    rintro earlier _ later _ ⟨s, first, rfl⟩ ⟨t, second, rfl⟩ differ same
    rw [first, second, Target.Language.textLiteral_injective same] at differ
    simp [sameValue, RawValue.same] at differ
  | numbers written =>
    refine pairwise_of_forall₂ written apart ?_
    rintro earlier text later _ ⟨m, first, earlierNumber⟩ ⟨n, second, laterNumber⟩ differ rfl
    -- one numeral denotes one number
    obtain rfl : m = n := Option.some_inj.mp (first.symm.trans second)
    obtain ⟨v, valued, vNumber⟩ := Option.bind_eq_some_iff.mp earlierNumber
    obtain ⟨w, valued', wNumber⟩ := Option.bind_eq_some_iff.mp laterNumber
    rw [valued, valued', sameValue, RawValue.same_of_number? wNumber vNumber] at differ
    cases differ

namespace Schema

open Target (Language)

/-- A number without a fraction is written as a numeral that denotes it. -/
theorem exists_numeral {member : EnumMember} {value : RawValue} (valued : member.value = some value)
    (number : member.isText = false) (whole : fractional? member = none) :
    ∃ n : Int, readNumeral? (Language.literal member.value) = some n ∧
      member.number? = some (n : ℚ) := by
  rw [EnumMember.number?, valued]
  cases value with
  | text s =>
    rw [EnumMember.isText, valued] at number
    cases number
  | int n => exact ⟨n, readNumeral?_integerText n, rfl⟩
  | float x =>
    simp only [fractional?, valued, Binary64.isIntegral] at whole
    cases integral : x.toInt? with
    | none => simp [integral] at whole
    | some n =>
      refine ⟨n, ?_, Binary64.toInt?_eq_some_iff.mp integral⟩
      rw [Language.literal, integral]
      exact readNumeral?_integerText n

theorem exactlyTyped_of_makeEnum {name : String} {members : List EnumMember}
    {made : EnumDeclaration} (h : makeEnum name members = .ok made)
    (valued : ∀ member ∈ members, ∃ value, member.value = some value) (language : Language) :
    ExactlyTyped made.members (language.rawType made)
      (made.members.map fun member => Language.literal member.value) := by
  obtain ⟨rfl, nonempty, texts | numbers, whole⟩ := makeEnum_eq_ok_iff.mp h
  · have textual : EnumDeclaration.isTextual ⟨name, members⟩ = true := List.all_eq_true.mpr texts
    rw [Language.rawType, if_pos textual]
    refine .texts (List.forall₂_map_right_iff.mpr (List.forall₂_same.mpr ?_))
    intro member inside
    obtain ⟨value, found⟩ := valued member inside
    have isText := texts member inside
    rw [EnumMember.isText, found] at isText
    cases value with
    | text s =>
      refine ⟨s, found, ?_⟩
      rw [found]
      rfl
    | int n => cases isText
    | float x => cases isText
  · have numeric : ¬EnumDeclaration.isTextual ⟨name, members⟩ = true := by
      intro textual
      obtain ⟨first, inside⟩ := List.exists_mem_of_ne_nil members nonempty
      have isText := List.all_eq_true.mp textual first inside
      rw [numbers first inside] at isText
      cases isText
    rw [Language.rawType, if_neg numeric]
    refine .numbers (List.forall₂_map_right_iff.mpr (List.forall₂_same.mpr ?_))
    intro member inside
    obtain ⟨value, found⟩ := valued member inside
    exact exists_numeral found (numbers member inside) (whole member inside)

end Schema

/-! ## Alternatives of a union -/

namespace Source

namespace Descriptor

/-- A type is an alternative of itself, and those of a member are alternatives of the union. -/
inductive HasAlternative : Descriptor → Descriptor → Prop
  | self (type : Descriptor) : HasAlternative type type
  | member {display : String} {aliasName : Option String} {members : List Descriptor}
      {member type : Descriptor} : member ∈ members → HasAlternative member type →
      HasAlternative (.union display aliasName members) type

theorem hasAlternative_of_mem_leaves {type leaf : Descriptor} (inside : leaf ∈ type.leaves) :
    type.HasAlternative leaf := by
  induction type using union_induction with
  | plain type plain =>
    rw [plain.leaves, List.mem_singleton] at inside
    rw [inside]
    exact .self type
  | nullish kind display =>
    rw [List.mem_singleton.mp inside]
    exact .self _
  | union display aliasName members ih =>
    rw [leaves, leavesOf_eq_flatMap] at inside
    obtain ⟨member, among, deeper⟩ := List.mem_flatMap.mp inside
    exact .member among (ih member among deeper)

/-- No later literal repeats an earlier one. -/
def Unrepeated (types : List Descriptor) : Prop :=
  types.Pairwise fun earlier later => sameLiteral later earlier = false

theorem unrepeated_flatten (members : List Descriptor) : Unrepeated (flatten members) := by
  rw [flatten_eq]
  refine pairwise_firstOfEach.imp ?_
  intro earlier later differ
  rw [← Bool.not_eq_true, sameLiteral_iff]
  exact differ

theorem hasAlternative_aliased {name : String} {type : Descriptor} {kind : LiteralKind}
    {display : String} {value : Option RawValue}
    (h : (type.aliased name).HasAlternative (.literal kind display value)) :
    type.HasAlternative (.literal kind display value) := by
  cases type with
  | union display aliasName members =>
    cases h with
    | member inside alternative => exact .member inside alternative
  | _ => exact h

end Descriptor

/-- Every literal among the alternatives of a type was written in the document. -/
def Descriptor.LiteralsWritten (type : Descriptor) : Prop :=
  ∀ kind display value, type.HasAlternative (.literal kind display value) →
    ∃ raw, .literal kind display value = literalType raw

section Classification

variable {refer : String → Except Failure Descriptor}

theorem Descriptor.LiteralsWritten.of_plain {type : Descriptor} (union : type.isUnion = false)
    (literal : ∀ kind display value, type ≠ .literal kind display value) :
    type.LiteralsWritten := by
  intro kind display value alternative
  cases alternative with
  | self => exact absurd rfl (literal kind display value)
  | member => cases union

theorem literalsWritten_literalType (raw : RawValue) : (literalType raw).LiteralsWritten := by
  intro kind display value alternative
  refine ⟨raw, ?_⟩
  cases raw <;> cases alternative <;> rfl

theorem literalsWritten_of_builtin? {source : String} {type : Descriptor}
    (h : builtin? source = some type) : type.LiteralsWritten := by
  refine .of_plain (not_isUnion_of_builtin? h) ?_
  rintro kind display value rfl
  unfold builtin? at h
  split at h <;> cases h

-- Names may stand for types with literals of their own; all else is seen in the expression.
mutual

theorem literalsWritten_of_classify
    (looked : ∀ source type, refer source = .ok type → type.LiteralsWritten) (expr : TypeExpr)
    {type : Descriptor} (h : expr.classify refer = .ok type) : type.LiteralsWritten := by
  match expr with
  | .named name =>
    rcases classify_named_cases name with ⟨_, _, array⟩ | ⟨builtin, found, same⟩ | ⟨_, same⟩
    · rw [array] at h
      obtain ⟨inner, _, rfl⟩ := map_eq_ok_iff.mp h
      exact .of_plain rfl (by simp)
    · rw [same] at h
      cases h
      exact literalsWritten_of_builtin? found
    · rw [same] at h
      exact looked name type h
  | .array element =>
    rw [TypeExpr.classify] at h
    obtain ⟨inner, _, rfl⟩ := map_eq_ok_iff.mp h
    exact .of_plain rfl (by simp)
  | .bareArray =>
    rw [TypeExpr.classify] at h
    cases h
    exact .of_plain rfl (by simp)
  | .generic name arguments =>
    rw [TypeExpr.classify] at h
    obtain ⟨types, _, rfl⟩ := map_eq_ok_iff.mp h
    exact .of_plain rfl (by simp)
  | .union members =>
    rw [TypeExpr.classify] at h
    obtain ⟨types, found, rfl⟩ := map_eq_ok_iff.mp h
    intro kind display value alternative
    cases alternative with
    | member inside alternative =>
      exact literalsWritten_of_classifyAll looked members found inside _ _ _ alternative
  | .literal raw =>
    rw [TypeExpr.classify] at h
    cases h
    exact literalsWritten_literalType raw
  | .object properties =>
    rw [TypeExpr.classify] at h
    obtain ⟨typed, _, rfl⟩ := map_eq_ok_iff.mp h
    exact .of_plain rfl (by simp)
  | .malformed failure =>
    rw [TypeExpr.classify] at h
    cases h

theorem literalsWritten_of_classifyAll
    (looked : ∀ source type, refer source = .ok type → type.LiteralsWritten)
    (exprs : List TypeExpr) {types : List Descriptor}
    (h : TypeExpr.classifyAll refer exprs = .ok types) {type : Descriptor} (inside : type ∈ types) :
    type.LiteralsWritten := by
  match exprs with
  | [] =>
    rw [TypeExpr.classifyAll] at h
    cases h
    cases inside
  | expr :: rest =>
    rw [TypeExpr.classifyAll] at h
    obtain ⟨first, found, h⟩ := bind_eq_ok_iff.mp h
    obtain ⟨others, foundRest, h⟩ := bind_eq_ok_iff.mp h
    cases h
    rcases List.mem_cons.mp inside with rfl | inside
    · exact literalsWritten_of_classify looked expr found
    · exact literalsWritten_of_classifyAll looked rest foundRest inside

end

end Classification

theorem literalsWritten_of_reference {table : List Outline} {expanding : List String}
    {source : String} {type : Descriptor} (h : reference table expanding source = .ok type) :
    type.LiteralsWritten := by
  fun_induction reference table expanding source generalizing type with
  | case6 => cases h
  | case7 expanding source own shaped plain fresh expr found _ ih =>
    obtain ⟨target, classified, rfl⟩ := map_eq_ok_iff.mp h
    intro kind display value alternative
    exact literalsWritten_of_classify (fun other type looked => ih other looked) expr classified
      kind display value (Descriptor.hasAlternative_aliased alternative)
  | _ =>
    cases h
    exact .of_plain rfl (by simp)

/-- The type of an alias that is read holds no literals but those of the document. -/
theorem literalsWritten_of_readDocument {document : Json} {declarations : List Declaration}
    (read : readDocument document = .ok declarations) {name : String} {type : Descriptor}
    (inside : .typeAlias name type ∈ declarations) : type.LiteralsWritten := by
  obtain ⟨_, table, _, _, classified⟩ := readDocument_eq_ok_iff.mp read
  obtain ⟨outline, _, found⟩ := exists_left_of_forall₂ classified inside
  cases outline with
  | enum own members =>
    obtain ⟨_, _, impossible⟩ := map_eq_ok_iff.mp found
    cases impossible
  | interface own properties =>
    obtain ⟨_, _, impossible⟩ := map_eq_ok_iff.mp found
    cases impossible
  | typeAlias own shaped aliased =>
    cases aliased with
    | none => cases found
    | some expr =>
      obtain ⟨target, classified, same⟩ := map_eq_ok_iff.mp found
      cases same
      exact literalsWritten_of_classify
        (fun other type looked => literalsWritten_of_reference looked) expr classified

end Source

/-! ## Enums -/

namespace Schema

open Source (Descriptor readDocument)
open Target (Language)

/-- The member stands for the type: the type is a literal of the kind with the value of the member,
which is named by the text of the value. -/
def StandsFor (kind : Source.LiteralKind) (type : Descriptor) (member : EnumMember) : Prop :=
  (∃ display, type = .literal kind display member.value) ∧ member.name = shownValue member.value

theorem literalMember?_eq_some_iff {type : Descriptor} {kind : Source.LiteralKind}
    {member : EnumMember} :
    literalMember? type = some (kind, member) ↔ StandsFor kind type member := by
  constructor
  · intro h
    cases type <;> cases h
    exact ⟨⟨_, rfl⟩, rfl⟩
  · rintro ⟨⟨display, rfl⟩, named⟩
    rw [literalMember?, ← named]

/-- An enum is made from a union if it has alternatives other than null and these are literals of
one kind; each of its members stands for one of them. -/
theorem literalMembers?_eq_some_iff {members : List Descriptor} {literals : List EnumMember} :
    literalMembers? members = some literals ↔ literals ≠ [] ∧ ∃ kind, List.Forall₂ (StandsFor kind)
      ((Descriptor.flatten members).filter (!·.isNullish)) literals := by
  rw [literalMembers?]
  constructor
  · intro h
    split at h
    · rename_i kind first rest found
      split at h
      · rename_i uniform
        cases h
        have kinds : ∀ pair ∈ (kind, first) :: rest, pair.1 = kind := by simpa using uniform
        have each :=
          ((List.forall₂_and_left _ _).mpr ⟨kinds, (mapM_eq_some_iff.mp found).flip⟩).flip
        refine ⟨List.cons_ne_nil _ _, kind, ?_⟩
        show List.Forall₂ _ _ (((kind, first) :: rest).map Prod.snd)
        refine List.forall₂_map_right_iff.mpr (each.imp ?_)
        rintro type ⟨_, member⟩ ⟨rfl, literal⟩
        exact literalMember?_eq_some_iff.mp literal
      · cases h
    · cases h
  · rintro ⟨nonempty, kind, each⟩
    have found : ((Descriptor.flatten members).filter (!·.isNullish)).mapM literalMember? =
        some (literals.map fun member => (kind, member)) := by
      refine mapM_eq_some_iff.mpr (List.forall₂_map_right_iff.mpr (each.imp ?_))
      intro type member standsFor
      exact literalMember?_eq_some_iff.mpr standsFor
    rw [found]
    cases literals with
    | nil => contradiction
    | cons first rest => simp [Function.comp_def]

/-- Where the literals of a union were written in a document, the members made from them have
values, and no two have the same. -/
theorem of_literalMembers? {display : String} {aliasName : Option String}
    {members : List Descriptor} {literals : List EnumMember}
    (h : literalMembers? members = some literals)
    (written : (Descriptor.union display aliasName members).LiteralsWritten) :
    (∀ member ∈ literals, ∃ value, member.value = some value) ∧
      literals.Pairwise fun earlier later => sameValue later.value earlier.value = false := by
  obtain ⟨_, kind, each⟩ := literalMembers?_eq_some_iff.mp h
  constructor
  · intro member inside
    obtain ⟨_, kept, ⟨text, rfl⟩, _⟩ := exists_left_of_forall₂ each inside
    have leaf := Descriptor.mem_leavesOf_of_flatten (List.mem_of_mem_filter kept)
    obtain ⟨raw, same⟩ := written _ _ _ (Descriptor.hasAlternative_of_mem_leaves leaf)
    refine ⟨raw, ?_⟩
    cases raw <;> exact (Descriptor.literal.inj same).2.2
  · refine pairwise_of_forall₂ each ((Descriptor.unrepeated_flatten members).filter _) ?_
    rintro _ earlier _ later ⟨⟨_, rfl⟩, _⟩ ⟨⟨_, rfl⟩, _⟩ differ
    simpa [Descriptor.sameLiteral] using differ

/-- An enum comes from the members of an enum declaration, numbered, or from the literals of a
union. -/
theorem resolve_enum_cases {declaration : Source.Declaration} {e : EnumDeclaration}
    (h : resolve declaration = .ok (.enum e)) :
    (∃ name members numbered, declaration = .enum name members ∧
      numberMembers name (some (.int 0)) members = .ok numbered ∧ makeEnum name numbered = .ok e) ∨
    ∃ name display aliasName members literals,
      declaration = .typeAlias name (.union display aliasName members) ∧
      literalMembers? members = some literals ∧ makeEnum name literals = .ok e := by
  cases declaration with
  | enum name members =>
    obtain ⟨made, inner, same⟩ := map_eq_ok_iff.mp h
    cases same
    obtain ⟨numbered, counted, made⟩ := bind_eq_ok_iff.mp inner
    exact .inl ⟨name, members, numbered, rfl, counted, made⟩
  | interface name properties =>
    obtain ⟨_, _, impossible⟩ := map_eq_ok_iff.mp h
    cases impossible
  | typeAlias name type =>
    obtain ⟨display, aliasName, members, literals, made, rfl, found, inner, same⟩ |
      ⟨_, _, _, _, _, impossible⟩ := resolveAlias_cases h
    · cases same
      exact .inr ⟨name, display, aliasName, members, literals, rfl, found, inner⟩
    · cases impossible
  | untypedAlias name => cases h
  | unclassified name => cases h

/-- **The raw values of enums are exact.** Every enum that a document gives is written with the raw
type of texts, and then all its values are texts, or with that of integers, and then every raw value
is a decimal numeral that denotes exactly the number that the member's value is, be it an integer of
any size or a floating-point number. The raw values of an enum that was made from a union of
literals are distinct. -/
theorem raw_values_exact {document : Json} {declarations : List Source.Declaration}
    (read : readDocument document = .ok declarations) {declaration : Source.Declaration}
    (inside : declaration ∈ declarations) {e : EnumDeclaration}
    (resolved : resolve declaration = .ok (.enum e)) (language : Language) :
    ∃ rawType values,
      language.enumText e = "\n".intercalate (language.enumHead e.name rawType ::
        language.caseLines
          ((language.identifiers (e.members.map EnumMember.name)).zip values) ++ ["\x7d"]) ∧
      ExactlyTyped e.members rawType values ∧
      ((∃ name type, declaration = .typeAlias name type) → values.Nodup) := by
  refine ⟨language.rawType e, e.members.map fun member => Language.literal member.value, rfl, ?_⟩
  obtain ⟨name, members, numbered, rfl, counted, made⟩ |
    ⟨name, display, aliasName, members, literals, rfl, found, made⟩ := resolve_enum_cases resolved
  · refine ⟨exactlyTyped_of_makeEnum made (valued_of_numberMembers counted) language, ?_⟩
    rintro ⟨_, _, impossible⟩
    cases impossible
  · have written := Source.literalsWritten_of_readDocument read inside
    obtain ⟨valued, apart⟩ := of_literalMembers? found written
    have exact := exactlyTyped_of_makeEnum made valued language
    obtain ⟨rfl, _⟩ := makeEnum_eq_ok_iff.mp made
    exact ⟨exact, fun _ => exact.nodup apart⟩

/-- The floating-point number one. -/
def floatOne : Binary64 := .finite false 4503599627370496 (-52)

/-- The negative zero. -/
def minusZero : Binary64 := .finite true 0 (-1074)

/-- The floating-point number `2 ^ 53`; the next integer has none. -/
def largeFloat : Binary64 := .finite false 4503599627370496 1

/-- Numbers of both kinds, among which one and zero occur twice. -/
def levels : List RawValue :=
  [.int 1, .float floatOne, .float minusZero, .int 0, .float largeFloat, .int 9007199254740993]

/-- The numbers of `levels`, each once. -/
def distinctLevels : List RawValue :=
  [.int 1, .float minusZero, .float largeFloat, .int 9007199254740993]

/-- A document with the union of `levels`. -/
def levelsDocument : Json :=
  .arr [.obj [("kind", .str "type-alias"), ("name", .str "Level"),
    ("type", .obj [("union", .arr [.obj [("literal", .int 1)], .obj [("literal", .float floatOne)],
      .obj [("literal", .float minusZero)], .obj [("literal", .int 0)],
      .obj [("literal", .float largeFloat)], .obj [("literal", .int 9007199254740993)]])])]]

/-- The union of literals with these values, without a name. -/
def literalUnion (values : List RawValue) : Descriptor :=
  .union (Descriptor.unionDisplay (values.map Source.literalType)) none
    (values.map Source.literalType)

theorem classifyAll_literals (refer : String → Except Failure Descriptor)
    (values : List RawValue) : Source.TypeExpr.classifyAll refer (values.map .literal) =
      .ok (values.map Source.literalType) := by
  induction values with
  | nil => rfl
  | cons value rest ih =>
    rw [List.map_cons, Source.TypeExpr.classifyAll, Source.TypeExpr.classify, ih]
    rfl

/-- What a document with one alias of a union of literals declares. -/
theorem readDocument_literals {entry : Json} {name : String} {values : List RawValue}
    (outlined : Source.Outline.ofJson entry =
      .ok (.typeAlias name false (some (.union (values.map .literal))))) :
    readDocument (.arr [entry]) = .ok [.typeAlias name (literalUnion values)] := by
  refine Source.readDocument_eq_ok_iff.mpr
    ⟨[entry], [_], rfl, .cons outlined .nil, .cons ?_ .nil⟩
  rw [Source.Outline.classify, Source.TypeExpr.classify, classifyAll_literals]
  rfl

theorem readDocument_levels :
    readDocument levelsDocument = .ok [.typeAlias "Level" (literalUnion levels)] := by
  apply readDocument_literals
  cbv

theorem isIntegral_levels : minusZero.isIntegral = true ∧ largeFloat.isIntegral = true := by
  decide +kernel

theorem literalMembers?_levels : literalMembers? (levels.map Source.literalType) =
    some (distinctLevels.map fun value => ⟨value.shown, some value⟩) := by
  have oneTwice : floatOne.eqvInt 1 = true := by decide +kernel
  have zeroTwice : minusZero.eqvInt 0 = true := by decide +kernel
  have zeroNew : minusZero.eqvInt 1 = false := by decide +kernel
  have largeNew : largeFloat.eqvInt 1 = false ∧ largeFloat.eqv minusZero = false := by
    decide +kernel
  have nextNew : minusZero.eqvInt 9007199254740993 = false ∧
      largeFloat.eqvInt 9007199254740993 = false := by
    decide +kernel
  rw [levels, distinctLevels]
  generalize floatOne = x, minusZero = y, largeFloat = z at *
  simp [literalMembers?, literalMember?, shownValue, Source.literalType, Descriptor.flatten,
    Descriptor.flattenOnto, Descriptor.keepNew, Descriptor.sameLiteral, Descriptor.isNullish,
    sameValue, RawValue.same, oneTwice, zeroTwice, zeroNew, largeNew, nextNew]

/-- The enum of `levelsDocument`. -/
def levelsEnum : EnumDeclaration :=
  ⟨"Level", distinctLevels.map fun value => ⟨value.shown, some value⟩⟩

theorem resolve_levels :
    resolve (.typeAlias "Level" (literalUnion levels)) = .ok (.enum levelsEnum) := by
  have made : makeEnum "Level" levelsEnum.members = .ok levelsEnum := by
    refine makeEnum_eq_ok_iff.mpr ⟨rfl, by simp [levelsEnum, distinctLevels], .inr ?_, ?_⟩
    · simp [levelsEnum, distinctLevels, EnumMember.isText, RawValue.isText]
    · simp [levelsEnum, distinctLevels, fractional?, isIntegral_levels]
  rw [literalUnion, resolve, resolveAlias, literalMembers?_levels]
  show (makeEnum "Level" levelsEnum.members).map _ = _
  rw [made]
  rfl

/-- The section of `levelsEnum`. -/
def levelsSection : Language → String
  | .swift =>
    "enum Level: Int, Enumerable \x7b\n  case _1 = 1\n  case _0_0 = 0\n" ++
    "  case _9007199254740992_0 = 9007199254740992\n" ++
    "  case _9007199254740993 = 9007199254740993\n\x7d"
  | .kotlin =>
    "enum class Level(val value: Int) : Enumerable \x7b\n  _1(1),\n  _0_0(0),\n" ++
    "  _9007199254740992_0(9007199254740992),\n" ++
    "  _9007199254740993(9007199254740993)\n\x7d"

theorem raw_values_exact_levels :
    readDocument levelsDocument = .ok [.typeAlias "Level" (literalUnion levels)] ∧
      resolve (.typeAlias "Level" (literalUnion levels)) = .ok (.enum levelsEnum) ∧
      levelsEnum.members.map EnumMember.value = distinctLevels.map some ∧
      ∀ language : Language, language.enumText levelsEnum = levelsSection language ∧
        ∃ rawType values,
          levelsSection language = "\n".intercalate (language.enumHead "Level" rawType ::
            language.caseLines
              (["_1", "_0_0", "_9007199254740992_0", "_9007199254740993"].zip values) ++
            ["\x7d"]) ∧
          ExactlyTyped levelsEnum.members rawType values ∧ values.Nodup := by
  refine ⟨readDocument_levels, resolve_levels, by simp [levelsEnum, Function.comp_def], ?_⟩
  intro language
  have shown : language.enumText levelsEnum = levelsSection language := by
    cases language <;> decide +kernel
  have named : language.identifiers (levelsEnum.members.map EnumMember.name) =
      ["_1", "_0_0", "_9007199254740992_0", "_9007199254740993"] := by
    cases language <;> decide +kernel
  obtain ⟨rawType, values, written, exact, distinct⟩ :=
    raw_values_exact readDocument_levels (List.mem_singleton.mpr rfl) resolve_levels language
  rw [shown, named] at written
  exact ⟨shown, rawType, values, written, exact, distinct ⟨_, _, rfl⟩⟩

end Schema

end NativeRecords
