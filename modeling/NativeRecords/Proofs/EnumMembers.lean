/-
# NativeRecords.Proofs.EnumMembers -- the values of enum members and the enums that are refused

A member of an enum that is written without a value counts on from the member before it, and the
first one from zero. What a member counts as is given here by its place, and shown to be what the
walk over the members finds, which only hands on the next value (`effectiveValue?`). Where all
written values are integers, the count has a closed form (`CountsTo`).

An enum is refused if it has no members, if some of its values are texts and some are not, or if a
number in it is no integer. Texts beside numbers are found in two places: a missing value right
after a text stops the walk, and all other arrangements are found by a look at the values after it.
Together they find every arrangement, and the three reasons exclude each other (`EnumOutcome`).
-/
import NativeRecords.Proofs.Agreement
import NativeRecords.Proofs.Meanings

namespace NativeRecords

/-- The number is no integer; infinities and the not-a-number are none. -/
def Binary64.IsFractional (x : Binary64) : Prop := ∀ n : Int, x.value? ≠ some (n : ℚ)

theorem Binary64.isFractional_iff {x : Binary64} : x.IsFractional ↔ x.isIntegral = false := by
  simp only [IsFractional, isIntegral, ne_eq, ← toInt?_eq_some_iff]
  cases x.toInt? <;> simp

theorem EnumMember.isText_iff {member : EnumMember} :
    member.isText = true ↔ ∃ s, member.value = some (.text s) := by
  rw [isText, Option.any_eq_true]
  constructor
  · rintro ⟨value, found, text⟩
    cases value with
    | text s => exact ⟨s, found⟩
    | int n => cases text
    | float x => cases text
  · rintro ⟨s, found⟩
    exact ⟨_, found, rfl⟩

theorem RawValue.next?_ne_text (value : RawValue) (s : String) : value.next? ≠ some (.text s) := by
  cases value <;> simp [next?]

namespace Schema

variable {name : String} {members numbered : List EnumMember} {start : Option RawValue}

/-! ## Values by their places -/

/-- The value that the member at a place has been given. -/
def ownValue? (members : List EnumMember) (place : Nat) : Option RawValue :=
  members[place]?.bind EnumMember.value

/-- The value that the member at a place counts as: its own, or else the one that follows the value
of the member before it. The first member without a value counts as `start`. -/
def effectiveValue? (start : Option RawValue) (members : List EnumMember) : Nat → Option RawValue
  | 0 => members[0]?.bind fun member => member.value <|> start
  | place + 1 => members[place + 1]?.bind fun member =>
      member.value <|> (effectiveValue? start members place).bind RawValue.next?

/-- A walk over members ends well if the first has a value or there is one to count on from, and if
the walk over the others does, which count on from that value. -/
theorem numberMembers_cons_eq_ok_iff {first : EnumMember} {rest : List EnumMember} :
    numberMembers name start (first :: rest) = .ok numbered ↔ ∃ value others,
      (first.value <|> start) = some value ∧ numberMembers name value.next? rest = .ok others ∧
      numbered = ⟨first.name, some value⟩ :: others := by
  rw [numberMembers]
  cases first.value <|> start with
  | none => simp
  | some value =>
    constructor
    · intro h
      obtain ⟨others, found, rfl⟩ := map_eq_ok_iff.mp h
      exact ⟨value, others, rfl, found, rfl⟩
    · rintro ⟨_, others, same, found, rfl⟩
      cases same
      exact map_eq_ok_iff.mpr ⟨others, found, rfl⟩

/-- Numbering gives every member a value. -/
theorem valued_of_numberMembers (h : numberMembers name start members = .ok numbered) :
    ∀ member ∈ numbered, ∃ value, member.value = some value := by
  induction members generalizing start numbered with
  | nil =>
    cases h
    simp
  | cons first rest ih =>
    obtain ⟨value, others, _, found, rfl⟩ := numberMembers_cons_eq_ok_iff.mp h
    intro member inside
    rcases List.mem_cons.mp inside with rfl | inside
    · exact ⟨value, rfl⟩
    · exact ih found member inside

/-- After the first member the others count on from its value. -/
theorem effectiveValue?_cons (first : EnumMember) (rest : List EnumMember) (place : Nat) :
    effectiveValue? start (first :: rest) (place + 1) =
      effectiveValue? ((first.value <|> start).bind RawValue.next?) rest place := by
  induction place with
  | zero => simp [effectiveValue?]
  | succ place ih => rw [effectiveValue?, ih, List.getElem?_cons_succ, effectiveValue?]

/-- The walk over the members gives each the value that it counts as. -/
theorem ownValue?_of_numberMembers (h : numberMembers name start members = .ok numbered)
    (place : Nat) : ownValue? numbered place = effectiveValue? start members place := by
  induction members generalizing start numbered place with
  | nil =>
    cases h
    cases place <;> rfl
  | cons first rest ih =>
    obtain ⟨value, others, own, found, rfl⟩ := numberMembers_cons_eq_ok_iff.mp h
    cases place with
    | zero => exact own.symm
    | succ place =>
      rw [effectiveValue?_cons, own]
      exact ih found place

/-- The walk keeps the names, and it makes no member a text that is none. -/
theorem forall₂_of_numberMembers (countable : ∀ s, start ≠ some (.text s))
    (h : numberMembers name start members = .ok numbered) :
    List.Forall₂ (fun member given => given.name = member.name ∧ given.isText = member.isText)
      members numbered := by
  induction members generalizing start numbered with
  | nil =>
    cases h
    exact .nil
  | cons first rest ih =>
    obtain ⟨value, others, own, found, rfl⟩ := numberMembers_cons_eq_ok_iff.mp h
    refine .cons ⟨rfl, ?_⟩ (ih value.next?_ne_text found)
    rw [Bool.eq_iff_iff, EnumMember.isText_iff, EnumMember.isText_iff]
    cases written : first.value with
    | some other =>
      rw [written] at own
      rw [← own]
      rfl
    | none =>
      rw [written] at own
      have counted : start = some value := own
      simpa [← counted] using countable

/-- The walk stops only at a missing value after a text. -/
theorem numberMembers_error (countable : ∀ s, start ≠ some (.text s)) {failure : Failure}
    (h : numberMembers name start members = .error failure) :
    failure = .mixedEnum name ∧ (∃ member ∈ members, member.isText = false) ∧
      (start = none ∨ ∃ member ∈ members, member.isText = true) := by
  induction members generalizing start with
  | nil => cases h
  | cons first rest ih =>
    rw [numberMembers] at h
    split at h
    · rename_i missing
      obtain ⟨unvalued, unstarted⟩ : first.value = none ∧ start = none := by
        simpa using missing
      cases h
      refine ⟨rfl, ⟨first, List.mem_cons_self, ?_⟩, .inl unstarted⟩
      rw [EnumMember.isText, unvalued]
      rfl
    · rename_i value own
      obtain ⟨rfl, ⟨other, inside, plain⟩, last | ⟨text, among, isText⟩⟩ :=
        ih value.next?_ne_text (map_eq_error_iff.mp h)
      · refine ⟨rfl, ⟨other, List.mem_cons_of_mem _ inside, plain⟩,
          .inr ⟨first, List.mem_cons_self, ?_⟩⟩
        -- nothing follows the first value, so it is a text, and it was written
        cases value with
        | int n => cases last
        | float x => cases last
        | text s =>
          rw [EnumMember.isText_iff]
          cases written : first.value with
          | some given =>
            rw [written] at own
            exact ⟨s, own⟩
          | none =>
            rw [written] at own
            exact absurd own (countable s)
      · exact ⟨rfl, ⟨other, List.mem_cons_of_mem _ inside, plain⟩,
          .inr ⟨text, List.mem_cons_of_mem _ among, isText⟩⟩

/-! ## Values that are refused -/

/-- Some members are texts, and some are not: these have a number or no value. -/
def IsMixed (members : List EnumMember) : Prop :=
  (∃ member ∈ members, ∃ s, member.value = some (.text s)) ∧
    ∃ member ∈ members, ∀ s, member.value ≠ some (.text s)

/-- Of the values at all places, this number is the first that is no integer. -/
def FirstFractional (values : Nat → Option RawValue) (x : Binary64) : Prop :=
  x.IsFractional ∧ ∃ place, values place = some (.float x) ∧
    ∀ earlier < place, ∀ y, values earlier = some (.float y) → ¬y.IsFractional

theorem isMixed_iff : IsMixed members ↔
    (∃ member ∈ members, member.isText = true) ∧ ∃ member ∈ members, member.isText = false := by
  simp only [IsMixed, ← Bool.not_eq_true, EnumMember.isText_iff, not_exists, ne_eq]

/-- Counting the texts finds out whether the members are mixed. -/
theorem isMixed_iff_any_all : IsMixed members ↔
    (members.any EnumMember.isText && !members.all EnumMember.isText) = true := by
  simp [isMixed_iff]

theorem not_isMixed_iff : ¬IsMixed members ↔
    (∀ member ∈ members, member.isText = true) ∨ ∀ member ∈ members, member.isText = false := by
  rw [isMixed_iff, not_and_or, or_comm]
  simp

theorem fractional?_eq_some_iff {member : EnumMember} {x : Binary64} :
    fractional? member = some x ↔ member.value = some (.float x) ∧ x.IsFractional := by
  rw [Binary64.isFractional_iff, fractional?]
  split
  · rename_i y valued
    rw [valued]
    cases whole : y.isIntegral <;> grind
  · rename_i other
    refine iff_of_false (by simp) ?_
    rintro ⟨valued, _⟩
    exact other x valued

/-- The value that is reported is the first that is no integer. -/
theorem findSome?_fractional?_iff {x : Binary64} :
    members.findSome? fractional? = some x ↔ FirstFractional (ownValue? members) x := by
  rw [List.findSome?_eq_some_iff]
  constructor
  · rintro ⟨before, member, after, rfl, found, none⟩
    obtain ⟨valued, fractional⟩ := fractional?_eq_some_iff.mp found
    refine ⟨fractional, before.length, by simpa [ownValue?] using valued, ?_⟩
    intro earlier ahead y own broken
    rw [ownValue?, List.getElem?_append_left ahead] at own
    obtain ⟨other, inside, own⟩ := Option.bind_eq_some_iff.mp own
    have whole := none other (List.mem_of_getElem? inside)
    rw [fractional?_eq_some_iff.mpr ⟨own, broken⟩] at whole
    cases whole
  · rintro ⟨fractional, place, own, first⟩
    obtain ⟨member, inside, valued⟩ := Option.bind_eq_some_iff.mp own
    obtain ⟨bound, rfl⟩ := List.getElem?_eq_some_iff.mp inside
    refine ⟨members.take place, members[place], members.drop (place + 1), by simp,
      fractional?_eq_some_iff.mpr ⟨valued, fractional⟩, ?_⟩
    intro other among
    obtain ⟨earlier, ahead, rfl⟩ := List.mem_take_iff_getElem.mp among
    by_contra broken
    obtain ⟨y, found⟩ := Option.ne_none_iff_exists'.mp broken
    obtain ⟨valued, broken⟩ := fractional?_eq_some_iff.mp found
    refine first earlier (by omega) y ?_ broken
    rw [ownValue?, List.getElem?_eq_getElem (by omega)]
    exact valued

theorem makeEnum_of_isMixed (mixed : IsMixed members) :
    makeEnum name members = .error (.mixedEnum name) := by
  have nonempty : ¬members.isEmpty = true := by
    obtain ⟨⟨_, inside, _⟩, _⟩ := mixed
    exact fun empty => List.ne_nil_of_mem inside (List.isEmpty_iff.mp empty)
  rw [makeEnum, if_neg nonempty, if_pos (isMixed_iff_any_all.mp mixed)]

/-- Members that are not mixed are refused for their first number that is no integer. -/
theorem makeEnum_of_firstFractional (uniform : ¬IsMixed members) {x : Binary64}
    (first : FirstFractional (ownValue? members) x) :
    makeEnum name members = .error (.fractionalValue name x) := by
  have found := findSome?_fractional?_iff.mpr first
  have nonempty : ¬members.isEmpty = true := by
    intro empty
    rw [List.isEmpty_iff.mp empty] at found
    cases found
  rw [makeEnum, if_neg nonempty, if_neg (mt isMixed_iff_any_all.mpr uniform), found]

/-- If there is none, they make an enum. -/
theorem makeEnum_of_not_firstFractional (nonempty : members ≠ []) (uniform : ¬IsMixed members)
    (whole : ∀ x, ¬FirstFractional (ownValue? members) x) :
    makeEnum name members = .ok ⟨name, members⟩ := by
  refine makeEnum_eq_ok_iff.mpr ⟨rfl, nonempty, not_isMixed_iff.mp uniform, ?_⟩
  rw [← List.findSome?_eq_none_iff, Option.eq_none_iff_forall_ne_some]
  intro x found
  exact whole x (findSome?_fractional?_iff.mp found)

/-- Where there is such a number and the members are not mixed, none is a text. -/
theorem FirstFractional.isText_eq_false {x : Binary64}
    (first : FirstFractional (ownValue? members) x) (uniform : ¬IsMixed members) :
    ∀ member ∈ members, member.isText = false := by
  rcases not_isMixed_iff.mp uniform with texts | numbers
  · obtain ⟨_, place, own, _⟩ := first
    obtain ⟨member, inside, valued⟩ := Option.bind_eq_some_iff.mp own
    obtain ⟨s, text⟩ := EnumMember.isText_iff.mp (texts member (List.mem_of_getElem? inside))
    rw [valued] at text
    cases text
  · exact numbers

/-! ## Enum declarations -/

/-- There are members, none is a text, and this number is the first of their values that is no
integer. -/
structure ReportsFraction (members : List EnumMember) (x : Binary64) : Prop where
  nonempty : members ≠ []
  noText : ∀ member ∈ members, ∀ s, member.value ≠ some (.text s)
  first : FirstFractional (effectiveValue? (some (.int 0)) members) x

/-- What becomes of an enum declaration. -/
inductive EnumOutcome (name : String) (members : List EnumMember) :
    Except Failure Declaration → Prop
  | empty : members = [] → EnumOutcome name members (.error (.emptyEnum name))
  | mixed : IsMixed members → EnumOutcome name members (.error (.mixedEnum name))
  | fractional {x : Binary64} : ReportsFraction members x →
      EnumOutcome name members (.error (.fractionalValue name x))
  | made {numbered : List EnumMember} : members ≠ [] → ¬IsMixed members →
      (∀ x, ¬ReportsFraction members x) →
      numbered.map EnumMember.name = members.map EnumMember.name →
      (∀ place, ownValue? numbered place = effectiveValue? (some (.int 0)) members place) →
      EnumOutcome name members (.ok (.enum ⟨name, numbered⟩))

theorem isMixed_of_forall₂
    (same : List.Forall₂ (fun member given => given.name = member.name ∧
      given.isText = member.isText) members numbered) : IsMixed numbered ↔ IsMixed members := by
  have texts : numbered.map EnumMember.isText = members.map EnumMember.isText :=
    (map_eq_map_of_forall₂ same fun _ _ h => h.2.symm).symm
  have exchange : ∀ answer, (∃ member ∈ numbered, member.isText = answer) ↔
      ∃ member ∈ members, member.isText = answer := by
    intro answer
    rw [← List.mem_map, ← List.mem_map, texts]
  rw [isMixed_iff, isMixed_iff, exchange, exchange]

/-- Every enum declaration has one of the outcomes. -/
theorem enumOutcome_resolve (name : String) (members : List EnumMember) :
    EnumOutcome name members (resolve (.enum name members)) := by
  rw [resolve, resolveEnum]
  cases walked : numberMembers name (some (.int 0)) members with
  | error failure =>
    -- the walk has met a missing value after a text
    obtain ⟨rfl, plain, impossible | text⟩ := numberMembers_error (by simp) walked
    · cases impossible
    · exact .mixed (isMixed_iff.mpr ⟨text, plain⟩)
  | ok numbered =>
    show EnumOutcome name members ((makeEnum name numbered).map .enum)
    have same := forall₂_of_numberMembers (by simp) walked
    have values : ownValue? numbered = effectiveValue? (some (.int 0)) members :=
      funext (ownValue?_of_numberMembers walked)
    by_cases empty : members = []
    · rw [empty, List.forall₂_nil_left_iff] at same
      rw [same]
      exact .empty empty
    by_cases mixed : IsMixed members
    · rw [makeEnum_of_isMixed ((isMixed_of_forall₂ same).mpr mixed)]
      exact .mixed mixed
    have uniform : ¬IsMixed numbered := mt (isMixed_of_forall₂ same).mp mixed
    by_cases fractional : ∃ x, FirstFractional (ownValue? numbered) x
    · obtain ⟨x, first⟩ := fractional
      rw [makeEnum_of_firstFractional uniform first]
      refine .fractional ⟨empty, ?_, values ▸ first⟩
      intro member inside s text
      obtain ⟨given, among, _, alike⟩ := exists_right_of_forall₂ same inside
      rw [first.isText_eq_false uniform given among, EnumMember.isText_iff.mpr ⟨s, text⟩] at alike
      cases alike
    · rw [not_exists] at fractional
      have nonempty : numbered ≠ [] := by
        rintro rfl
        exact empty (List.forall₂_nil_right_iff.mp same)
      rw [makeEnum_of_not_firstFractional nonempty uniform fractional]
      refine .made empty mixed ?_ (map_eq_map_of_forall₂ same fun _ _ h => h.1.symm).symm
        (congrFun values)
      intro x reported
      exact fractional x (values ▸ reported.first)

theorem IsMixed.ne_nil (mixed : IsMixed members) : members ≠ [] := by
  obtain ⟨⟨_, inside, _⟩, _⟩ := mixed
  exact List.ne_nil_of_mem inside

theorem ReportsFraction.not_isMixed {x : Binary64} (reported : ReportsFraction members x) :
    ¬IsMixed members := by
  rintro ⟨⟨member, inside, s, text⟩, _⟩
  exact reported.noText member inside s text

theorem FirstFractional.unique {values : Nat → Option RawValue} {x y : Binary64}
    (hx : FirstFractional values x) (hy : FirstFractional values y) : x = y := by
  obtain ⟨xFractional, i, xValue, xFirst⟩ := hx
  obtain ⟨yFractional, j, yValue, yFirst⟩ := hy
  rcases Nat.lt_trichotomy i j with before | rfl | after
  · exact absurd xFractional (yFirst i before x xValue)
  · rw [xValue] at yValue
    cases yValue
    rfl
  · exact absurd yFractional (xFirst j after y yValue)

/-- The reasons for which an enum is refused exclude each other. -/
theorem EnumOutcome.eq_of_error {failure : Failure} {result : Except Failure Declaration}
    (refused : EnumOutcome name members (.error failure))
    (outcome : EnumOutcome name members result) : result = .error failure := by
  cases refused with
  | empty none =>
    cases outcome with
    | empty _ => rfl
    | mixed mixed => exact absurd none mixed.ne_nil
    | fractional reported => exact absurd none reported.nonempty
    | made nonempty => exact absurd none nonempty
  | mixed mixed =>
    cases outcome with
    | empty none => exact absurd none mixed.ne_nil
    | mixed _ => rfl
    | fractional reported => exact absurd mixed reported.not_isMixed
    | made _ uniform => exact absurd mixed uniform
  | fractional reported =>
    cases outcome with
    | empty none => exact absurd none reported.nonempty
    | mixed mixed => exact absurd mixed reported.not_isMixed
    | fractional other => rw [other.first.unique reported.first]
    | made _ _ unreported => exact absurd reported (unreported _)

/-- **When an enum declaration is refused, and for what.** It is refused for having no members
exactly if it has none. It is refused for mixing exactly if one of its members, wherever it stands,
is a text and another has a number or no value. It is refused for a number exactly if it has
members, none is a text, and some value is no integer, be it written or counted; the first such
value is reported. In all other cases it becomes an enum with the same names in the same order, and
each member has the value that it counts as. -/
theorem enum_refused_iff (name : String) (members : List EnumMember) :
    (∀ other, resolve (.enum name members) = .error (.emptyEnum other) ↔
      other = name ∧ members = []) ∧
    (∀ other, resolve (.enum name members) = .error (.mixedEnum other) ↔
      other = name ∧ IsMixed members) ∧
    (∀ other x, resolve (.enum name members) = .error (.fractionalValue other x) ↔
      other = name ∧ ReportsFraction members x) ∧
    ((∃ numbered, resolve (.enum name members) = .ok (.enum ⟨name, numbered⟩) ∧
        numbered.map EnumMember.name = members.map EnumMember.name ∧
        ∀ place, ownValue? numbered place = effectiveValue? (some (.int 0)) members place) ↔
      members ≠ [] ∧ ¬IsMixed members ∧ ∀ x, ¬ReportsFraction members x) := by
  have outcome := enumOutcome_resolve name members
  refine ⟨?_, ?_, ?_, ?_, ?_⟩
  · intro other
    constructor
    · intro refused
      rw [refused] at outcome
      cases outcome with
      | empty none => exact ⟨rfl, none⟩
    · rintro ⟨rfl, none⟩
      exact (EnumOutcome.empty none).eq_of_error outcome
  · intro other
    constructor
    · intro refused
      rw [refused] at outcome
      cases outcome with
      | mixed mixed => exact ⟨rfl, mixed⟩
    · rintro ⟨rfl, mixed⟩
      exact (EnumOutcome.mixed mixed).eq_of_error outcome
  · intro other x
    constructor
    · intro refused
      rw [refused] at outcome
      cases outcome with
      | fractional reported => exact ⟨rfl, reported⟩
    · rintro ⟨rfl, reported⟩
      exact (EnumOutcome.fractional reported).eq_of_error outcome
  · rintro ⟨numbered, made, _⟩
    rw [made] at outcome
    cases outcome with
    | made nonempty uniform unreported => exact ⟨nonempty, uniform, unreported⟩
  · rintro ⟨nonempty, uniform, unreported⟩
    generalize resolve (.enum name members) = result at outcome
    cases outcome with
    | empty none => exact absurd none nonempty
    | mixed mixed => exact absurd mixed uniform
    | fractional reported => exact absurd reported (unreported _)
    | made _ _ _ names values => exact ⟨_, rfl, names, values⟩

/-! ## Counting on from integers -/

/-- The number of the member at a place: the one that it was given; else the last number given
before it, plus the places from there; else, if none was given before it, its place. -/
inductive CountsTo (members : List EnumMember) (place : Nat) : Int → Prop
  | own {n : Int} : ownValue? members place = some (.int n) → CountsTo members place n
  | after {last : Nat} {n : Int} : ownValue? members place = none → last < place →
      ownValue? members last = some (.int n) →
      (∀ between, last < between → between < place → ownValue? members between = none) →
      CountsTo members place (n + (place - last))
  | start : ownValue? members place = none →
      (∀ earlier < place, ownValue? members earlier = none) → CountsTo members place place

/-- A member without a value has the number after that of the member before it. -/
theorem CountsTo.succ {place : Nat} {n : Int} (counted : CountsTo members place n)
    (missing : ownValue? members (place + 1) = none) : CountsTo members (place + 1) (n + 1) := by
  cases counted with
  | own given =>
    have next : n + 1 = n + ((place + 1 : Nat) - (place : Int)) := by omega
    rw [next]
    refine .after missing (Nat.lt_succ_self place) given ?_
    intro between above below
    omega
  | @after last given unvalued before valued gap =>
    have next : given + ((place : Int) - last) + 1 =
        given + ((place + 1 : Nat) - (last : Int)) := by
      omega
    rw [next]
    refine .after missing (Nat.lt_succ_of_lt before) valued ?_
    intro between above below
    rcases Nat.lt_succ_iff_lt_or_eq.mp below with inside | rfl
    · exact gap between above inside
    · exact unvalued
  | start unvalued gap =>
    refine .start missing ?_
    intro earlier below
    rcases Nat.lt_succ_iff_lt_or_eq.mp below with inside | rfl
    · exact gap earlier inside
    · exact unvalued

theorem effectiveValue?_of_own {place : Nat} {value : RawValue}
    (own : ownValue? members place = some value) :
    effectiveValue? start members place = some value := by
  obtain ⟨member, inside, valued⟩ := Option.bind_eq_some_iff.mp own
  cases place <;> simp [effectiveValue?, inside, valued]

theorem effectiveValue?_zero (inside : 0 < members.length)
    (missing : ownValue? members 0 = none) : effectiveValue? start members 0 = start := by
  rw [ownValue?, List.getElem?_eq_getElem inside, Option.bind_some] at missing
  simp [effectiveValue?, List.getElem?_eq_getElem inside, missing]

theorem effectiveValue?_succ {place : Nat} (inside : place + 1 < members.length)
    (missing : ownValue? members (place + 1) = none) : effectiveValue? start members (place + 1) =
      (effectiveValue? start members place).bind RawValue.next? := by
  rw [ownValue?, List.getElem?_eq_getElem inside, Option.bind_some] at missing
  simp [effectiveValue?, List.getElem?_eq_getElem inside, missing]

theorem lt_length_of_effectiveValue? {place : Nat} {value : RawValue}
    (counted : effectiveValue? start members place = some value) : place < members.length := by
  obtain ⟨member, found⟩ : ∃ member, members[place]? = some member := by
    cases place with
    | zero => exact (Option.bind_eq_some_iff.mp counted).imp fun _ found => found.1
    | succ before => exact (Option.bind_eq_some_iff.mp counted).imp fun _ found => found.1
  exact (List.getElem?_eq_some_iff.mp found).1

/-- The count that hands on the next number agrees with the closed form at every place. -/
theorem exists_countsTo
    (integers : ∀ member ∈ members, ∀ value, member.value = some value → ∃ n, value = .int n)
    {place : Nat} (inside : place < members.length) :
    ∃ n, effectiveValue? (some (.int 0)) members place = some (.int n) ∧
      CountsTo members place n := by
  have written : ∀ place value, ownValue? members place = some value →
      ∃ n, effectiveValue? (some (.int 0)) members place = some (.int n) ∧
        CountsTo members place n := by
    intro place value own
    obtain ⟨member, found, valued⟩ := Option.bind_eq_some_iff.mp own
    obtain ⟨n, rfl⟩ := integers member (List.mem_of_getElem? found) value valued
    exact ⟨n, effectiveValue?_of_own own, .own own⟩
  induction place with
  | zero =>
    cases own : ownValue? members 0 with
    | some value => exact written 0 value own
    | none => exact ⟨0, effectiveValue?_zero inside own, .start own (by simp)⟩
  | succ place ih =>
    cases own : ownValue? members (place + 1) with
    | some value => exact written (place + 1) value own
    | none =>
      obtain ⟨n, counted, law⟩ := ih (Nat.lt_of_succ_lt inside)
      refine ⟨n + 1, ?_, law.succ own⟩
      rw [effectiveValue?_succ inside own, counted]
      rfl

/-- **The law of counting.** An enum declaration with members, all of whose written values are
integers of whatever size and sign, becomes an enum with the same names. The member at each place
has the integer written for it; else the last integer written before it, plus the number of places
from there; else, where none is written before it, its place. -/
theorem members_count_on {name : String} {members : List EnumMember} (nonempty : members ≠ [])
    (integers : ∀ member ∈ members, ∀ value, member.value = some value → ∃ n, value = .int n) :
    ∃ numbered, resolve (.enum name members) = .ok (.enum ⟨name, numbered⟩) ∧
      numbered.map EnumMember.name = members.map EnumMember.name ∧
      ∀ place < members.length, ∃ n, ownValue? numbered place = some (.int n) ∧
        CountsTo members place n := by
  have noText : ∀ member ∈ members, ∀ s, member.value ≠ some (.text s) := by
    intro member inside s text
    obtain ⟨n, impossible⟩ := integers member inside _ text
    cases impossible
  have outcome := enumOutcome_resolve name members
  generalize resolve (.enum name members) = result at outcome
  cases outcome with
  | empty none => exact absurd none nonempty
  | mixed mixed =>
    obtain ⟨⟨member, inside, s, text⟩, _⟩ := mixed
    exact absurd text (noText member inside s)
  | fractional reported =>
    -- no value is a floating-point number
    obtain ⟨_, place, counted, _⟩ := reported.first
    obtain ⟨n, integer, _⟩ := exists_countsTo integers (lt_length_of_effectiveValue? counted)
    rw [counted] at integer
    cases integer
  | made _ _ _ names values =>
    refine ⟨_, rfl, names, ?_⟩
    intro place inside
    rw [values]
    exact exists_countsTo integers inside

/-- Integers of both signs, one of them beyond any machine word, among members without a value. -/
def countedLevels : List EnumMember :=
  [⟨"off", none⟩, ⟨"low", some (.int 5)⟩, ⟨"middle", none⟩, ⟨"high", none⟩,
    ⟨"deep", some (.int (-1180591620717411303424))⟩, ⟨"next", none⟩]

theorem members_count_on_levels :
    countedLevels ≠ [] ∧
      (∀ member ∈ countedLevels, ∀ value, member.value = some value → ∃ n, value = .int n) ∧
      resolve (.enum "Level" countedLevels) = .ok (.enum ⟨"Level", [⟨"off", some (.int 0)⟩,
        ⟨"low", some (.int 5)⟩, ⟨"middle", some (.int 6)⟩, ⟨"high", some (.int 7)⟩,
        ⟨"deep", some (.int (-1180591620717411303424))⟩,
        ⟨"next", some (.int (-1180591620717411303423))⟩]⟩) ∧
      CountsTo countedLevels 3 7 ∧ CountsTo countedLevels 5 (-1180591620717411303423) := by
  have nonempty : countedLevels ≠ [] := List.cons_ne_nil _ _
  have integers : ∀ member ∈ countedLevels, ∀ value, member.value = some value →
      ∃ n, value = .int n := by
    simp [countedLevels]
  obtain ⟨numbered, made, _, law⟩ := @members_count_on "Level" countedLevels nonempty integers
  obtain rfl : numbered = [⟨"off", some (.int 0)⟩, ⟨"low", some (.int 5)⟩,
      ⟨"middle", some (.int 6)⟩, ⟨"high", some (.int 7)⟩,
      ⟨"deep", some (.int (-1180591620717411303424))⟩,
      ⟨"next", some (.int (-1180591620717411303423))⟩] := by
    cases made
    rfl
  obtain ⟨high, highValue, highLaw⟩ := law 3 (by decide)
  obtain ⟨next, nextValue, nextLaw⟩ := law 5 (by decide)
  cases highValue
  cases nextValue
  exact ⟨nonempty, integers, made, highLaw, nextLaw⟩

end Schema
end NativeRecords
