/-
# NativeRecords.Proofs.Resolution -- which source types a schema can express

Resolving a type follows its arrays and maps down to types without parts. The types that it can
resolve are the words of a small grammar (`Supported`), and what it makes of one has the same
arrays and maps in the same places (`Mirrors`).

Where it gives up can be told without resolving anything. Some types are foreign to every schema
whatever their parts are: an array without an element type, a generic type that is not the map of
two arguments, a union without a name, null. A type is listed with the types inside it, depth first
and from left to right, and the first foreign one in the list is the one that is reported.
-/
import NativeRecords.Proofs.Mentions
import NativeRecords.Schema.Resolve

namespace NativeRecords.Source.Descriptor

/-! ## Types with a counterpart -/

/-- A schema can express the type. -/
inductive Supported : Descriptor → Prop
  | primitive {kind : Primitive} {display : String} : Supported (.primitive kind display)
  | array {display : String} {element : Descriptor} :
      Supported element → Supported (.array display element)
  | map {display : String} {key value : Descriptor} :
      Supported key → Supported value → Supported (.generic display "Record" [key, value])
  | reference {kind : ReferenceKind} {name : String} : Supported (.reference kind name)
  | named {display name : String} {members : List Descriptor} :
      name ≠ "" → Supported (.union display (some name) members)

/-- The schema type has the arrays and maps of the source type in the same places, and where these
end the same primitive type or a reference by the same name. -/
inductive Mirrors : Descriptor → SchemaType → Prop
  | primitive {kind : Primitive} {display : String} :
      Mirrors (.primitive kind display) (.primitive kind)
  | array {display : String} {element : Descriptor} {inner : SchemaType} :
      Mirrors element inner → Mirrors (.array display element) (.array inner)
  | map {display : String} {key value : Descriptor} {keys values : SchemaType} :
      Mirrors key keys → Mirrors value values →
      Mirrors (.generic display "Record" [key, value]) (.map keys values)
  | reference {kind : ReferenceKind} {name : String} :
      Mirrors (.reference kind name) (.reference kind name)
  | named {display name : String} {members : List Descriptor} :
      name ≠ "" → Mirrors (.union display (some name) members) (.reference .enum name)

variable {type : Descriptor} {resolved : SchemaType}

theorem supported_iff_mirrors : type.Supported ↔ ∃ resolved, type.Mirrors resolved := by
  constructor
  · intro supported
    induction supported with
    | primitive => exact ⟨_, .primitive⟩
    | array _ ih =>
      obtain ⟨inner, mirrors⟩ := ih
      exact ⟨.array inner, .array mirrors⟩
    | map _ _ ihKey ihValue =>
      obtain ⟨keys, mirrorsKey⟩ := ihKey
      obtain ⟨values, mirrorsValue⟩ := ihValue
      exact ⟨.map keys values, .map mirrorsKey mirrorsValue⟩
    | reference => exact ⟨_, .reference⟩
    | named nonempty => exact ⟨_, .named nonempty⟩
  · rintro ⟨resolved, mirrors⟩
    induction mirrors with
    | primitive => exact .primitive
    | array _ ih => exact .array ih
    | map _ _ ihKey ihValue => exact .map ihKey ihValue
    | reference => exact .reference
    | named nonempty => exact .named nonempty

/-- No part of the counterpart is missing. -/
theorem Mirrors.isComplete (mirrors : type.Mirrors resolved) : resolved.isComplete = true := by
  induction mirrors with
  | array _ ih => exact ih
  | map _ _ ihKey ihValue => simp [SchemaType.isComplete, ihKey, ihValue]
  | primitive | reference | named => rfl

/-- A type resolves to its counterpart and to nothing else. -/
theorem resolve_eq_ok_iff : type.resolve = .ok resolved ↔ type.Mirrors resolved := by
  constructor
  · intro h
    fun_induction resolve type generalizing resolved with
    | case1 kind =>
      cases h
      exact .primitive
    | case2 display element ih =>
      obtain ⟨inner, found, rfl⟩ := map_eq_ok_iff.mp h
      exact .array (ih found)
    | case4 display key value ihKey ihValue =>
      obtain ⟨keys, keyOk, h⟩ := bind_eq_ok_iff.mp h
      obtain ⟨values, valueOk, h⟩ := bind_eq_ok_iff.mp h
      cases h
      exact .map (ihKey keyOk) (ihValue valueOk)
    | case7 kind name =>
      cases h
      exact .reference
    | case9 display name members nonempty =>
      cases h
      exact .named nonempty
    | _ => cases h
  · intro mirrors
    induction mirrors with
    | primitive | reference => rfl
    | array _ ih => exact map_eq_ok_iff.mpr ⟨_, ih, rfl⟩
    | map _ _ ihKey ihValue =>
      rw [resolve, ihKey, ihValue]
      rfl
    | named nonempty => rw [resolve, if_neg nonempty]

/-! ## The first type without one -/

/-- The type has no counterpart, whatever the types inside it are. -/
def isForeign : Descriptor → Bool
  | .primitive _ _ | .array _ _ | .reference _ _ => false
  | .generic _ name arguments => name != "Record" || arguments.length != 2
  | .union _ aliasName _ => !aliasName.any (· ≠ "")
  | .bareArray _ | .object _ _ | .literal _ _ _ | .nullish _ _ | .other _ => true

mutual

/-- The type and the elements and arguments inside it, depth first and from left to right. -/
def parts : Descriptor → List Descriptor
  | .array display element => .array display element :: element.parts
  | .generic display name arguments => .generic display name arguments :: partsOf arguments
  | type => [type]

/-- The parts of each of the types in turn. -/
def partsOf : List Descriptor → List Descriptor
  | [] => []
  | type :: rest => type.parts ++ partsOf rest

end

/-- The first part that has no counterpart. -/
def firstForeign? (type : Descriptor) : Option Descriptor := type.parts.find? isForeign

theorem firstForeign?_array (display : String) (element : Descriptor) :
    (array display element).firstForeign? = element.firstForeign? := by
  simp [firstForeign?, parts, isForeign]

theorem firstForeign?_map (display : String) (key value : Descriptor) :
    (generic display "Record" [key, value]).firstForeign?
      = key.firstForeign?.or value.firstForeign? := by
  simp [firstForeign?, parts, partsOf, isForeign]

/-- A foreign type is reported itself, since it stands before all that is inside it. -/
theorem firstForeign?_of_isForeign (foreign : type.isForeign = true) :
    type.firstForeign? = some type := by
  cases type <;> simp_all [firstForeign?, parts]

/-- Resolving ends well where no part is foreign, and otherwise reports the first that is. -/
theorem resolve_ok_or_firstForeign (type : Descriptor) :
    (type.firstForeign? = none ∧ ∃ resolved, type.resolve = .ok resolved) ∨
      ∃ part, type.firstForeign? = some part ∧
        type.resolve = .error (.unsupportedType part.display) := by
  fun_induction resolve type with
  | case1 | case7 => exact .inl ⟨rfl, _, rfl⟩
  | case2 display element ih =>
    rw [firstForeign?_array]
    rcases ih with ⟨nothing, inner, found⟩ | ⟨part, first, failed⟩
    · exact .inl ⟨nothing, .array inner, map_eq_ok_iff.mpr ⟨inner, found, rfl⟩⟩
    · exact .inr ⟨part, first, map_eq_error_iff.mpr failed⟩
  | case4 display key value ihKey ihValue =>
    rw [mapGeneric, firstForeign?_map]
    rcases ihKey with ⟨nothing, keys, keyOk⟩ | ⟨part, first, failed⟩
    · rw [nothing, Option.none_or, keyOk]
      rcases ihValue with ⟨nothing, values, valueOk⟩ | ⟨part, first, failed⟩
      · rw [valueOk]
        exact .inl ⟨nothing, .map keys values, rfl⟩
      · rw [failed]
        exact .inr ⟨part, first, rfl⟩
    · -- the value is not looked at
      rw [first, failed]
      exact .inr ⟨part, rfl, rfl⟩
  | case5 display name key value unknown =>
    have foreign : (generic display name [key, value]).isForeign = true := by
      simpa [isForeign, mapGeneric] using unknown
    exact .inr ⟨_, firstForeign?_of_isForeign foreign, rfl⟩
  | case6 display name arguments notTwo =>
    -- the map comes before this case in the definition, so there are not two arguments
    have arity : arguments.length ≠ 2 := by
      intro two
      obtain ⟨key, value, same⟩ := List.length_eq_two.mp two
      exact notTwo key value same
    have foreign : (generic display name arguments).isForeign = true := by simp [isForeign, arity]
    exact .inr ⟨_, firstForeign?_of_isForeign foreign, rfl⟩
  | case9 display name members nonempty =>
    have nothing : (union display (some name) members).firstForeign? = none := by
      simp [firstForeign?, parts, isForeign, nonempty]
    exact .inl ⟨nothing, _, rfl⟩
  | case3 | case8 | case10 | case11 | case12 | case13 | case14 =>
    exact .inr ⟨_, firstForeign?_of_isForeign rfl, rfl⟩

/-- **A type resolves exactly if a schema can express it.** What it resolves to mirrors the type and
is complete. Every other type is reported by the display text of its first foreign part. -/
theorem resolve_mirrors_or_names_first_foreign (type : Descriptor) :
    ((∃ resolved, type.resolve = .ok resolved) ↔ type.Supported) ∧
    (∀ resolved, type.resolve = .ok resolved ↔
      type.Mirrors resolved ∧ resolved.isComplete = true) ∧
    ∀ failure, type.resolve = .error failure ↔
      ∃ part, type.firstForeign? = some part ∧ failure = .unsupportedType part.display := by
  refine ⟨?_, ?_, ?_⟩
  · simp only [resolve_eq_ok_iff, supported_iff_mirrors]
  · intro resolved
    rw [resolve_eq_ok_iff]
    exact ⟨fun mirrors => ⟨mirrors, mirrors.isComplete⟩, And.left⟩
  · intro failure
    rcases type.resolve_ok_or_firstForeign with ⟨nothing, resolved, found⟩ | ⟨part, first, failed⟩
    · simp [nothing, found]
    · simp [first, failed, eq_comm]

-- of the two foreign parts the one in the key comes first, and the array around it is not to blame
example : (generic "Record<Date[], []>" "Record"
    [array "Date[]" (other "Date"), bareArray "[]"]).resolve = .error (.unsupportedType "Date") :=
  rfl

end NativeRecords.Source.Descriptor
