/-
# NativeRecords.Proofs.Shorthand -- two ways to write an array

An array type is written with `[]` after a name or with an `array` part around a type. The two are
read along different ways, and where the name is that of an alias they are not even displayed alike:
the shorthand shows the name as it was written, the explicit form shows what the name stands for.
They are the same type all the same, and no difference of display comes out when they are resolved,
since an array with an element type is never reported itself.
-/
import NativeRecords.Proofs.Grammar
import NativeRecords.Source.Reader

namespace NativeRecords.Source

/-! ## Arrays around a type -/

/-- A text with this many `[]` after it. -/
def shorthand (text : String) : Nat → String
  | 0 => text
  | count + 1 => shorthand text count ++ "[]"

/-- A name with this many `array` parts around it. -/
def explicitArray (name : String) : Nat → Json
  | 0 => .str name
  | count + 1 => .obj [("array", explicitArray name count)]

namespace Descriptor

/-- This many arrays around a type, displayed as a text with `[]` after it. -/
def arrays (type : Descriptor) (text : String) : Nat → Descriptor
  | 0 => type
  | count + 1 => .array (shorthand text (count + 1)) (type.arrays text count)

/-- The types differ at most in how the arrays around them are displayed. -/
inductive SameShape : Descriptor → Descriptor → Prop
  | same (type : Descriptor) : SameShape type type
  | array {display display' : String} {element element' : Descriptor} :
      SameShape element element' → SameShape (.array display element) (.array display' element')

theorem sameShape_arrays (type : Descriptor) (text text' : String) (count : Nat) :
    (type.arrays text count).SameShape (type.arrays text' count) := by
  induction count with
  | zero => exact .same type
  | succ count ih => exact .array ih

theorem display_arrays (type : Descriptor) (count : Nat) :
    (type.arrays type.display count).display = shorthand type.display count := by
  cases count <;> rfl

/-- Types of the same shape resolve alike: an array is resolved by its element and never shown. -/
theorem SameShape.resolve_eq {type type' : Descriptor} (h : type.SameShape type') :
    type.resolve = type'.resolve := by
  induction h with
  | same type => rfl
  | array _ ih => rw [resolve, resolve, ih]

end Descriptor

/-! ## The two forms -/

section Forms

variable {refer : String → Except Failure Descriptor}

theorem classify_shorthand_succ (stem : String) :
    (TypeExpr.named (stem ++ "[]")).classify refer =
      ((TypeExpr.named stem).classify refer).map (.array (stem ++ "[]")) := by
  have ends : (stem ++ "[]").toList.reverse = ']' :: '[' :: stem.toList.reverse := by simp
  have whole : String.ofList (']' :: '[' :: stem.toList.reverse).reverse = stem ++ "[]" := by
    rw [← ends, List.reverse_reverse, String.ofList_toList]
  rw [TypeExpr.classify, TypeExpr.classify, ends, classifyName, whole]

/-- The shorthand shows the name in every array. -/
theorem classify_shorthand (name : String) (count : Nat) :
    (TypeExpr.named (shorthand name count)).classify refer =
      ((TypeExpr.named name).classify refer).map fun type => type.arrays name count := by
  induction count with
  | zero =>
    rw [shorthand]
    cases (TypeExpr.named name).classify refer <;> rfl
  | succ count ih =>
    rw [shorthand, classify_shorthand_succ, ih]
    cases (TypeExpr.named name).classify refer <;> rfl

theorem ofJson_explicitArray_succ (name : String) (count : Nat) :
    TypeExpr.ofJson (explicitArray name (count + 1))
      = .array (TypeExpr.ofJson (explicitArray name count)) := by
  have notNull : explicitArray name count ≠ .null := by cases count <;> simp [explicitArray]
  have first : Grammar.firstPart? [("array", explicitArray name count)]
      = some (.array, explicitArray name count) := rfl
  rw [explicitArray, TypeExpr.ofJson_obj, first]
  cases inner : explicitArray name count with
  | null => exact absurd inner notNull
  | _ => rfl

/-- The explicit form shows what the name stands for. -/
theorem classify_explicitArray (name : String) (count : Nat) :
    (TypeExpr.ofJson (explicitArray name count)).classify refer =
      ((TypeExpr.named name).classify refer).map fun type => type.arrays type.display count := by
  induction count with
  | zero =>
    rw [explicitArray, TypeExpr.ofJson]
    cases (TypeExpr.named name).classify refer <;> rfl
  | succ count ih =>
    generalize (TypeExpr.named name).classify refer = outcome at ih ⊢
    rw [ofJson_explicitArray_succ, TypeExpr.classify, ih]
    cases outcome with
    | error failure => rfl
    | ok type =>
      simp only [Except.map, Descriptor.arrays, Descriptor.display_arrays, shorthand]

end Forms

/-- **The shorthand for arrays and the explicit form agree.** Both are read exactly if the name is,
and fail alike if it is not; in a well-formed document it always is. The types have the same shape
and differ only in the text that the arrays around the name are displayed by. They resolve to one
schema type or are reported by one display text. -/
theorem shorthand_agrees_with_explicit (reader : Reader) (name : String) (count : Nat) :
    ∃ outcome,
      Reading.ofType (.named name) reader = some (outcome, reader) ∧
      Reading.ofType (TypeExpr.ofJson (.str (shorthand name count))) reader =
        some (outcome.map fun type => type.arrays name count, reader) ∧
      Reading.ofType (TypeExpr.ofJson (explicitArray name count)) reader =
        some (outcome.map fun type => type.arrays type.display count, reader) ∧
      ((∀ outline ∈ reader.table, outline.WellFormed) → ∃ type, outcome = .ok type) ∧
      ∀ type, outcome = .ok type →
        let short := type.arrays name count
        let long := type.arrays type.display count
        short.SameShape long ∧
          ((∃ resolved, short.resolve = .ok resolved ∧ long.resolve = .ok resolved) ∨
            ∃ display, short.resolve = .error (.unsupportedType display) ∧
              long.resolve = .error (.unsupportedType display)) := by
  refine ⟨_, Reading.ofType_eq reader (.named name), ?_, ?_, ?_, ?_⟩
  · rw [TypeExpr.ofJson, Reading.ofType_eq, classify_shorthand]
  · rw [Reading.ofType_eq, classify_explicitArray]
  · intro whole
    have total := exists_reference whole reader.expanding
    exact exists_classifyName total name.toList.reverse
  · intro type _
    have shape := type.sameShape_arrays name type.display count
    refine ⟨shape, ?_⟩
    rw [← shape.resolve_eq]
    rcases (type.arrays name count).resolve_ok_or_firstForeign with
      ⟨_, resolved, found⟩ | ⟨part, _, failed⟩
    · exact .inl ⟨resolved, found, found⟩
    · exact .inr ⟨part.display, failed, failed⟩

end NativeRecords.Source
