/-
# NativeRecords.Source.Document -- from a document to its declarations

Reading a document classifies every type against the whole document, so references may point
forward. A reference to an enum, to an interface or to an alias of an object shape stays a
reference. Any other alias is replaced by its type; a union then keeps the alias's name. An alias
met again while it is being expanded is left as it stands, which is what makes the expansion end:
every expansion uses up one of the declared names.
-/
import NativeRecords.Measure
import NativeRecords.Source.Declaration
import NativeRecords.Source.Outline

namespace NativeRecords.Source

/-! ## Types -/

/-- The type that a built-in name stands for. -/
def builtin? : String → Option Descriptor
  | "string" => some (.primitive .string "string")
  | "number" => some (.primitive .number "number")
  | "boolean" => some (.primitive .boolean "boolean")
  | "any" => some (.primitive .any "any")
  | "Uint8Array" => some (.primitive .byteArray "Uint8Array")
  | "null" => some (.nullish .null "null")
  | "undefined" => some (.nullish .undefined "undefined")
  | _ => none

/-- The type that a name stands for, with the characters of the name given from its end. Each `[]`
at the end makes an array; what is left is built in or declared. -/
def classifyName (refer : String → Except Failure Descriptor) :
    List Char → Except Failure Descriptor
  | ']' :: '[' :: rest =>
    (classifyName refer rest).map (.array (String.ofList (']' :: '[' :: rest).reverse))
  | reversed =>
    let name := String.ofList reversed.reverse
    match builtin? name with
    | some type => .ok type
    | none => refer name

/-- One property in the display text of an object type. -/
def propertyDisplay : Property → String
  | .typed name type _ => name ++ ": " ++ type.display
  | .untyped name _ => name

/-- The display text of an object type. -/
def objectDisplay : List Property → String
  | [] => "\x7b\x7d"
  | properties => "\x7b " ++ "; ".intercalate (properties.map propertyDisplay) ++ " \x7d"

/-- A literal type. -/
def literalType (value : RawValue) : Descriptor :=
  match value with
  | .text s => .literal .string ("\"" ++ s ++ "\"") (some value)
  | _ => .literal .number value.shown (some value)

mutual

/-- Classifies a type expression; `refer` says what a name that is not built in stands for. -/
def TypeExpr.classify (refer : String → Except Failure Descriptor) :
    TypeExpr → Except Failure Descriptor
  | .named name => classifyName refer name.toList.reverse
  | .array element =>
    (TypeExpr.classify refer element).map fun type => .array (type.display ++ "[]") type
  | .bareArray => .ok (.bareArray "[]")
  | .generic name arguments =>
    (TypeExpr.classifyAll refer arguments).map fun types =>
      .generic (name ++ "<" ++ ", ".intercalate (types.map Descriptor.display) ++ ">") name types
  | .union members =>
    (TypeExpr.classifyAll refer members).map fun types =>
      .union (Descriptor.unionDisplay types) none types
  | .literal value => .ok (literalType value)
  | .object properties =>
    (PropertyExpr.classifyAll refer properties).map fun typed =>
      .object (objectDisplay typed) typed
  | .malformed failure => .error failure

/-- Classifies type expressions in order. -/
def TypeExpr.classifyAll (refer : String → Except Failure Descriptor) :
    List TypeExpr → Except Failure (List Descriptor)
  | [] => .ok []
  | expr :: rest => do
    let type ← TypeExpr.classify refer expr
    let types ← TypeExpr.classifyAll refer rest
    return type :: types

/-- Classifies the type of a property. -/
def PropertyExpr.classify (refer : String → Except Failure Descriptor) :
    PropertyExpr → Except Failure Property
  | .typed name type optional =>
    (TypeExpr.classify refer type).map fun type => .typed name type optional
  | .malformed failure => .error failure

/-- Classifies properties in order. -/
def PropertyExpr.classifyAll (refer : String → Except Failure Descriptor) :
    List PropertyExpr → Except Failure (List Property)
  | [] => .ok []
  | expr :: rest => do
    let property ← PropertyExpr.classify refer expr
    let properties ← PropertyExpr.classifyAll refer rest
    return property :: properties

end

theorem TypeExpr.classifyAll_eq_mapM (refer : String → Except Failure Descriptor)
    (exprs : List TypeExpr) :
    TypeExpr.classifyAll refer exprs = exprs.mapM (TypeExpr.classify refer) := by
  induction exprs with
  | nil => rfl
  | cons expr exprs ih => rw [TypeExpr.classifyAll, List.mapM_cons, ih]

theorem PropertyExpr.classifyAll_eq_mapM (refer : String → Except Failure Descriptor)
    (exprs : List PropertyExpr) :
    PropertyExpr.classifyAll refer exprs = exprs.mapM (PropertyExpr.classify refer) := by
  induction exprs with
  | nil => rfl
  | cons expr exprs ih => rw [PropertyExpr.classifyAll, List.mapM_cons, ih]

/-! ## References -/

/-- The declared names that are not being expanded. -/
def unexpanded (table : List Outline) (expanding : List String) : List String :=
  (table.map Outline.name).filter fun name => !expanding.contains name

/-- Expanding one more declared name leaves fewer of them. -/
theorem length_unexpanded_cons {table : List Outline} {expanding : List String} {name : String}
    (declared : name ∈ table.map Outline.name) (fresh : ¬ name ∈ expanding) :
    (unexpanded table (name :: expanding)).length < (unexpanded table expanding).length := by
  simp only [unexpanded, ← List.countP_eq_length_filter]
  exact countP_lt_of_mem (fun n => by simp) declared (by simp) (by simpa using fresh)

/-- A name that is found in a table is declared there. -/
theorem mem_names_of_find? {table : List Outline} {name : String} {outline : Outline}
    (found : table.find? (·.name = name) = some outline) : name ∈ table.map Outline.name := by
  have named := List.find?_some found
  exact List.mem_map.mpr ⟨outline, List.mem_of_find?_eq_some found, by simpa using named⟩

/-- The type that a reference to an alias stands for: a union takes the alias's name. -/
def Descriptor.aliased (name : String) : Descriptor → Descriptor
  | .union _ _ members => .union name (some name) members
  | type => type

/-- What a name stands for in a document, while the aliases in `expanding` are being expanded. -/
def reference (table : List Outline) (expanding : List String) (name : String) :
    Except Failure Descriptor :=
  match _declared : table.find? (·.name = name) with
  | none => .ok (.other name)
  | some (.enum _ _) => .ok (.reference .enum name)
  | some (.interface _ _) => .ok (.reference .record name)
  | some (.typeAlias _ objectShaped type) =>
    if objectShaped then .ok (.reference .record name)
    else if _fresh : name ∈ expanding then .ok (.other name)
    else
      match type with
      | none => .error (.malformed (.typeExpression .null))
      | some expr =>
        (expr.classify fun other => reference table (name :: expanding) other).map
          (Descriptor.aliased name)
termination_by (unexpanded table expanding).length
decreasing_by exact length_unexpanded_cons (mem_names_of_find? _declared) _fresh

/-! ## Documents -/

/-- Classifies the types of a declaration. -/
def Outline.classify (table : List Outline) (expanding : List String) :
    Outline → Except Failure Declaration
  | .enum name members => members.map (.enum name)
  | .interface name properties =>
    (PropertyExpr.classifyAll (reference table expanding) properties).map (.interface name)
  | .typeAlias name _ none => .error (.malformed (.aliasWithoutType name))
  | .typeAlias name _ (some type) =>
    (type.classify (reference table expanding)).map (.typeAlias name)

/-- Reads a document. All outlines are taken before the first type is classified, so a declaration
without an outline fails the document before any type does. -/
def readDocument (document : Json) : Except Failure (List Declaration) :=
  match entries? document with
  | none => .error (.malformed .noDeclarationList)
  | some entries =>
    match Outline.readAll entries with
    | (_, some failure) => .error failure
    | (table, none) => table.mapM (Outline.classify table [])

end NativeRecords.Source
