/-
# NativeRecords.Schema.Build -- from source declarations to an ordered schema
-/
import NativeRecords.Schema.Order
import NativeRecords.Schema.Resolve

namespace NativeRecords.Schema

/-- The schema of source declarations, in the order in which it is emitted. All declarations are
resolved before they are ordered. -/
def build (declarations : List Source.Declaration) : Except Failure (List Declaration) := do
  let resolved ← declarations.mapM resolve
  order resolved

end NativeRecords.Schema
