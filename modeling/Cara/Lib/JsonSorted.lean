import Cara.Lib.JsonText
import Mathlib.Data.List.Sort

/-! Documents with the fields of every object in the order of their names. -/
namespace JsonValue

section Sorted

def keyLe (a b : String × JsonValue) : Prop := a.1 ≤ b.1

instance : DecidableRel keyLe := fun a b => inferInstanceAs (Decidable (a.1 ≤ b.1))

mutual

/-- The document with the fields of every object in the order of their names. -/
def sorted : JsonValue → JsonValue
  | .arr items => .arr (sortedItems items)
  | .obj fields => .obj ((sortedFields fields).insertionSort keyLe)
  | v => v

def sortedItems : List JsonValue → List JsonValue
  | [] => []
  | v::items => sorted v::sortedItems items

def sortedFields : List (String × JsonValue) → List (String × JsonValue)
  | [] => []
  | (key,v)::fields => (key,sorted v)::sortedFields fields

end

end Sorted

end JsonValue
