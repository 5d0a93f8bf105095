import Cara.Lib.Text
import Mathlib.Algebra.Order.Ring.Nat

/-! Bytes of a JSON text in the two layouts of a serializer: compact, and indented by two
blanks a level with one entry a line. -/

structure Json where
  compact : ℕ
  indented : ℕ → ℕ

namespace Json

def charBytes (c : Char) : ℕ :=
  if c = '"' ∨ c = '\\' then 2
  else if c.toNat < 0x20 then
    if c.toNat ∈ [0x8,0x9,0xa,0xc,0xd] then 2 else 6
  else c.utf8Size

def quoted (s : String) : ℕ := 2 + (s.toList.map charBytes).sum

def scalar (bytes : ℕ) : Json := ⟨bytes,fun _ => bytes⟩

def str (s : String) : Json := scalar (quoted s)

def num (n : ℕ) : Json := scalar (Nat.toDigits 10 n).length

def bool (b : Bool) : Json := scalar (if b then 4 else 5)

/-- Brackets around entries with commas between them. An empty collection has no line breaks. -/
def collection (entries : List Json) : Json where
  compact := 2 + (entries.length - 1) + (entries.map (·.compact)).sum
  indented depth :=
    if entries.isEmpty then 2
    else 2 + (entries.length - 1) + (entries.map fun e => 1 + 2 * (depth + 1) + e.indented (depth + 1)).sum +
      (1 + 2 * depth)

def array (items : List Json) : Json := collection items

/-- A key and its value; the indented layout has a blank after the colon. -/
def entry (key : String) (value : Json) : Json where
  compact := quoted key + 1 + value.compact
  indented depth := quoted key + 2 + value.indented depth

def object (fields : List (List Json)) : Json := collection fields.flatten

def field (key : String) (value : Json) : List Json := [entry key value]

def optional {α : Type} (key : String) (value : Option α) (encode : α → Json) : List Json :=
  value.toList.map fun v => entry key (encode v)

end Json
