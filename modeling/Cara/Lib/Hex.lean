import Cara.Lib.Text
import Mathlib.Tactic.IntervalCases

/-! Bytes as pairs of hexadecimal digits, and texts cut out between two markers. -/
namespace Text

section Hex

def hexChars (b : UInt8) : List Char := [Nat.digitChar (b.toNat / 16),Nat.digitChar (b.toNat % 16)]

def hexEncode (bytes : List UInt8) : List Char := bytes.flatMap hexChars

def hexValue (c : Char) : Option ℕ :=
  let n := c.toNat
  if 48 ≤ n ∧ n ≤ 57 then some (n - 48)
  else if 97 ≤ n ∧ n ≤ 102 then some (n - 87)
  else if 65 ≤ n ∧ n ≤ 70 then some (n - 55)
  else none

/-- One byte of two characters; a leading plus sign is no digit but is read over. -/
def hexByte (c d : Char) : Option UInt8 :=
  if c = '+' then (hexValue d).map UInt8.ofNat
  else match hexValue c,hexValue d with
    | some high,some low => some (UInt8.ofNat (16 * high + low))
    | _,_ => none

def hexDecode : List Char → Option (List UInt8)
  | [] => some []
  | [_] => none
  | c::d::rest => match hexByte c d,hexDecode rest with
    | some b,some bytes => some (b::bytes)
    | _,_ => none

theorem hexValue_digitChar {n : ℕ} (h : n < 16) :
    hexValue (Nat.digitChar n) = some n ∧ Nat.digitChar n ≠ '+' ∧ Nat.digitChar n ≠ ' ' := by
  interval_cases n <;> decide

theorem hexDecode_hexEncode (bytes : List UInt8) : hexDecode (hexEncode bytes) = some bytes := by
  induction bytes with
  | nil => rfl
  | cons b bytes ih =>
    have hb := b.toNat_lt
    obtain ⟨hhigh,hplus,-⟩ := hexValue_digitChar (show b.toNat / 16 < 16 by omega)
    obtain ⟨hlow,-,-⟩ := hexValue_digitChar (show b.toNat % 16 < 16 by omega)
    have hbyte : hexByte (Nat.digitChar (b.toNat / 16)) (Nat.digitChar (b.toNat % 16)) = some b := by
      unfold hexByte
      rw [if_neg hplus,hhigh,hlow]
      have hsum : 16 * (b.toNat / 16) + b.toNat % 16 = b.toNat := by omega
      simp [hsum]
    show (match hexByte _ _,hexDecode (hexEncode bytes) with | some b,some bytes => _ | _,_ => _) = _
    rw [hbyte,ih]

theorem space_notMem_hexEncode (bytes : List UInt8) : ' ' ∉ hexEncode bytes := by
  intro hmem
  obtain ⟨b,_,hb⟩ := List.mem_flatMap.mp hmem
  have hlt := b.toNat_lt
  rcases List.mem_cons.mp hb with he | hb
  · exact (hexValue_digitChar (show b.toNat / 16 < 16 by omega)).2.2 he.symm
  · exact (hexValue_digitChar (show b.toNat % 16 < 16 by omega)).2.2 (List.mem_singleton.mp hb).symm

end Hex

section Cut

/-- The first occurrence of a marker whose first character does not come before it. -/
theorem splitOnce_append {c : Char} {pat : List Char} {before : List Char} (h : c ∉ before)
    (rest : List Char) : splitOnce (c::pat) (before ++ (c::pat) ++ rest) = some (before,rest) := by
  induction before with
  | nil =>
    show (if (c::pat).isPrefixOf (c::(pat ++ rest)) then _ else _) = _
    have hprefix : (c::pat).isPrefixOf (c::(pat ++ rest)) = true := by
      rw [List.isPrefixOf_iff_prefix]
      exact ⟨rest,rfl⟩
    rw [if_pos hprefix]
    simp
  | cons d before ih =>
    rw [List.mem_cons,not_or] at h
    have hnot : ¬(c::pat).isPrefixOf (d::(before ++ (c::pat) ++ rest)) = true := by
      rw [List.isPrefixOf_iff_prefix]
      intro hprefix
      exact h.1 (List.cons_prefix_cons.mp hprefix).1
    show (if (c::pat).isPrefixOf (d::(before ++ (c::pat) ++ rest)) then _
      else (splitOnce (c::pat) (before ++ (c::pat) ++ rest)).map _) = _
    rw [if_neg hnot,ih h.2]
    rfl

end Cut

end Text
