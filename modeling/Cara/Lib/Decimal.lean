import Cara.Lib.Text
import Mathlib.Data.List.TakeWhile
import Mathlib.Algebra.Order.Ring.Nat

/-! Decimal numbers of a fixed width as ASCII bytes, and the reader that inverts them. -/
namespace Text

section Decimal

def decimal : ℕ → ℕ → List UInt8
  | 0,_ => []
  | width+1,n => decimal width (n / 10) ++ [UInt8.ofNat (48 + n % 10)]

def digitsValue (digits : List UInt8) : ℕ := digits.foldl (fun acc b => acc * 10 + (b.toNat - 48)) 0

theorem toNat_digit (n : ℕ) : (UInt8.ofNat (48 + n % 10)).toNat = 48 + n % 10 := by
  rw [UInt8.toNat_ofNat']
  omega

@[simp] theorem length_decimal (width n : ℕ) : (decimal width n).length = width := by
  induction width generalizing n with
  | zero => rfl
  | succ width ih => simp [decimal,ih]

theorem isAsciiDigit_of_mem_decimal {width n : ℕ} {b : UInt8} (h : b ∈ decimal width n) :
    isAsciiDigit b = true := by
  induction width generalizing n with
  | zero => cases h
  | succ width ih =>
    rcases List.mem_append.mp h with h | h
    · exact ih h
    · rw [List.mem_singleton.mp h]
      unfold isAsciiDigit
      rw [toNat_digit,decide_eq_true_eq]
      omega

theorem digitsValue_concat (digits : List UInt8) (b : UInt8) :
    digitsValue (digits ++ [b]) = digitsValue digits * 10 + (b.toNat - 48) := by
  simp [digitsValue]

theorem digitsValue_decimal {width n : ℕ} (h : n < 10 ^ width) : digitsValue (decimal width n) = n := by
  induction width generalizing n with
  | zero =>
    have hzero : n = 0 := by simpa using h
    rw [hzero]
    rfl
  | succ width ih =>
    rw [decimal,digitsValue_concat,toNat_digit,ih (by rw [Nat.pow_succ] at h; omega)]
    omega

theorem decimal_injective {width m n : ℕ} (hm : m < 10 ^ width) (hn : n < 10 ^ width)
    (h : decimal width m = decimal width n) : m = n := by
  rw [← digitsValue_decimal hm,h,digitsValue_decimal hn]

theorem decimal_digitsValue {digits : List UInt8} (h : ∀ b ∈ digits,isAsciiDigit b = true) :
    decimal digits.length (digitsValue digits) = digits ∧ digitsValue digits < 10 ^ digits.length := by
  induction digits using List.reverseRecOn with
  | nil => exact ⟨rfl,Nat.one_pos⟩
  | append_singleton digits b ih =>
    obtain ⟨hdigits,hlt⟩ := ih fun c hc => h c (List.mem_append_left _ hc)
    have hb := h b (List.mem_append_right _ List.mem_cons_self)
    unfold isAsciiDigit at hb
    rw [decide_eq_true_eq] at hb
    rw [List.length_append,List.length_singleton,digitsValue_concat,decimal,Nat.pow_succ]
    have hdiv : (digitsValue digits * 10 + (b.toNat - 48)) / 10 = digitsValue digits := by omega
    have hmod : 48 + (digitsValue digits * 10 + (b.toNat - 48)) % 10 = b.toNat := by omega
    refine ⟨?_,by omega⟩
    rw [hdiv,hmod,hdigits,UInt8.ofNat_toNat]

end Decimal

section Reader

variable {bytes : List UInt8} {start width n : ℕ}

theorem drop_of_drop_append {i : ℕ} {l r : List UInt8} (h : bytes.drop i = l ++ r) :
    bytes.drop (i + l.length) = r := by
  rw [← List.drop_drop,h,List.drop_left]

theorem getElem?_of_drop {i : ℕ} {b : UInt8} {r : List UInt8} (h : bytes.drop i = b::r) : bytes[i]? = some b := by
  have hget : (bytes.drop i)[0]? = bytes[i + 0]? := List.getElem?_drop
  rw [h] at hget
  exact hget.symm

theorem byteNumber_of_drop {after : List UInt8} (hwidth : 0 < width) (hn : n < 10 ^ width)
    (h : bytes.drop start = decimal width n ++ after) : byteNumber bytes start (start + width) = some n := by
  have hlength := congrArg List.length h
  rw [List.length_drop,List.length_append,length_decimal] at hlength
  have hslice : (bytes.take (start + width)).drop start = decimal width n := by
    rw [List.drop_take,h,Nat.add_sub_cancel_left]
    exact List.take_left' (length_decimal width n)
  unfold byteNumber
  dsimp only
  rw [hslice,if_pos]
  · exact congrArg some (digitsValue_decimal hn)
  · refine ⟨by omega,?_⟩
    rw [List.all_eq_true]
    exact fun b hb => isAsciiDigit_of_mem_decimal hb

/-- What is read as a number stands there in as many digits. -/
theorem drop_of_byteNumber (h : byteNumber bytes start (start + width) = some n) :
    bytes.drop start = decimal width n ++ bytes.drop (start + width) ∧ n < 10 ^ width := by
  unfold byteNumber at h
  dsimp only at h
  split at h
  case isTrue hdigits =>
    obtain ⟨hlength,hall⟩ := hdigits
    have hn : digitsValue ((bytes.take (start + width)).drop start) = n := Option.some_inj.mp h
    have hwidth : ((bytes.take (start + width)).drop start).length = width := by
      simp
      omega
    obtain ⟨hdecimal,hlt⟩ := decimal_digitsValue (List.all_eq_true.mp hall)
    rw [hwidth,hn] at hdecimal hlt
    refine ⟨?_,hlt⟩
    rw [hdecimal,List.drop_take,Nat.add_sub_cancel_left,← List.drop_drop,List.take_append_drop]
  case isFalse => cases h

theorem drop_of_getElem? {i : ℕ} {b : UInt8} (h : bytes[i]? = some b) :
    bytes.drop i = b::bytes.drop (i + 1) := by
  obtain ⟨hi,hb⟩ := List.getElem?_eq_some_iff.mp h
  rw [List.drop_eq_getElem_cons hi,hb]

theorem digits_append_unique {l l' r r' : List UInt8} {b b' : UInt8} (hl : ∀ c ∈ l,isAsciiDigit c = true)
    (hl' : ∀ c ∈ l',isAsciiDigit c = true) (hb : isAsciiDigit b = false) (hb' : isAsciiDigit b' = false)
    (h : l ++ b::r = l' ++ b'::r') : l = l' ∧ b::r = b'::r' := by
  have htake := congrArg (List.takeWhile isAsciiDigit) h
  rw [List.takeWhile_append_of_pos hl,List.takeWhile_append_of_pos hl',List.takeWhile_cons,List.takeWhile_cons,
    hb,hb'] at htake
  have hsame : l = l' := by simpa using htake
  rw [hsame] at h
  exact ⟨hsame,List.append_cancel_left h⟩

end Reader

end Text
