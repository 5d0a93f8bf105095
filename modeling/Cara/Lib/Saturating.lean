import Mathlib.Algebra.BigOperators.Group.List.Basic
import Mathlib.Algebra.Order.BigOperators.Group.List
import Mathlib.Algebra.Order.Ring.Nat

/-! Saturating machine arithmetic on 64-bit counters and on wall-clock durations
kept as whole seconds and nanoseconds. -/
namespace Saturating

def maxU64 : ℕ := 18446744073709551615

def maxU32 : ℕ := 4294967295

def add (a b : ℕ) : ℕ := min (a + b) maxU64

def mul (a b : ℕ) : ℕ := min (a * b) maxU64

def sum (l : List ℕ) : ℕ := l.foldl add 0

theorem add_mono {a b c d : ℕ} (hac : a ≤ c) (hbd : b ≤ d) : add a b ≤ add c d := by
  unfold add
  omega

theorem add_eq {a b : ℕ} (h : a + b ≤ maxU64) : add a b = a + b := min_eq_left h

theorem foldl_add (l : List ℕ) (a : ℕ) (ha : a ≤ maxU64) :
    l.foldl add a = min (a + l.sum) maxU64 := by
  induction l generalizing a with
  | nil => simp [ha]
  | cons x l ih =>
    have hx : add a x ≤ maxU64 := min_le_right _ _
    rw [List.foldl_cons,ih _ hx,List.sum_cons]
    unfold add
    omega

theorem sum_eq_min (l : List ℕ) : sum l = min l.sum maxU64 := by
  have hfold := foldl_add l 0 (Nat.zero_le _)
  rw [Nat.zero_add] at hfold
  exact hfold

theorem sum_mono {l l' : List ℕ} (h : l.sum ≤ l'.sum) : sum l ≤ sum l' := by
  rw [sum_eq_min,sum_eq_min]
  omega

theorem sum_map_mono {ι : Type*} (l : List ι) {f g : ι → ℕ} (h : ∀ i ∈ l, f i ≤ g i) :
    sum (l.map f) ≤ sum (l.map g) := sum_mono (List.sum_le_sum h)

theorem sum_eq {l : List ℕ} (h : l.sum ≤ maxU64) : sum l = l.sum := by
  rw [sum_eq_min,min_eq_left h]

theorem sum_map_take_mono {ι : Type*} (l : List ι) (f : ι → ℕ) {a b : ℕ} (h : a ≤ b) :
    sum ((l.take a).map f) ≤ sum ((l.take b).map f) := by
  apply sum_mono
  apply List.Sublist.sum_le_sum
  · exact (List.take_sublist_take_left h).map f
  · intro _ _
    exact Nat.zero_le _

end Saturating

structure Duration where
  secs : ℕ
  nanos : ℕ := 0
  secs_le : secs ≤ Saturating.maxU64 := by decide
  nanos_lt : nanos < 1000000000 := by decide
deriving DecidableEq

namespace Duration

def max : Duration := { secs := Saturating.maxU64,nanos := 999999999 }

def fromSecs (secs : ℕ) : Duration :=
  { secs := min secs Saturating.maxU64,secs_le := min_le_right _ _ }

def lt (a b : Duration) : Prop := a.secs < b.secs ∨ a.secs = b.secs ∧ a.nanos < b.nanos

instance (a b : Duration) : Decidable (a.lt b) :=
  inferInstanceAs (Decidable (a.secs < b.secs ∨ a.secs = b.secs ∧ a.nanos < b.nanos))

/-- Addition carries nanoseconds into seconds and stays at the maximum on overflow. -/
def saturatingAdd (a b : Duration) : Duration :=
  let nanos := a.nanos + b.nanos
  let secs := a.secs + b.secs + nanos / 1000000000
  if h : secs ≤ Saturating.maxU64 then
    { secs := secs,nanos := nanos % 1000000000,secs_le := h,nanos_lt := Nat.mod_lt _ (by decide) }
  else max

/-- Whole seconds plus one second stay strictly below a duration. -/
theorem fromSecs_saturatingAdd_one_lt_iff (x : ℕ) (d : Duration) :
    ((fromSecs x).saturatingAdd (fromSecs 1)).lt d ↔
      x + 1 < d.secs ∨ x + 1 = d.secs ∧ 0 < d.nanos := by
  have hd := d.secs_le
  have hn := d.nanos_lt
  by_cases hx : x + 1 ≤ Saturating.maxU64
  · have hmin : min x Saturating.maxU64 = x := by omega
    have hone : min 1 Saturating.maxU64 = 1 := by decide
    simp [saturatingAdd,fromSecs,lt,hmin,hone,hx]
  · have hmin : min x Saturating.maxU64 = Saturating.maxU64 := by omega
    have hone : min 1 Saturating.maxU64 = 1 := by decide
    simp only [saturatingAdd,fromSecs,lt,hmin,hone]
    rw [dif_neg (by omega)]
    simp only [max]
    omega

def asMillis (d : Duration) : ℕ := d.secs * 1000 + d.nanos / 1000000

end Duration
