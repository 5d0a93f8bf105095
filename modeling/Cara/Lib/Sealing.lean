import Cara.Lib.Fnv

/-! Self-sealed records: one field holds the digest of the record's encoding taken with
that field cleared. -/

structure Sealing (τ : Type) where
  get : τ → String
  set : τ → String → τ
  get_set : ∀ x h, get (set x h) = h
  set_set : ∀ x h h', set (set x h) h' = set x h'

namespace Sealing

variable {τ : Type} (field : Sealing τ) (encode : τ → List UInt8)

def digest (x : τ) : String := Fnv.fnv1a64 (encode (field.set x ""))

def sealed (x : τ) : τ := field.set x (field.digest encode x)

def verify (x : τ) : Bool := decide (field.digest encode x = field.get x)

@[simp] theorem verify_sealed (x : τ) : field.verify encode (field.sealed encode x) = true := by
  simp [verify,sealed,digest,field.get_set,field.set_set]

end Sealing
