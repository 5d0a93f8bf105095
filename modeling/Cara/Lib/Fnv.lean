import Mathlib.Data.Nat.Bitwise

/-! The 64-bit FNV-1a digest of a byte sequence, printed as sixteen hexadecimal digits. -/
namespace Fnv

def offsetBasis : ℕ := 0xcbf29ce484222325

def prime : ℕ := 0x100000001b3

def modulus : ℕ := 0x10000000000000000

def mix (hash : ℕ) (byte : UInt8) : ℕ := (hash ^^^ byte.toNat) * prime % modulus

/-- Lower-case hexadecimal digits of `n`, `width` of them. -/
def hexDigits : ℕ → ℕ → List Char
  | 0,_ => []
  | width+1,n => hexDigits width (n / 16) ++ [Nat.digitChar (n % 16)]

def fnv1a64 (bytes : List UInt8) : String :=
  "fnv1a64:" ++ String.ofList (hexDigits 16 (bytes.foldl mix offsetBasis))

end Fnv
