import Mathlib.Data.Finset.Basic

/-! Character-list versions of the string operations used by the parsers: substring
search, the first field of a separated text, and bounded unsigned integers. -/
namespace Text

/-- Split at the first occurrence of `pat`, dropping the occurrence itself. -/
def splitOnce (pat : List Char) : List Char → Option (List Char × List Char)
  | [] => if pat = [] then some ([],[]) else none
  | c::cs =>
      if pat.isPrefixOf (c::cs) then some ([],(c::cs).drop pat.length)
      else (splitOnce pat cs).map fun p => (c::p.1,p.2)

def firstField (sep : Char) (s : List Char) : List Char := s.takeWhile (fun c => decide (c ≠ sep))

def split (sep : Char) : List Char → List (List Char)
  | [] => [[]]
  | c::cs =>
      if c = sep then []::split sep cs
      else match split sep cs with
        | [] => [[c]]
        | field::fields => (c::field)::fields

def isWhitespace (c : Char) : Bool :=
  let n := c.toNat
  decide ((9 ≤ n ∧ n ≤ 13) ∨ n = 32 ∨ n = 0x85 ∨ n = 0xa0 ∨ n = 0x1680 ∨
    (0x2000 ≤ n ∧ n ≤ 0x200a) ∨ n = 0x2028 ∨ n = 0x2029 ∨ n = 0x202f ∨ n = 0x205f ∨ n = 0x3000)

def isControl (c : Char) : Bool :=
  let n := c.toNat
  decide (n ≤ 0x1f ∨ (0x7f ≤ n ∧ n ≤ 0x9f))

def trim (s : List Char) : List Char :=
  ((s.dropWhile isWhitespace).reverse.dropWhile isWhitespace).reverse

def trimEnd (s : List Char) : List Char := (s.reverse.dropWhile isWhitespace).reverse

def trimmed (s : String) : String := String.ofList (trim s.toList)

def isBlank (s : String) : Bool := (trim s.toList).isEmpty

def isTrimmed (s : String) : Bool := decide (trim s.toList = s.toList)

def startsWith (s pat : String) : Bool := pat.toList.isPrefixOf s.toList

def contains (s pat : String) : Bool := (splitOnce pat.toList s.toList).isSome

theorem contains_append (pat rest : String) : contains (pat ++ rest) pat = true := by
  unfold contains
  rw [String.toList_append]
  cases pat.toList with
  | nil => cases rest.toList <;> rfl
  | cons c chars =>
    have hfirst : (c::chars).isPrefixOf (c::(chars ++ rest.toList)) = true := by
      rw [List.isPrefixOf_iff_prefix]
      exact ⟨rest.toList,rfl⟩
    rw [List.cons_append]
    unfold splitOnce
    rw [if_pos hfirst]
    rfl

def digitValue (c : Char) : ℕ := c.toNat - '0'.toNat

/-- One decimal digit appended to an accumulator that must stay below `bound`. -/
def pushDigit (bound acc : ℕ) (c : Char) : Option ℕ :=
  if c.isDigit then
    let n := acc * 10 + digitValue c
    if n < bound then some n else none
  else none

/-- A decimal unsigned integer below `bound`. One leading plus sign is accepted, an empty
digit sequence, any other character and an overflow are refused. -/
def parseUnsigned (bound : ℕ) (s : List Char) : Option ℕ :=
  let digits := match s with
    | '+'::rest => rest
    | _ => s
  if digits = [] then none else digits.foldlM (pushDigit bound) 0

/-- The bound is two to the sixty-fourth power. -/
abbrev parseU64 : List Char → Option ℕ := parseUnsigned 18446744073709551616

def eqIgnoreAsciiCase (a b : String) : Bool :=
  decide (a.toList.map Char.toLower = b.toList.map Char.toLower)

def utf8Bytes (s : String) : List UInt8 := s.toList.flatMap String.utf8EncodeChar

def isAsciiDigit (b : UInt8) : Bool := decide (48 ≤ b.toNat ∧ b.toNat ≤ 57)

/-- The decimal number written in the bytes from `start` up to `stop`. -/
def byteNumber (bytes : List UInt8) (start stop : ℕ) : Option ℕ :=
  let slice := (bytes.take stop).drop start
  if stop ≤ bytes.length ∧ slice.all isAsciiDigit then
    some (slice.foldl (fun acc b => acc * 10 + (b.toNat - 48)) 0)
  else none

end Text
