import Cara.Lib.Text
import Mathlib.Data.List.Infix

/-! A file of lines as its bytes: splitting after each newline, the part that ends with one,
and the text of a line. -/
namespace Lines

def newline : UInt8 := 10

def encode (text : List Char) : List UInt8 := text.flatMap String.utf8EncodeChar

/-- The text of some bytes; none when they are not UTF-8. -/
def decode (bytes : List UInt8) : Option (List Char) :=
  bytes.toByteArray.utf8Decode?.map Array.toList

def split : List UInt8 → List (List UInt8)
  | [] => []
  | b::bs =>
      if b = newline then [newline]::split bs
      else match split bs with
        | [] => [[b]]
        | line::lines => (b::line)::lines

def terminatedLength (bytes : List UInt8) : ℕ :=
  (bytes.reverse.dropWhile fun b => decide (b ≠ newline)).length

@[simp] theorem encode_nil : encode [] = [] := rfl

@[simp] theorem encode_cons (c : Char) (text : List Char) :
    encode (c::text) = String.utf8EncodeChar c ++ encode text := rfl

@[simp] theorem encode_append (a b : List Char) : encode (a ++ b) = encode a ++ encode b :=
  List.flatMap_append ..

theorem toByteArray_encode (text : List Char) : (encode text).toByteArray = text.utf8Encode := rfl

@[simp] theorem decode_encode (text : List Char) : decode (encode text) = some text := by
  unfold decode
  rw [toByteArray_encode,List.utf8Decode?_utf8Encode]
  rfl

theorem encode_injective {a b : List Char} (h : encode a = encode b) : a = b := by
  have hdecode := congrArg decode h
  rw [decode_encode,decode_encode,Option.some.injEq] at hdecode
  exact hdecode

theorem encode_eq_nil {text : List Char} (h : encode text = []) : text = [] :=
  encode_injective (h.trans encode_nil.symm)

theorem encode_of_decode {bytes : List UInt8} {text : List Char} (h : decode bytes = some text) :
    encode text = bytes := by
  obtain ⟨chars,hchars,_⟩ := Option.map_eq_some_iff.mp h
  have hvalid : bytes.toByteArray.utf8Decode?.isSome = true := by rw [hchars]; rfl
  obtain ⟨text',htext'⟩ := ByteArray.isSome_utf8Decode?_iff.mp hvalid
  have hbytes : bytes = encode text' := by
    have hdata := congrArg (fun b => b.data.toList) htext'
    simpa [List.utf8Encode,encode] using hdata
  rw [hbytes,decode_encode,Option.some.injEq] at h
  rw [hbytes,h]

theorem prefix_of_encode {a b : List Char} (h : encode a <+: encode b) : a <+: b := by
  induction a generalizing b with
  | nil => exact List.nil_prefix
  | cons c a ih =>
    obtain ⟨rest,hrest⟩ := h
    cases b with
    | nil =>
      rw [encode_cons,encode_nil,List.append_assoc] at hrest
      exact absurd (List.append_eq_nil_iff.mp hrest).1 String.utf8EncodeChar_ne_nil
    | cons d b =>
      rw [encode_cons,encode_cons,List.append_assoc] at hrest
      have hfirst : c = d := by
        have hdecoded := congrArg (fun bytes : List UInt8 => bytes.toByteArray.utf8DecodeChar? 0) hrest
        simpa [List.toByteArray_append,ByteArray.utf8DecodeChar?_utf8EncodeChar_append] using hdecoded
      rw [hfirst] at hrest ⊢
      exact List.prefix_cons_inj d |>.mpr (ih ⟨rest,List.append_cancel_left hrest⟩)

theorem newline_mem_utf8EncodeChar {c : Char} (h : newline ∈ String.utf8EncodeChar c) : c = '\n' := by
  have hbyte {n : ℕ} (hn : newline = UInt8.ofNat n) : n % 256 = 10 := by
    have htoNat := congrArg UInt8.toNat hn
    rw [UInt8.toNat_ofNat'] at htoNat
    exact htoNat.symm
  unfold String.utf8EncodeChar at h
  dsimp only at h
  -- a byte of a longer encoding has its top bit
  split at h
  · have hn := hbyte (List.mem_singleton.mp h)
    apply Char.ext
    apply UInt32.toNat_inj.mp
    show c.val.toNat = 10
    omega
  · split at h
    · simp only [List.mem_cons,List.not_mem_nil,or_false] at h
      rcases h with h | h <;> have hn := hbyte h <;> omega
    · split at h <;> simp only [List.mem_cons,List.not_mem_nil,or_false] at h
      · rcases h with h | h | h <;> have hn := hbyte h <;> omega
      · rcases h with h | h | h | h <;> have hn := hbyte h <;> omega

theorem newline_not_mem_encode {text : List Char} (h : '\n' ∉ text) : newline ∉ encode text := by
  intro hmem
  obtain ⟨c,hc,hnewline⟩ := List.mem_flatMap.mp hmem
  rw [newline_mem_utf8EncodeChar hnewline] at hc
  exact h hc

theorem split_line {line : List UInt8} (h : newline ∉ line) (rest : List UInt8) :
    split (line ++ newline::rest) = (line ++ [newline])::split rest := by
  induction line with
  | nil => simp [split]
  | cons b line ih =>
    rw [List.mem_cons,not_or] at h
    rw [List.cons_append,split,if_neg (Ne.symm h.1),ih h.2]
    rfl

theorem split_tail {tail : List UInt8} (h : newline ∉ tail) (hne : tail ≠ []) : split tail = [tail] := by
  induction tail with
  | nil => exact absurd rfl hne
  | cons b tail ih =>
    rw [List.mem_cons,not_or] at h
    rw [split,if_neg (Ne.symm h.1)]
    cases tail with
    | nil => rfl
    | cons b' tail => rw [ih h.2 (List.cons_ne_nil b' tail)]

theorem terminatedLength_append {body tail : List UInt8} (h : newline ∉ tail) :
    terminatedLength (body ++ tail) = terminatedLength body := by
  unfold terminatedLength
  rw [List.reverse_append,List.dropWhile_append_of_pos]
  intro b hb
  exact decide_eq_true fun heq => h (heq ▸ List.mem_reverse.mp hb)

theorem terminatedLength_body {body : List UInt8} (h : body = [] ∨ body.getLast? = some newline) :
    terminatedLength body = body.length := by
  rcases h with rfl | h
  · rfl
  · obtain ⟨front,rfl⟩ := List.getLast?_eq_some_iff.mp h
    simp [terminatedLength]

end Lines
