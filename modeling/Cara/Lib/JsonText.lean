import Cara.Lib.Json
import Mathlib.Data.List.TakeWhile

/-! JSON documents over natural numbers: their texts in the compact and the indented layout,
a reader for both, and the round trip between them. -/

inductive JsonValue where
  | null
  | bool (b : Bool)
  | num (n : ℕ)
  | str (s : String)
  | arr (items : List JsonValue)
  | obj (fields : List (String × JsonValue))

namespace JsonValue

@[elab_as_elim] theorem nested {P : JsonValue → Prop} (null : P .null) (bool : ∀ b, P (.bool b))
    (num : ∀ n, P (.num n)) (str : ∀ s, P (.str s))
    (arr : ∀ items, (∀ v ∈ items, P v) → P (.arr items))
    (obj : ∀ fields, (∀ f ∈ fields, P f.2) → P (.obj fields)) : ∀ v, P v
  | .null => null
  | .bool b => bool b
  | .num n => num n
  | .str s => str s
  | .arr items => arr items fun v _ => nested null bool num str arr obj v
  | .obj fields => obj fields fun f _ => nested null bool num str arr obj f.2
decreasing_by
  · have := List.sizeOf_lt_of_mem ‹v ∈ items›
    simp
    omega
  · have := List.sizeOf_lt_of_mem ‹f ∈ fields›
    cases f
    simp at this ⊢
    omega

section Text

def hexDigit (n : ℕ) : Char := Nat.digitChar n

def escapeControl (n : ℕ) : List Char :=
  if n = 0x8 then ['b']
  else if n = 0x9 then ['t']
  else if n = 0xa then ['n']
  else if n = 0xc then ['f']
  else if n = 0xd then ['r']
  else ['u','0','0',hexDigit (n / 16),hexDigit (n % 16)]

def escape (c : Char) : List Char :=
  if c = '"' then ['\\','"']
  else if c = '\\' then ['\\','\\']
  else if c.toNat < 0x20 then '\\'::escapeControl c.toNat
  else [c]

def quoted (s : String) : List Char := '"'::(s.toList.flatMap escape ++ ['"'])

/-- The layout is the depth of the indentation, or none at all. -/
abbrev Layout := Option ℕ

def newline : Layout → List Char
  | none => []
  | some depth => '\n'::List.replicate (2 * depth) ' '

def deeper (layout : Layout) : Layout := layout.map (· + 1)

def blankAfterColon : Layout → List Char
  | none => []
  | some _ => [' ']

mutual

def text (layout : Layout) : JsonValue → List Char
  | .null => ['n','u','l','l']
  | .bool true => ['t','r','u','e']
  | .bool false => ['f','a','l','s','e']
  | .num n => Nat.toDigits 10 n
  | .str s => quoted s
  | .arr [] => ['[',']']
  | .arr (v::items) =>
      '['::(newline (deeper layout) ++ (text (deeper layout) v ++
        (textItems (deeper layout) items ++ (newline layout ++ [']']))))
  | .obj [] => ['\x7b','\x7d']
  | .obj ((key,v)::fields) =>
      '\x7b'::(newline (deeper layout) ++ (quoted key ++ (':'::(blankAfterColon (deeper layout) ++
        (text (deeper layout) v ++
          (textFields (deeper layout) fields ++ (newline layout ++ ['\x7d'])))))))

def textItems (layout : Layout) : List JsonValue → List Char
  | [] => []
  | v::items => ','::(newline layout ++ (text layout v ++ textItems layout items))

def textFields (layout : Layout) : List (String × JsonValue) → List Char
  | [] => []
  | (key,v)::fields => ','::(newline layout ++ (quoted key ++ (':'::(blankAfterColon layout ++
      (text layout v ++ textFields layout fields)))))

end

end Text

section Reader

def isBlank (c : Char) : Bool := decide (c = ' ' ∨ c = '\n' ∨ c = '\r' ∨ c = '\t')

def skip (cs : List Char) : List Char := cs.dropWhile isBlank

def hexValue (c : Char) : Option ℕ :=
  if c.isDigit then some (c.toNat - '0'.toNat)
  else if 'a' ≤ c ∧ c ≤ 'f' then some (c.toNat - 'a'.toNat + 10)
  else if 'A' ≤ c ∧ c ≤ 'F' then some (c.toNat - 'A'.toNat + 10)
  else none

def unescaped (c : Char) : Option Char :=
  if c = '"' ∨ c = '\\' ∨ c = '/' then some c
  else if c = 'b' then some (Char.ofNat 0x8)
  else if c = 't' then some (Char.ofNat 0x9)
  else if c = 'n' then some (Char.ofNat 0xa)
  else if c = 'f' then some (Char.ofNat 0xc)
  else if c = 'r' then some (Char.ofNat 0xd)
  else none

inductive Within where
  | plain
  | escape
  | hex (missing value : ℕ)

/-- The rest of a string after its opening quote; an escaped surrogate is refused. -/
def readString : Within → List Char → Option (List Char × List Char)
  | _,[] => none
  | .plain,c::rest =>
      if c = '"' then some ([],rest)
      else if c = '\\' then readString .escape rest
      else if c.toNat < 0x20 then none
      else (readString .plain rest).map fun r => (c::r.1,r.2)
  | .escape,c::rest =>
      if c = 'u' then readString (.hex 3 0) rest
      else (unescaped c).bind fun d => (readString .plain rest).map fun r => (d::r.1,r.2)
  | .hex missing value,c::rest =>
      (hexValue c).bind fun digit => match missing with
        | missing + 1 => readString (.hex missing (16 * value + digit)) rest
        | 0 =>
            if (16 * value + digit).isValidChar then
              (readString .plain rest).map fun r => (Char.ofNat (16 * value + digit)::r.1,r.2)
            else none

def readNumber (cs : List Char) : Option (JsonValue × List Char) :=
  let digits := cs.takeWhile Char.isDigit
  if digits = [] ∨ (digits.head? = some '0' ∧ 1 < digits.length) then none
  else some (.num (Nat.ofDigitChars 10 digits 0),cs.dropWhile Char.isDigit)

def readKey (cs : List Char) : Option (String × List Char) :=
  match skip cs with
  | '"'::rest => (readString .plain rest).bind fun r => match skip r.2 with
    | ':'::rest => some (String.ofList r.1,rest)
    | _ => none
  | _ => none

mutual

def readValue : ℕ → List Char → Option (JsonValue × List Char)
  | 0,_ => none
  | fuel + 1,cs => match skip cs with
    | '"'::rest => (readString .plain rest).map fun r => (.str (String.ofList r.1),r.2)
    | '['::rest => match skip rest with
      | ']'::rest => some (.arr [],rest)
      | _ => (readItems fuel rest).map fun r => (.arr r.1,r.2)
    | '\x7b'::rest => match skip rest with
      | '\x7d'::rest => some (.obj [],rest)
      | _ => (readFields fuel rest).map fun r => (.obj r.1,r.2)
    | 'n':: 'u':: 'l':: 'l'::rest => some (.null,rest)
    | 't':: 'r':: 'u':: 'e'::rest => some (.bool true,rest)
    | 'f':: 'a':: 'l':: 's':: 'e'::rest => some (.bool false,rest)
    | cs => readNumber cs

def readItems : ℕ → List Char → Option (List JsonValue × List Char)
  | 0,_ => none
  | fuel + 1,cs => (readValue fuel cs).bind fun v => match skip v.2 with
    | ','::rest => (readItems fuel rest).map fun r => (v.1::r.1,r.2)
    | ']'::rest => some ([v.1],rest)
    | _ => none

def readFields : ℕ → List Char → Option (List (String × JsonValue) × List Char)
  | 0,_ => none
  | fuel + 1,cs => (readKey cs).bind fun k => (readValue fuel k.2).bind fun v =>
    match skip v.2 with
    | ','::rest => (readFields fuel rest).map fun r => ((k.1,v.1)::r.1,r.2)
    | '\x7d'::rest => some ([(k.1,v.1)],rest)
    | _ => none

end

def read (cs : List Char) : Option JsonValue :=
  (readValue (cs.length + 1) cs).bind fun r => if skip r.2 = [] then some r.1 else none

end Reader

section Size

def bytes (cs : List Char) : ℕ := (cs.map Char.utf8Size).sum

@[simp] theorem bytes_nil : bytes [] = 0 := rfl

@[simp] theorem bytes_cons (c : Char) (cs : List Char) : bytes (c::cs) = c.utf8Size + bytes cs := by
  simp [bytes]

@[simp] theorem bytes_append (cs ds : List Char) : bytes (cs ++ ds) = bytes cs + bytes ds := by
  simp [bytes]

mutual

def size : JsonValue → Json
  | .null => Json.scalar 4
  | .bool b => Json.bool b
  | .num n => Json.num n
  | .str s => Json.str s
  | .arr items => Json.array (sizeItems items)
  | .obj fields => Json.collection (sizeFields fields)

def sizeItems : List JsonValue → List Json
  | [] => []
  | v::items => size v::sizeItems items

def sizeFields : List (String × JsonValue) → List Json
  | [] => []
  | (key,v)::fields => Json.entry key (size v)::sizeFields fields

end

def sizeIn : Layout → Json → ℕ
  | none,j => j.compact
  | some depth,j => j.indented depth

theorem bytes_escapeControl : ∀ n < 0x20, bytes (escapeControl n) + 1 =
    if n ∈ [0x8,0x9,0xa,0xc,0xd] then 2 else 6 := by
  decide +kernel

theorem bytes_escape (c : Char) : bytes (escape c) = Json.charBytes c := by
  have hmark : ('\\').utf8Size = 1 := rfl
  unfold escape Json.charBytes
  by_cases hquote : c = '"'
  · rw [if_pos hquote,if_pos (Or.inl hquote)]
    rfl
  · by_cases hslash : c = '\\'
    · rw [if_neg hquote,if_pos hslash,if_pos (Or.inr hslash)]
      rfl
    · have hplain : ¬ (c = '"' ∨ c = '\\') := not_or.mpr ⟨hquote,hslash⟩
      rw [if_neg hquote,if_neg hslash,if_neg hplain]
      by_cases hcontrol : c.toNat < 0x20
      · rw [if_pos hcontrol,if_pos hcontrol,bytes_cons,hmark,Nat.add_comm]
        exact bytes_escapeControl c.toNat hcontrol
      · rw [if_neg hcontrol,if_neg hcontrol]
        simp

theorem bytes_quoted (s : String) : bytes (quoted s) = Json.quoted s := by
  have hchars : ∀ cs : List Char, bytes (cs.flatMap escape) = (cs.map Json.charBytes).sum := by
    intro cs
    induction cs with
    | nil => rfl
    | cons c cs ih => simp [bytes_escape,ih]
  have hmark : ('"').utf8Size = 1 := rfl
  simp only [quoted,Json.quoted,bytes_cons,bytes_append,bytes_nil,hchars,hmark]
  omega

theorem bytes_newline (layout : Layout) : bytes (newline layout) =
    match layout with
    | none => 0
    | some depth => 1 + 2 * depth := by
  cases layout with
  | none => rfl
  | some depth =>
    have hbreak : ('\n').utf8Size = 1 := rfl
    have hblank : (' ').utf8Size = 1 := rfl
    simp [newline,bytes,hbreak,hblank]

theorem utf8Size_digit {c : Char} (h : c.isDigit = true) : c.utf8Size = 1 := by
  rw [Char.utf8Size_eq_one_iff]
  simp only [Char.isDigit,Bool.and_eq_true,decide_eq_true_eq] at h
  exact UInt32.le_trans h.2 (by decide)

theorem bytes_digits (n : ℕ) : bytes (Nat.toDigits 10 n) = (Nat.toDigits 10 n).length := by
  have hascii : ∀ c ∈ Nat.toDigits 10 n, c.utf8Size = 1 := fun c hc =>
    utf8Size_digit (Nat.isDigit_of_mem_toDigits (by decide) (by decide) hc)
  rw [bytes,List.map_congr_left hascii]
  simp

theorem sizeItems_eq (items : List JsonValue) : sizeItems items = items.map size := by
  induction items with
  | nil => rfl
  | cons v items ih => rw [sizeItems,ih,List.map_cons]

theorem sizeFields_eq (fields : List (String × JsonValue)) :
    sizeFields fields = fields.map fun f => Json.entry f.1 (size f.2) := by
  induction fields with
  | nil => rfl
  | cons f fields ih => rw [sizeFields,ih,List.map_cons]

theorem bytes_textItems (layout : Layout) {items : List JsonValue}
    (h : ∀ v ∈ items, bytes (text layout v) = sizeIn layout (size v)) :
    bytes (textItems layout items) = items.length +
      ((sizeItems items).map fun j => bytes (newline layout) + sizeIn layout j).sum := by
  induction items with
  | nil => rfl
  | cons v items ih =>
    have hcomma : (',').utf8Size = 1 := rfl
    have hrest := ih fun w hw => h w (List.mem_cons_of_mem _ hw)
    simp only [textItems,sizeItems,bytes_cons,bytes_append,hcomma,h v List.mem_cons_self,hrest,
      List.map_cons,List.sum_cons,List.length_cons]
    omega

theorem bytes_field (layout : Layout) (key : String) {v : JsonValue}
    (h : bytes (text layout v) = sizeIn layout (size v)) :
    bytes (quoted key ++ (':'::(blankAfterColon layout ++ text layout v))) =
      sizeIn layout (Json.entry key (size v)) := by
  have hcolon : (':').utf8Size = 1 := rfl
  have hblank : (' ').utf8Size = 1 := rfl
  simp only [bytes_append,bytes_cons,bytes_quoted,hcolon,h]
  cases layout with
  | none =>
    simp only [sizeIn,Json.entry,blankAfterColon,bytes_nil]
    omega
  | some depth =>
    simp only [sizeIn,Json.entry,blankAfterColon,bytes_cons,bytes_nil,hblank]
    omega

theorem bytes_textFields (layout : Layout) {fields : List (String × JsonValue)}
    (h : ∀ f ∈ fields, bytes (text layout f.2) = sizeIn layout (size f.2)) :
    bytes (textFields layout fields) = fields.length +
      ((sizeFields fields).map fun j => bytes (newline layout) + sizeIn layout j).sum := by
  induction fields with
  | nil => rfl
  | cons f fields ih =>
    have hcomma : (',').utf8Size = 1 := rfl
    have hrest := ih fun g hg => h g (List.mem_cons_of_mem _ hg)
    have hfirst := bytes_field layout f.1 (h f List.mem_cons_self)
    simp only [bytes_append,bytes_cons] at hfirst
    simp only [textFields,sizeFields,bytes_cons,bytes_append,hcomma,hrest,List.map_cons,
      List.sum_cons,List.length_cons]
    omega

theorem sizeIn_collection (layout : Layout) (j : Json) (js : List Json) :
    sizeIn layout (Json.collection (j::js)) = 2 + js.length + ((j::js).map fun j =>
      bytes (newline (deeper layout)) + sizeIn (deeper layout) j).sum + bytes (newline layout) := by
  cases layout with
  | none => simp [sizeIn,Json.collection,deeper,bytes_newline]
  | some depth => simp [sizeIn,Json.collection,deeper,bytes_newline]

theorem bytes_text (v : JsonValue) : ∀ layout, bytes (text layout v) = sizeIn layout (size v) := by
  induction v using nested with
  | null => intro layout; cases layout <;> rfl
  | bool b => intro layout; cases b <;> cases layout <;> rfl
  | num n =>
    intro layout
    cases layout <;> simp [text,size,Json.num,Json.scalar,sizeIn,bytes_digits]
  | str s =>
    intro layout
    cases layout <;> simp [text,size,Json.str,Json.scalar,sizeIn,bytes_quoted]
  | arr items ih =>
    intro layout
    have hopen : ('[').utf8Size = 1 := rfl
    have hclose : (']').utf8Size = 1 := rfl
    cases items with
    | nil => cases layout <;> rfl
    | cons v items =>
      have hfirst := ih v List.mem_cons_self (deeper layout)
      have hrest := bytes_textItems (deeper layout) fun w hw =>
        ih w (List.mem_cons_of_mem _ hw) (deeper layout)
      simp only [text,size,Json.array,sizeItems,sizeIn_collection,bytes_cons,bytes_append,
        bytes_nil,hopen,hclose,hfirst,hrest,List.map_cons,List.sum_cons,sizeItems_eq,
        List.length_map]
      omega
  | obj fields ih =>
    intro layout
    have hopen : ('\x7b').utf8Size = 1 := rfl
    have hclose : ('\x7d').utf8Size = 1 := rfl
    cases fields with
    | nil => cases layout <;> rfl
    | cons f fields =>
      have hfirst := bytes_field (deeper layout) f.1 (ih f List.mem_cons_self (deeper layout))
      have hrest := bytes_textFields (deeper layout) fun g hg =>
        ih g (List.mem_cons_of_mem _ hg) (deeper layout)
      simp only [bytes_append,bytes_cons] at hfirst
      simp only [text,size,sizeFields,sizeIn_collection,bytes_cons,bytes_append,bytes_nil,hopen,
        hclose,hrest,List.map_cons,List.sum_cons,sizeFields_eq,List.length_map]
      omega

end Size

section RoundTrip

def NoDigit (rest : List Char) : Prop := ∀ c ∈ rest.head?, c.isDigit = false

mutual

def weight : JsonValue → ℕ
  | .arr items => 1 + weightItems items
  | .obj fields => 1 + weightFields fields
  | _ => 1

def weightItems : List JsonValue → ℕ
  | [] => 0
  | v::items => 1 + weight v + weightItems items

def weightFields : List (String × JsonValue) → ℕ
  | [] => 0
  | (_,v)::fields => 1 + weight v + weightFields fields

end

theorem skip_append {blanks : List Char} (h : ∀ c ∈ blanks, isBlank c = true) (cs : List Char) :
    skip (blanks ++ cs) = skip cs := by
  induction blanks with
  | nil => rfl
  | cons c blanks ih =>
    rw [List.cons_append,skip,List.dropWhile_cons_of_pos (h c List.mem_cons_self)]
    exact ih fun d hd => h d (List.mem_cons_of_mem _ hd)

theorem skip_cons {c : Char} (h : isBlank c = false) (cs : List Char) : skip (c::cs) = c::cs := by
  simp [skip,h]

theorem blank_newline (layout : Layout) : ∀ c ∈ newline layout, isBlank c = true := by
  intro c hc
  cases layout with
  | none => cases hc
  | some depth =>
    rcases List.mem_cons.mp hc with rfl | hc
    · rfl
    · rw [List.eq_of_mem_replicate hc]
      rfl

theorem blank_afterColon (layout : Layout) : ∀ c ∈ blankAfterColon layout, isBlank c = true := by
  intro c hc
  cases layout with
  | none => cases hc
  | some depth =>
    rw [List.mem_singleton.mp hc]
    rfl

theorem hexValue_hexDigit : ∀ n < 16, hexValue (hexDigit n) = some n := by decide

theorem readString_hex {n : ℕ} (h : n < 0x20) (rest : List Char) :
    readString (.hex 3 0) ('0':: '0'::hexDigit (n / 16)::hexDigit (n % 16)::rest) =
      (readString .plain rest).map fun r => (Char.ofNat n::r.1,r.2) := by
  have hzero : hexValue '0' = some 0 := by decide
  have hhigh := hexValue_hexDigit (n / 16) (by omega)
  have hlow := hexValue_hexDigit (n % 16) (by omega)
  have hvalue : 16 * (n / 16) + n % 16 = n := Nat.div_add_mod n 16
  have hvalid : n.isValidChar := Or.inl (by omega)
  simp only [readString,hzero,hhigh,hlow,Option.bind_some,Nat.mul_zero,Nat.add_zero,Nat.zero_add,
    hvalue,if_pos hvalid]

theorem readString_control {n : ℕ} (h : n < 0x20) (rest : List Char) :
    readString .escape (escapeControl n ++ rest) =
      (readString .plain rest).map fun r => (Char.ofNat n::r.1,r.2) := by
  unfold escapeControl
  split_ifs with hb ht hn hf hr
  · rw [hb]
    rfl
  · rw [ht]
    rfl
  · rw [hn]
    rfl
  · rw [hf]
    rfl
  · rw [hr]
    rfl
  · show readString .escape ('u':: '0':: '0'::hexDigit (n / 16)::hexDigit (n % 16)::rest) = _
    rw [readString,if_pos rfl,readString_hex h]

theorem readString_escape (c : Char) (rest : List Char) :
    readString .plain (escape c ++ rest) =
      (readString .plain rest).map fun r => (c::r.1,r.2) := by
  unfold escape
  by_cases hquote : c = '"'
  · subst hquote
    rfl
  · by_cases hslash : c = '\\'
    · subst hslash
      rfl
    · rw [if_neg hquote,if_neg hslash]
      by_cases hcontrol : c.toNat < 0x20
      · have hread := readString_control hcontrol rest
        rw [Char.ofNat_toNat] at hread
        rw [if_pos hcontrol,← hread]
        rfl
      · rw [if_neg hcontrol]
        simp [readString,hquote,hslash,hcontrol]

theorem readString_quoted (cs rest : List Char) :
    readString .plain (cs.flatMap escape ++ '"'::rest) = some (cs,rest) := by
  induction cs with
  | nil => simp [readString]
  | cons c cs ih => rw [List.flatMap_cons,List.append_assoc,readString_escape,ih]; rfl

theorem head_toDigits {n : ℕ} (h : 0 < n) : (Nat.toDigits 10 n).head? ≠ some '0' := by
  induction n using Nat.strong_induction_on with
  | _ n ih =>
    by_cases hsmall : n < 10
    · have hdigit : ∀ k < 10, 0 < k → Nat.digitChar k ≠ '0' := by decide
      rw [Nat.toDigits_of_lt_base hsmall]
      simpa using hdigit n hsmall h
    · have hlarge : 10 ≤ n := by omega
      have hhead := ih (n / 10) (by omega) (by omega)
      rw [Nat.toDigits_of_base_le (by decide) hlarge,List.head?_append_of_ne_nil _ Nat.toDigits_ne_nil]
      exact hhead

theorem readNumber_digits (n : ℕ) {rest : List Char} (hrest : NoDigit rest) :
    readNumber (Nat.toDigits 10 n ++ rest) = some (.num n,rest) := by
  have hdigits : ∀ c ∈ Nat.toDigits 10 n, c.isDigit = true := fun c hc =>
    Nat.isDigit_of_mem_toDigits (by decide) (by decide) hc
  have htake : rest.takeWhile Char.isDigit = [] := by
    cases rest with
    | nil => rfl
    | cons c rest => simp [hrest c rfl]
  have hdrop : rest.dropWhile Char.isDigit = rest := by
    cases rest with
    | nil => rfl
    | cons c rest => simp [hrest c rfl]
  have hcanonical : ¬ (Nat.toDigits 10 n = [] ∨
      ((Nat.toDigits 10 n).head? = some '0' ∧ 1 < (Nat.toDigits 10 n).length)) := by
    rintro (hnil | ⟨hzero,hlong⟩)
    · exact Nat.toDigits_ne_nil hnil
    · by_cases hn : n = 0
      · subst hn
        exact absurd hlong (by decide)
      · exact head_toDigits (Nat.pos_of_ne_zero hn) hzero
  unfold readNumber
  rw [List.takeWhile_append_of_pos hdigits,List.dropWhile_append_of_pos hdigits,htake,hdrop,
    List.append_nil]
  dsimp only
  rw [if_neg hcanonical,Nat.ofDigitChars_ten_toDigits]

theorem readValue_digit {c : Char} (h : c.isDigit = true) (fuel : ℕ) (cs : List Char) :
    readValue (fuel + 1) (c::cs) = readNumber (c::cs) := by
  have hother : ∀ d : Char, d.isDigit = false → c ≠ d := by
    rintro d hd rfl
    rw [h] at hd
    cases hd
  have hblank : isBlank c = false := by
    simp [isBlank,hother ' ' rfl,hother '\n' rfl,hother '\r' rfl,hother '\t' rfl]
  rw [readValue,skip_cons hblank]
  split
  case h_1 heq => exact absurd (List.cons.inj heq).1 (hother _ rfl)
  case h_2 heq => exact absurd (List.cons.inj heq).1 (hother _ rfl)
  case h_3 heq => exact absurd (List.cons.inj heq).1 (hother _ rfl)
  case h_4 heq => exact absurd (List.cons.inj heq).1 (hother _ rfl)
  case h_5 heq => exact absurd (List.cons.inj heq).1 (hother _ rfl)
  case h_6 heq => exact absurd (List.cons.inj heq).1 (hother _ rfl)
  · rfl

theorem readValue_blanks {blanks : List Char} (h : ∀ c ∈ blanks, isBlank c = true) (fuel : ℕ)
    (cs : List Char) : readValue fuel (blanks ++ cs) = readValue fuel cs := by
  cases fuel with
  | zero => rfl
  | succ k => rw [readValue,readValue,skip_append h]

/-- The first character of a text is not a blank and does not close a list. -/
theorem text_head (layout : Layout) (v : JsonValue) :
    ∃ c cs, text layout v = c::cs ∧ isBlank c = false ∧ c ≠ ']' := by
  cases v with
  | null => exact ⟨_,_,rfl,rfl,by decide⟩
  | bool b => cases b <;> exact ⟨_,_,rfl,rfl,by decide⟩
  | num n =>
    obtain ⟨c,cs,hdigits⟩ := List.exists_cons_of_ne_nil (Nat.toDigits_ne_nil (n := n) (b := 10))
    have hdigit : c.isDigit = true := by
      apply Nat.isDigit_of_mem_toDigits (b := 10) (n := n) (by decide) (by decide)
      rw [hdigits]
      exact List.mem_cons_self
    refine ⟨c,cs,hdigits,?_,?_⟩
    · by_contra hblank
      simp only [isBlank,Bool.not_eq_false,decide_eq_true_eq] at hblank
      rcases hblank with rfl | rfl | rfl | rfl <;> cases hdigit
    · rintro rfl
      cases hdigit
  | str s => exact ⟨_,_,rfl,rfl,by decide⟩
  | arr items =>
    cases items with
    | nil => exact ⟨_,_,rfl,rfl,by decide⟩
    | cons v items => exact ⟨_,_,rfl,rfl,by decide⟩
  | obj fields =>
    cases fields with
    | nil => exact ⟨_,_,rfl,rfl,by decide⟩
    | cons f fields => exact ⟨_,_,rfl,rfl,by decide⟩

/-- The reader gives back a text in the layout, with blanks before it and any rest behind it. -/
def Readable (layout : Layout) (v : JsonValue) : Prop :=
  ∀ fuel blanks rest, weight v ≤ fuel → (∀ c ∈ blanks, isBlank c = true) → NoDigit rest →
    readValue fuel (blanks ++ (text layout v ++ rest)) = some (v,rest)

theorem noDigit_blanks {blanks : List Char} (h : ∀ c ∈ blanks, isBlank c = true) {c : Char}
    (hc : c.isDigit = false) (rest : List Char) : NoDigit (blanks ++ c::rest) := by
  intro d hd
  cases blanks with
  | nil =>
    cases hd
    exact hc
  | cons b blanks =>
    cases hd
    have hblank := h d List.mem_cons_self
    simp only [isBlank,decide_eq_true_eq] at hblank
    rcases hblank with rfl | rfl | rfl | rfl <;> rfl

theorem readItems_text (layout : Layout) {close : List Char} (hclose : ∀ c ∈ close, isBlank c = true)
    (rest : List Char) (v : JsonValue) (items : List JsonValue)
    (h : ∀ w ∈ v::items, Readable layout w) {fuel : ℕ} (hfuel : weightItems (v::items) ≤ fuel)
    {blanks : List Char} (hblanks : ∀ c ∈ blanks, isBlank c = true) :
    readItems fuel (blanks ++ (text layout v ++ (textItems layout items ++ (close ++ ']'::rest)))) =
      some (v::items,rest) := by
  induction items generalizing v fuel blanks with
  | nil =>
    obtain ⟨k,rfl⟩ : ∃ k, fuel = k + 1 := ⟨fuel - 1,by simp [weightItems] at hfuel; omega⟩
    have hfirst := h v List.mem_cons_self k blanks (close ++ ']'::rest)
      (by simp [weightItems] at hfuel; omega) hblanks (noDigit_blanks hclose rfl rest)
    have hskip : skip (close ++ ']'::rest) = ']'::rest := by
      rw [skip_append hclose,skip_cons rfl]
    simp only [textItems,List.nil_append]
    rw [readItems,hfirst,Option.bind_some]
    simp only [hskip]
  | cons w items ih =>
    obtain ⟨k,rfl⟩ : ∃ k, fuel = k + 1 := ⟨fuel - 1,by simp [weightItems] at hfuel; omega⟩
    have hnext : NoDigit (textItems layout (w::items) ++ (close ++ ']'::rest)) := by
      intro c hc
      cases hc
      rfl
    have hfirst := h v List.mem_cons_self k blanks _
      (by simp [weightItems] at hfuel; omega) hblanks hnext
    have hfuel' : weightItems (w::items) ≤ k := by simp [weightItems] at hfuel ⊢; omega
    have hrest := ih w (fun u hu => h u (List.mem_cons_of_mem _ hu)) hfuel' (blank_newline layout)
    have hskip : skip (textItems layout (w::items) ++ (close ++ ']'::rest)) =
        ','::(newline layout ++ (text layout w ++ (textItems layout items ++
          (close ++ ']'::rest)))) := by
      simp only [textItems,List.cons_append,List.append_assoc]
      exact skip_cons rfl _
    rw [readItems,hfirst,Option.bind_some]
    simp only [hskip,hrest,Option.map_some]

theorem readKey_quoted (key : String) {blanks : List Char}
    (hblanks : ∀ c ∈ blanks, isBlank c = true) (rest : List Char) :
    readKey (blanks ++ (quoted key ++ ':'::rest)) = some (key,rest) := by
  have hquoted : quoted key ++ ':'::rest = '"'::(key.toList.flatMap escape ++ '"':: ':'::rest) := by
    simp [quoted]
  rw [readKey,skip_append hblanks,hquoted,skip_cons rfl]
  simp only [readString_quoted,Option.bind_some,skip_cons (show isBlank ':' = false from rfl),
    String.ofList_toList]

theorem readFields_text (layout : Layout) {close : List Char}
    (hclose : ∀ c ∈ close, isBlank c = true) (rest : List Char) (key : String) (v : JsonValue)
    (fields : List (String × JsonValue)) (h : ∀ f ∈ (key,v)::fields, Readable layout f.2) {fuel : ℕ}
    (hfuel : weightFields ((key,v)::fields) ≤ fuel) {blanks : List Char}
    (hblanks : ∀ c ∈ blanks, isBlank c = true) :
    readFields fuel (blanks ++ (quoted key ++ (':'::(blankAfterColon layout ++ (text layout v ++
      (textFields layout fields ++ (close ++ '\x7d'::rest))))))) =
      some ((key,v)::fields,rest) := by
  induction fields generalizing key v fuel blanks with
  | nil =>
    obtain ⟨k,rfl⟩ : ∃ k, fuel = k + 1 := ⟨fuel - 1,by simp [weightFields] at hfuel; omega⟩
    have hweight : weight v ≤ k := by simp [weightFields] at hfuel; omega
    have hfirst := h (key,v) List.mem_cons_self k (blankAfterColon layout) (close ++ '\x7d'::rest)
      hweight (blank_afterColon layout) (noDigit_blanks hclose rfl rest)
    have hskip : skip (close ++ '\x7d'::rest) = '\x7d'::rest := by
      rw [skip_append hclose,skip_cons rfl]
    simp only [textFields,List.nil_append]
    rw [readFields,readKey_quoted key hblanks,Option.bind_some,hfirst,Option.bind_some]
    simp only [hskip]
  | cons f fields ih =>
    obtain ⟨k,rfl⟩ : ∃ k, fuel = k + 1 := ⟨fuel - 1,by simp [weightFields] at hfuel; omega⟩
    have hnext : NoDigit (textFields layout (f::fields) ++ (close ++ '\x7d'::rest)) := by
      intro c hc
      cases hc
      rfl
    have hweight : weight v ≤ k := by simp [weightFields] at hfuel; omega
    have hfirst := h (key,v) List.mem_cons_self k (blankAfterColon layout) _ hweight
      (blank_afterColon layout) hnext
    have hfuel' : weightFields (f::fields) ≤ k := by simp [weightFields] at hfuel ⊢; omega
    have hrest := ih f.1 f.2 (fun g hg => h g (List.mem_cons_of_mem _ hg)) hfuel'
      (blank_newline layout)
    have hskip : skip (textFields layout (f::fields) ++ (close ++ '\x7d'::rest)) =
        ','::(newline layout ++ (quoted f.1 ++ (':'::(blankAfterColon layout ++
          (text layout f.2 ++ (textFields layout fields ++ (close ++ '\x7d'::rest))))))) := by
      simp only [textFields,List.cons_append,List.append_assoc]
      exact skip_cons rfl _
    rw [readFields,readKey_quoted key hblanks,Option.bind_some,hfirst,Option.bind_some]
    simp only [hskip,hrest,Option.map_some]

theorem readable (v : JsonValue) : ∀ layout, Readable layout v := by
  induction v using nested with
  | null =>
    intro layout fuel blanks rest hfuel hblanks hrest
    obtain ⟨k,rfl⟩ : ∃ k, fuel = k + 1 := ⟨fuel - 1,by simp [weight] at hfuel; omega⟩
    rw [readValue,skip_append hblanks]
    rfl
  | bool b =>
    intro layout fuel blanks rest hfuel hblanks hrest
    obtain ⟨k,rfl⟩ : ∃ k, fuel = k + 1 := ⟨fuel - 1,by simp [weight] at hfuel; omega⟩
    rw [readValue,skip_append hblanks]
    cases b <;> rfl
  | num n =>
    intro layout fuel blanks rest hfuel hblanks hrest
    obtain ⟨k,rfl⟩ : ∃ k, fuel = k + 1 := ⟨fuel - 1,by simp [weight] at hfuel; omega⟩
    obtain ⟨c,cs,hdigits⟩ := List.exists_cons_of_ne_nil (Nat.toDigits_ne_nil (n := n) (b := 10))
    have hdigit : c.isDigit = true := by
      apply Nat.isDigit_of_mem_toDigits (b := 10) (n := n) (by decide) (by decide)
      rw [hdigits]
      exact List.mem_cons_self
    have hread := readNumber_digits n hrest
    rw [hdigits,List.cons_append,← readValue_digit hdigit k] at hread
    rw [text,hdigits,List.cons_append,readValue_blanks hblanks]
    exact hread
  | str s =>
    intro layout fuel blanks rest hfuel hblanks hrest
    obtain ⟨k,rfl⟩ : ∃ k, fuel = k + 1 := ⟨fuel - 1,by simp [weight] at hfuel; omega⟩
    have hquoted : text layout (.str s) ++ rest = '"'::(s.toList.flatMap escape ++ '"'::rest) := by
      simp [text,quoted]
    rw [hquoted,readValue,skip_append hblanks,skip_cons rfl]
    simp only [readString_quoted,Option.map_some,String.ofList_toList]
  | arr items ih =>
    intro layout fuel blanks rest hfuel hblanks hrest
    obtain ⟨k,rfl⟩ : ∃ k, fuel = k + 1 := ⟨fuel - 1,by simp [weight] at hfuel; omega⟩
    cases items with
    | nil =>
      rw [readValue,skip_append hblanks]
      rfl
    | cons v items =>
      have hitems := readItems_text (deeper layout) (blank_newline layout) rest v items
        (fun w hw => ih w hw (deeper layout)) (show weightItems (v::items) ≤ k by
          simp [weight] at hfuel; omega) (blank_newline (deeper layout))
      obtain ⟨c,cs,hhead,hblank,hopen⟩ := text_head (deeper layout) v
      have hskip : skip (newline (deeper layout) ++ (text (deeper layout) v ++
          (textItems (deeper layout) items ++ (newline layout ++ ']'::rest)))) = c::(cs ++
            (textItems (deeper layout) items ++ (newline layout ++ ']'::rest))) := by
        rw [skip_append (blank_newline _),hhead]
        exact skip_cons hblank _
      simp only [text,List.cons_append,List.append_assoc,List.nil_append]
      rw [readValue,skip_append hblanks,skip_cons rfl]
      simp only [hskip]
      split
      case h_1 heq => exact absurd (List.cons.inj heq).1 hopen
      · rw [hitems]
        rfl
  | obj fields ih =>
    intro layout fuel blanks rest hfuel hblanks hrest
    obtain ⟨k,rfl⟩ : ∃ k, fuel = k + 1 := ⟨fuel - 1,by simp [weight] at hfuel; omega⟩
    cases fields with
    | nil =>
      rw [readValue,skip_append hblanks]
      rfl
    | cons f fields =>
      have hfields := readFields_text (deeper layout) (blank_newline layout) rest f.1 f.2 fields
        (fun g hg => ih g hg (deeper layout)) (show weightFields (f::fields) ≤ k by
          simp [weight] at hfuel; omega) (blank_newline (deeper layout))
      simp only [text,List.cons_append,List.append_assoc,List.nil_append]
      rw [readValue,skip_append hblanks,skip_cons rfl]
      have hskip : skip (newline (deeper layout) ++ (quoted f.1 ++ (':'::(blankAfterColon
          (deeper layout) ++ (text (deeper layout) f.2 ++ (textFields (deeper layout) fields ++
            (newline layout ++ '\x7d'::rest))))))) = '"'::(f.1.toList.flatMap escape ++
          ('"'::(':'::(blankAfterColon (deeper layout) ++ (text (deeper layout) f.2 ++
            (textFields (deeper layout) fields ++ (newline layout ++ '\x7d'::rest))))))) := by
        rw [skip_append (blank_newline _)]
        simp only [quoted,List.cons_append,List.append_assoc,List.nil_append]
        exact skip_cons rfl _
      simp only [hskip]
      rw [hfields]
      rfl

theorem weight_le_length (v : JsonValue) : ∀ layout, weight v ≤ (text layout v).length := by
  induction v using nested with
  | null => intro layout; simp [weight,text]
  | bool b => intro layout; cases b <;> simp [weight,text]
  | num n =>
    intro layout
    exact Nat.length_toDigits_pos
  | str s => intro layout; simp [weight,text,quoted]
  | arr items ih =>
    intro layout
    have htail (l : Layout) (rest : List JsonValue) (h : ∀ w ∈ rest, w ∈ items) :
        weightItems rest ≤ (textItems l rest).length := by
      induction rest with
      | nil => simp [weightItems]
      | cons w rest hrest =>
        have hfirst := ih w (h w List.mem_cons_self) l
        have hlater := hrest fun u hu => h u (List.mem_cons_of_mem _ hu)
        simp only [weightItems,textItems,List.length_cons,List.length_append]
        omega
    cases items with
    | nil => simp [weight,weightItems,text]
    | cons v items =>
      have hfirst := ih v List.mem_cons_self (deeper layout)
      have hlater := htail (deeper layout) items fun w hw => List.mem_cons_of_mem _ hw
      simp only [weight,weightItems,text,List.length_cons,List.length_append,List.length_nil]
      omega
  | obj fields ih =>
    intro layout
    have htail (l : Layout) (rest : List (String × JsonValue)) (h : ∀ g ∈ rest, g ∈ fields) :
        weightFields rest ≤ (textFields l rest).length := by
      induction rest with
      | nil => simp [weightFields]
      | cons g rest hrest =>
        have hfirst := ih g (h g List.mem_cons_self) l
        have hlater := hrest fun u hu => h u (List.mem_cons_of_mem _ hu)
        simp only [weightFields,textFields,List.length_cons,List.length_append]
        omega
    cases fields with
    | nil => simp [weight,weightFields,text]
    | cons f fields =>
      have hfirst := ih f List.mem_cons_self (deeper layout)
      have hlater := htail (deeper layout) fields fun g hg => List.mem_cons_of_mem _ hg
      simp only [weight,weightFields,text,List.length_cons,List.length_append,List.length_nil]
      omega

theorem read_text (layout : Layout) (v : JsonValue) : read (text layout v) = some v := by
  have hread := readable v layout ((text layout v).length + 1) [] []
    (Nat.le_succ_of_le (weight_le_length v layout)) (by simp) (by simp [NoDigit])
  rw [List.nil_append,List.append_nil] at hread
  rw [read,hread,Option.bind_some]
  rfl

theorem text_injective (layout : Layout) : Function.Injective (text layout) := by
  intro v w h
  have hread := read_text layout v
  rw [h,read_text] at hread
  exact (Option.some.inj hread).symm

end RoundTrip

end JsonValue
