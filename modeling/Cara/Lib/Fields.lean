import Cara.Lib.Text
import Mathlib.Data.List.Infix

/-! Fields of command output: words between white space, lines, and fields that end with a NUL. -/
namespace Text

/-- The words of a text. The first part collects the word that is being read. -/
def wordsFrom : List Char → List Char → List (List Char)
  | word,[] => if word = [] then [] else [word]
  | word,c::cs =>
      if isWhitespace c then if word = [] then wordsFrom [] cs else word::wordsFrom [] cs
      else wordsFrom (word ++ [c]) cs

def words (s : List Char) : List (List Char) := wordsFrom [] s

/-- A carriage return before the line end belongs to the end. -/
def dropCarriageReturn (line : List Char) : List Char :=
  if line.getLast? = some '\r' then line.dropLast else line

/-- Lines without their ends. What follows the last line end is a line when it is not empty. -/
def lines (s : List Char) : List (List Char) :=
  let parts := split '\n' s
  parts.dropLast.map dropCarriageReturn ++ parts.getLast?.toList.filter fun line => !line.isEmpty

def nul : Char := Char.ofNat 0

def nulFields (s : List Char) : List (List Char) := (split nul s).filter fun field => !field.isEmpty

section Words

variable {word : List Char} {cs : List Char}

theorem wordsFrom_append {rest : List Char} (h : ∀ c ∈ cs, isWhitespace c = false) :
    wordsFrom word (cs ++ rest) = wordsFrom (word ++ cs) rest := by
  induction cs generalizing word with
  | nil => simp
  | cons c cs ih =>
    have hc := h c List.mem_cons_self
    show wordsFrom word (c::(cs ++ rest)) = _
    rw [wordsFrom,hc,if_neg (by simp),ih fun d hd => h d (List.mem_cons_of_mem c hd)]
    simp

/-- A word at the front is followed by a blank or ends the text. -/
theorem words_cons (hne : word ≠ []) (h : ∀ c ∈ word, isWhitespace c = false) :
    words (word ++ ' ' :: cs) = word::words cs := by
  have hblank : isWhitespace ' ' = true := by decide
  unfold words
  rw [wordsFrom_append h,List.nil_append,wordsFrom,hblank,if_pos rfl,if_neg hne]

theorem words_single (hne : word ≠ []) (h : ∀ c ∈ word, isWhitespace c = false) : words word = [word] := by
  have happend : wordsFrom [] (word ++ []) = wordsFrom ([] ++ word) [] := wordsFrom_append h
  unfold words
  rw [List.append_nil,List.nil_append] at happend
  rw [happend,wordsFrom,if_neg hne]

end Words

section Fields

theorem split_append {sep : Char} {field rest : List Char} (h : sep ∉ field) :
    split sep (field ++ sep::rest) = field::split sep rest := by
  induction field with
  | nil => simp [split]
  | cons c field ih =>
    have hne : c ≠ sep := fun heq => h (heq ▸ List.mem_cons_self)
    show split sep (c::(field ++ sep::rest)) = _
    rw [split,if_neg hne,ih fun hin => h (List.mem_cons_of_mem c hin)]

theorem nulFields_append {field rest : List Char} (h : nul ∉ field) (hne : field ≠ []) :
    nulFields (field ++ nul::rest) = field::nulFields rest := by
  unfold nulFields
  rw [split_append h,List.filter_cons_of_pos]
  simpa using hne

end Fields

end Text
