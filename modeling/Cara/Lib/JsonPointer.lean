import Cara.Lib.JsonRecord

/-! Lookup along a path of keys and array indices. -/
namespace JsonValue

/-- The member of an object; a repeated key counts by its last value. -/
def member (key : String) : JsonValue → Option JsonValue
  | .obj fields => (fields.reverse.find? fun field => decide (field.1 = key)).map (·.2)
  | _ => none

def parseIndex (token : String) : Option ℕ :=
  if Text.startsWith token "+" ∨ Text.startsWith token "0" ∧ token.length ≠ 1 then none
  else Text.parseU64 token.toList

def descend (value : JsonValue) (token : String) : Option JsonValue :=
  match value with
  | .arr items => (parseIndex token).bind fun index => items[index]?
  | value => value.member token

def pointer (path : List String) (value : JsonValue) : Option JsonValue := path.foldlM descend value

def asU64 (value : JsonValue) : Option ℕ := value.asNum.filter fun n => decide (n < 18446744073709551616)

end JsonValue
