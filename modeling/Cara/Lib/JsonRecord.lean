import Cara.Lib.JsonText

/-! Records as JSON objects: fields written in order, absent options left out, and fields
looked up by name when the record is read. -/

namespace JsonValue

variable {α : Type}

def optionalField (key : String) (value : Option α) (write : α → JsonValue) :
    List (String × JsonValue) :=
  value.toList.map fun v => (key,write v)

def asNum : JsonValue → Option ℕ
  | .num n => some n
  | _ => none

def asStr : JsonValue → Option String
  | .str s => some s
  | _ => none

def asBool : JsonValue → Option Bool
  | .bool b => some b
  | _ => none

def asArr : JsonValue → Option (List JsonValue)
  | .arr items => some items
  | _ => none

def asObj : JsonValue → Option (List (String × JsonValue))
  | .obj fields => some fields
  | _ => none

def asList (reader : JsonValue → Option α) (v : JsonValue) : Option (List α) :=
  v.asArr.bind fun items => items.mapM reader

def required (fields : List (String × JsonValue)) (key : String) (reader : JsonValue → Option α) :
    Option α :=
  (fields.lookup key).bind reader

def optional (fields : List (String × JsonValue)) (key : String) (reader : JsonValue → Option α) :
    Option (Option α) :=
  match fields.lookup key with
  | none | some .null => some none
  | some v => (reader v).map some

@[simp] theorem optionalField_none (key : String) (write : α → JsonValue) :
    optionalField key none write = [] := rfl

@[simp] theorem optionalField_some (key : String) (a : α) (write : α → JsonValue) :
    optionalField key (some a) write = [(key,write a)] := rfl

@[simp] theorem asNum_num (n : ℕ) : asNum (.num n) = some n := rfl

@[simp] theorem asStr_str (s : String) : asStr (.str s) = some s := rfl

@[simp] theorem asBool_bool (b : Bool) : asBool (.bool b) = some b := rfl

@[simp] theorem asObj_obj (fields : List (String × JsonValue)) : asObj (.obj fields) = some fields :=
  rfl

theorem mapM_map {reader : JsonValue → Option α} {write : α → JsonValue}
    (h : ∀ a, reader (write a) = some a) (l : List α) : (l.map write).mapM reader = some l := by
  induction l with
  | nil => rfl
  | cons a l ih => simp [h a,ih]

@[simp] theorem asList_map {reader : JsonValue → Option α} {write : α → JsonValue}
    (h : ∀ a, reader (write a) = some a) (l : List α) :
    asList reader (.arr (l.map write)) = some l :=
  mapM_map h l

@[simp] theorem lookup_optionalField (k key : String) (value : Option α) (write : α → JsonValue)
    (rest : List (String × JsonValue)) : (optionalField k value write ++ rest).lookup key =
      if key = k then (value.map write).or (rest.lookup key) else rest.lookup key := by
  cases value with
  | none => simp [optionalField]
  | some v =>
    by_cases hkey : key = k
    · subst hkey
      simp [optionalField]
    · have hne : (key == k) = false := beq_false_of_ne hkey
      simp [optionalField,List.lookup_cons,hne,hkey]

@[simp] theorem lookup_lastField (k key : String) (value : Option α) (write : α → JsonValue) :
    (optionalField k value write).lookup key = if key = k then value.map write else none := by
  have hlast := lookup_optionalField k key value write []
  simpa using hlast

@[simp] theorem lookup_field (k key : String) (v : JsonValue) (rest : List (String × JsonValue)) :
    ((k,v)::rest).lookup key = if key = k then some v else rest.lookup key := by
  by_cases hkey : key = k
  · subst hkey
    simp
  · have hne : (key == k) = false := beq_false_of_ne hkey
    simp [List.lookup_cons,hne,hkey]

theorem optional_eq {fields : List (String × JsonValue)} {key : String} {value : Option α}
    {write : α → JsonValue} {reader : JsonValue → Option α}
    (hlookup : fields.lookup key = value.map write) (hread : ∀ a, reader (write a) = some a)
    (hnull : ∀ a, write a ≠ .null) : optional fields key reader = some value := by
  unfold optional
  rw [hlookup]
  cases value with
  | none => rfl
  | some a =>
    dsimp only [Option.map_some]
    split
    case h_1 heq => cases heq
    case h_2 heq => exact absurd (Option.some.inj heq) (hnull a)
    case h_3 heq =>
      cases heq
      rw [hread]
      rfl

theorem optional_str {fields : List (String × JsonValue)} {key : String} {value : Option String}
    (hlookup : fields.lookup key = value.map .str) : optional fields key asStr = some value :=
  optional_eq hlookup (fun _ => rfl) fun _ => JsonValue.noConfusion

theorem optional_num {fields : List (String × JsonValue)} {key : String} {value : Option ℕ}
    (hlookup : fields.lookup key = value.map .num) : optional fields key asNum = some value :=
  optional_eq hlookup (fun _ => rfl) fun _ => JsonValue.noConfusion

theorem required_eq {fields : List (String × JsonValue)} {key : String} {v : JsonValue}
    {reader : JsonValue → Option α} {a : α} (hlookup : fields.lookup key = some v)
    (hread : reader v = some a) : required fields key reader = some a := by
  rw [required,hlookup,Option.bind_some,hread]

theorem sizeFields_append (fields fields' : List (String × JsonValue)) :
    sizeFields (fields ++ fields') = sizeFields fields ++ sizeFields fields' := by
  simp [sizeFields_eq]

theorem sizeFields_optionalField (key : String) (value : Option α) (write : α → JsonValue) :
    sizeFields (optionalField key value write) = Json.optional key value fun a => size (write a) := by
  cases value <;> rfl

theorem size_map {write : α → JsonValue} {count : α → Json} (h : ∀ a, size (write a) = count a)
    (l : List α) : size (.arr (l.map write)) = Json.array (l.map count) := by
  have hcount : size ∘ write = count := funext h
  simp [size,sizeItems_eq,hcount]

theorem read_bind {β : Type} {x : Option α} {a : α} (h : x = some a) (f : α → Option β) :
    (x >>= f) = f a := by
  rw [h]
  rfl

end JsonValue
