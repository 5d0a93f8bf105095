import Mathlib.Data.List.Forall2

/-! Checks in sequence: the first that fails ends the computation with its error. -/
namespace Guard

variable {ε α β : Type}

def refuse (condition : Bool) (error : ε) : Except ε Unit :=
  if condition then .error error else .ok ()

@[simp] theorem refuse_eq_ok (condition : Bool) (error : ε) (u : Unit) :
    refuse condition error = .ok u ↔ condition = false := by
  cases condition <;> simp [refuse]

theorem refuse_eq_error (condition : Bool) (error e : ε) :
    refuse condition error = .error e ↔ condition = true ∧ error = e := by
  cases condition <;> simp [refuse]

theorem ok_bind (a : α) (f : α → Except ε β) : (.ok a : Except ε α) >>= f = f a := rfl

theorem bind_eq_ok {x : Except ε α} {f : α → Except ε β} {b : β} :
    x >>= f = .ok b ↔ ∃ a, x = .ok a ∧ f a = .ok b := by
  cases x with
  | error e =>
    constructor
    · intro h
      cases h
    · intro h
      obtain ⟨_,h,_⟩ := h
      cases h
  | ok a =>
    constructor
    · exact fun h => ⟨a,rfl,h⟩
    · intro h
      obtain ⟨_,ha,h⟩ := h
      cases ha
      exact h

theorem unit_bind_eq_ok {x : Except ε Unit} {f : Unit → Except ε β} {b : β} :
    x >>= f = .ok b ↔ x = .ok () ∧ f () = .ok b := by
  rw [bind_eq_ok]
  constructor
  · intro h
    obtain ⟨_,hx,h⟩ := h
    exact ⟨hx,h⟩
  · exact fun h => ⟨(),h⟩

@[simp] theorem refuse_bind_eq_ok (condition : Bool) (error : ε) (f : Unit → Except ε β) (b : β) :
    refuse condition error >>= f = .ok b ↔ condition = false ∧ f () = .ok b := by
  rw [unit_bind_eq_ok,refuse_eq_ok]

theorem isOk_iff {x : Except ε Unit} : x.isOk = true ↔ x = .ok () := by
  cases x with
  | error e => simp [Except.isOk,Except.toBool]
  | ok u => simp [Except.isOk,Except.toBool]

theorem ok_of_toOption {r : Except ε α} {a : α} (h : r.toOption = some a) : r = .ok a := by
  cases r with
  | error e => cases h
  | ok b => exact congrArg Except.ok (Option.some.inj h)

theorem mapM_eq_ok {f : α → Except ε β} {l : List α} {out : List β} (h : l.mapM f = .ok out) :
    List.Forall₂ (fun a b => f a = .ok b) l out := by
  induction l generalizing out with
  | nil =>
    rw [List.mapM_nil] at h
    cases h
    exact .nil
  | cons a l ih =>
    rw [List.mapM_cons] at h
    obtain ⟨b,hb,h⟩ := bind_eq_ok.mp h
    obtain ⟨bs,hbs,h⟩ := bind_eq_ok.mp h
    cases h
    exact .cons hb (ih hbs)

theorem mem_of_mapM_eq_ok {f : α → Except ε β} {l : List α} {out : List β}
    (h : l.mapM f = .ok out) {a : α} (ha : a ∈ l) : ∃ b ∈ out, f a = .ok b := by
  have hforall := mapM_eq_ok h
  clear h
  induction hforall with
  | nil => cases ha
  | cons hb _ ih =>
    rcases List.mem_cons.mp ha with rfl | ha
    · exact ⟨_,List.mem_cons_self,hb⟩
    · obtain ⟨b,hmem,hb⟩ := ih ha
      exact ⟨b,List.mem_cons_of_mem _ hmem,hb⟩

theorem exists_of_mem_mapM {f : α → Except ε β} {l : List α} {out : List β}
    (h : l.mapM f = .ok out) {b : β} (hb : b ∈ out) : ∃ a ∈ l, f a = .ok b := by
  have hforall := mapM_eq_ok h
  clear h
  induction hforall with
  | nil => cases hb
  | cons hab _ ih =>
    rcases List.mem_cons.mp hb with rfl | hb
    · exact ⟨_,List.mem_cons_self,hab⟩
    · obtain ⟨a,hmem,hab⟩ := ih hb
      exact ⟨a,List.mem_cons_of_mem _ hmem,hab⟩

theorem eq_map_of_mapM_eq_ok {f : α → Except ε β} {g : α → β} {l : List α} {out : List β}
    (h : l.mapM f = .ok out) (hg : ∀ a ∈ l, ∀ b, f a = .ok b → b = g a) : out = l.map g := by
  have hforall := mapM_eq_ok h
  clear h
  induction hforall with
  | nil => rfl
  | cons hab _ ih =>
    rw [hg _ List.mem_cons_self _ hab,ih fun a ha => hg a (List.mem_cons_of_mem _ ha)]
    rfl

theorem mapM_ok {f : α → Except ε β} {l : List α} (h : ∀ a ∈ l, ∃ b, f a = .ok b) :
    ∃ out, l.mapM f = .ok out := by
  induction l with
  | nil => exact ⟨[],rfl⟩
  | cons a l ih =>
    obtain ⟨b,hb⟩ := h a List.mem_cons_self
    obtain ⟨bs,hbs⟩ := ih fun c hc => h c (List.mem_cons_of_mem a hc)
    refine ⟨b::bs,?_⟩
    rw [List.mapM_cons,hb,hbs]
    rfl

end Guard
