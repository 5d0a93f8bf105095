import Mathlib.Data.Nat.Basic
import Mathlib.Logic.Relation

/-! A loop around an environment. The body of turn `i` either goes round again with a new
state or ends the loop with a value; a measure that falls on every turn bounds the turns. -/

inductive Turn (σ β : Type) where
  | again (s : σ)
  | done (b : β)
deriving DecidableEq

namespace Loop

variable {σ β : Type}

/-- At most `fuel` turns of the body, the first one of them numbered `i`. -/
def run (body : ℕ → σ → Turn σ β) : ℕ → ℕ → σ → Option β
  | 0,_,_ => none
  | fuel + 1,i,s =>
      match body i s with
      | .done b => some b
      | .again s' => run body fuel (i + 1) s'

variable {body : ℕ → σ → Turn σ β} {fuel fuel' i : ℕ} {s : σ} {b : β}

theorem run_mono (h : run body fuel i s = some b) (hle : fuel ≤ fuel') :
    run body fuel' i s = some b := by
  induction fuel generalizing i s fuel' with
  | zero => cases h
  | succ fuel ih =>
    obtain ⟨rest,rfl⟩ : ∃ rest, fuel' = rest + 1 := ⟨fuel' - 1,by omega⟩
    rw [run] at h ⊢
    cases hbody : body i s with
    | done b' =>
      simp only [hbody] at h ⊢
      exact h
    | again s' =>
      simp only [hbody] at h ⊢
      exact ih h (by omega)

theorem run_ends (measure : σ → ℕ)
    (hturn : ∀ i s s', body i s = .again s' → measure s' < measure s)
    (hfuel : measure s < fuel) : ∃ b, run body fuel i s = some b := by
  induction fuel generalizing i s with
  | zero => omega
  | succ fuel ih =>
    rw [run]
    cases hbody : body i s with
    | done b => exact ⟨b,rfl⟩
    | again s' =>
      have hlt := hturn i s s' hbody
      exact ih (by omega)

/-- The invariant rule: what every turn keeps holds when the last turn begins. -/
theorem run_rule (invariant : ℕ → σ → Prop) (post : β → Prop)
    (hagain : ∀ i s s', invariant i s → body i s = .again s' → invariant (i + 1) s')
    (hdone : ∀ i s b, invariant i s → body i s = .done b → post b)
    (hstart : invariant i s) (h : run body fuel i s = some b) : post b := by
  induction fuel generalizing i s with
  | zero => cases h
  | succ fuel ih =>
    rw [run] at h
    cases hbody : body i s with
    | done b' =>
      simp only [hbody,Option.some.injEq] at h
      exact h ▸ hdone i s b' hstart hbody
    | again s' =>
      simp only [hbody] at h
      exact ih (hagain i s s' hstart hbody) h

/-- A loop that follows a partial successor function ends where its walk does. -/
theorem run_follows_iff {α : Type} (next : α → Option α) (view : σ → α) (invariant : σ → Prop)
    (hagain : ∀ i s s', invariant s → body i s = .again s' → next (view s) = some (view s') ∧ invariant s')
    (hdone : ∀ i s b, invariant s → body i s = .done b → next (view s) = none) (hstart : invariant s) :
    (∃ fuel b, run body fuel i s = some b) ↔
      ∃ r, Relation.ReflTransGen (fun a b => next a = some b) (view s) r ∧ next r = none := by
  constructor
  · rintro ⟨fuel,b,h⟩
    induction fuel generalizing i s with
    | zero => cases h
    | succ fuel ih =>
      rw [run] at h
      cases hbody : body i s with
      | done b' => exact ⟨view s,.refl,hdone i s b' hstart hbody⟩
      | again s' =>
        rw [hbody] at h
        obtain ⟨hnext,hkept⟩ := hagain i s s' hstart hbody
        obtain ⟨r,hr,hend⟩ := ih hkept h
        exact ⟨r,hr.head hnext,hend⟩
  · rintro ⟨r,hr,hend⟩
    generalize hview : view s = a at hr
    induction hr using Relation.ReflTransGen.head_induction_on generalizing i s with
    | refl =>
      cases hbody : body i s with
      | done b => exact ⟨1,b,by rw [run,hbody]⟩
      | again s' =>
        obtain ⟨hnext,_⟩ := hagain i s s' hstart hbody
        rw [hview,hend] at hnext
        cases hnext
    | head hstep _ ih =>
      cases hbody : body i s with
      | done b => exact ⟨1,b,by rw [run,hbody]⟩
      | again s' =>
        obtain ⟨hnext,hkept⟩ := hagain i s s' hstart hbody
        rw [hview,hstep] at hnext
        obtain ⟨fuel,b,hrun⟩ := ih hkept (i := i + 1) (Option.some.inj hnext).symm
        exact ⟨fuel + 1,b,by rw [run,hbody]; exact hrun⟩

end Loop
