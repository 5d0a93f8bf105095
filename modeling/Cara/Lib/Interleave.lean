import Cara.Lib.Prog

/-! Rely and guarantee for programs that run beside others: between two requests the others
may change the shared state as the rely relation allows, and each request of the program
changes it as its guarantee allows. While a request is pending an invariant holds. -/
namespace Prog

variable {Q A σ α β ε : Type}

structure Contract (σ : Type) where
  rely : σ → σ → Prop
  guar : σ → σ → Prop
  pending : σ → Prop
  rely_trans : ∀ s m s', rely s m → rely m s' → rely s s'

namespace Contract

variable (c : Contract σ) (step : σ → Q → A → σ → Prop)

/-- A request after whatever the others did since the last one. -/
def interfered (s : σ) (q : Q) (a : A) (s' : σ) : Prop := ∃ m, c.rely s m ∧ step m q a s'

/-- Wherever the others leave the state, the invariant holds and the request keeps the
guarantee. -/
def permits (s : σ) (q : Q) : Prop :=
  ∀ m, c.rely s m → c.pending m ∧ ∀ a s', step m q a s' → c.guar m s'

/-- The program keeps its contract and ends in its postcondition. -/
def Guarded (p : Prog Q A α) (post : σ → α → Prop) (s : σ) : Prop :=
  Spec (c.interfered step) (c.permits step) (fun _ => False) p post s

def Guards (p : Fallible Q A ε α) (post : σ → Except ε α → Prop) (s : σ) : Prop :=
  Holds (c.interfered step) (c.permits step) (fun _ => False) p post s

variable {c step}

/-- A pending request, taken after interference, keeps the contract and leaves the rest. -/
theorem Guarded.advance {q : Q} {k : A → Prog Q A α} {post : σ → α → Prop} {s m s' : σ} {a : A}
    (h : c.Guarded step (.ask q k) post s) (hrely : c.rely s m) (hstep : step m q a s') :
    c.guar m s' ∧ c.Guarded step (k a) post s' :=
  ⟨(h.1 m hrely).2 a s' hstep,h.2 a s' ⟨m,hrely,hstep⟩⟩

theorem Guarded.stable {q : Q} {k : A → Prog Q A α} {post : σ → α → Prop} {s s' : σ}
    (h : c.Guarded step (.ask q k) post s) (hrely : c.rely s s') :
    c.Guarded step (.ask q k) post s' := by
  constructor
  · intro m hm
    exact h.1 m (c.rely_trans s s' m hrely hm)
  · intro a t hinterfered
    obtain ⟨m,hm,hstep⟩ := hinterfered
    exact h.2 a t ⟨m,c.rely_trans s s' m hrely hm,hstep⟩

theorem Guards.mono {p : Fallible Q A ε α} {post post' : σ → Except ε α → Prop} {s : σ}
    (h : c.Guards step p post s) (hpost : ∀ s r, post s r → post' s r) :
    c.Guards step p post' s := Holds.mono h hpost

/-- One part after the other; an error ends the sequence. -/
theorem Guards.bind {p : Fallible Q A ε α} {f : α → Fallible Q A ε β} {m : σ → α → Prop}
    {post : σ → Except ε β → Prop} {s : σ}
    (hp : c.Guards step p (fun s' r => match r with
      | .ok a => m s' a
      | .error e => post s' (.error e)) s)
    (hf : ∀ s' a, m s' a → c.Guards step (f a) post s') : c.Guards step (p >>= f) post s := by
  unfold Guards at *
  rw [holds_bind]
  apply hp.mono
  intro s' r hr
  cases r with
  | ok a => exact hf s' a hr
  | error e => exact hr

theorem Guards.send {q : Q} {f : A → Fallible Q A ε β} {post : σ → Except ε β → Prop} {s : σ}
    (h : ∀ m, c.rely s m → c.pending m ∧ ∀ a s', step m q a s' →
      c.guar m s' ∧ c.Guards step (f a) post s') :
    c.Guards step (send q >>= f) post s := by
  unfold Guards
  rw [holds_bind,holds_send]
  constructor
  · intro m hm
    exact ⟨(h m hm).1,fun a s' hstep => ((h m hm).2 a s' hstep).1⟩
  · intro a s' hinterfered
    obtain ⟨m,hm,hstep⟩ := hinterfered
    exact ((h m hm).2 a s' hstep).2

theorem Guards.attempt {ε' : Type} {p : Fallible Q A ε α}
    {f : Except ε α → Fallible Q A ε' β} {post : σ → Except ε' β → Prop} {s : σ}
    (h : c.Guards step p (fun s' r => c.Guards step (f r) post s') s) :
    c.Guards step (attempt p >>= f) post s := by
  unfold Guards at *
  rw [holds_bind,holds_attempt]
  exact h

/-- A fallible program whose result, error included, is used by the rest. -/
theorem Guards.guarded {p : Fallible Q A ε α} {f : Except ε α → Prog Q A β}
    {post : σ → β → Prop} {s : σ}
    (h : c.Guards step p (fun s' r => c.Guarded step (f r) post s') s) :
    c.Guarded step (p.run >>= f) post s := by
  unfold Guarded
  rw [spec_bind]
  exact h

end Contract

end Prog
