import Cara.Lib.Stateful

/-! Programs that certainly finish: from a state in which every request can be answered, no
answer aborts the program and none makes it fail. -/
namespace Prog

variable {Q A σ P α β ε : Type}

/-- Every run has a result, and every result meets `post`. -/
structure Succeeds (step : σ → Q → A → σ → Prop) (m : Stateful Q A ε P α)
    (post : σ → α → P → Prop) (s : σ) (p : P) : Prop where
  holds : Holds step (fun s q => ∃ a s',step s q a s') (fun _ => False) (m.run p)
    (fun s' r => match r with
      | .ok result => post s' result.1 result.2
      | .error _ => False) s

variable {step : σ → Q → A → σ → Prop} {s : σ} {p : P}

namespace Succeeds

variable {post : σ → α → P → Prop}

theorem pure {a : α} (h : post s a p) :
    Succeeds step (pure a : Stateful Q A ε P α) post s p := ⟨h⟩

theorem get {post : σ → P → P → Prop} (h : post s p p) :
    Succeeds step (get : Stateful Q A ε P P) post s p := ⟨h⟩

theorem modify {f : P → P} {post : σ → Unit → P → Prop} (h : post s () (f p)) :
    Succeeds step (modify f : Stateful Q A ε P Unit) post s p := ⟨h⟩

theorem bind {m : Stateful Q A ε P β} {f : β → Stateful Q A ε P α} {K : σ → β → P → Prop}
    (hm : Succeeds step m K s p) (hf : ∀ s b p,K s b p → Succeeds step (f b) post s p) :
    Succeeds step (m >>= f) post s p := by
  constructor
  show Holds step _ _ (m.run p >>= fun r => (f r.1).run r.2) _ s
  rw [holds_bind]
  apply hm.holds.mono
  intro s' r hr
  cases r with
  | ok r => exact (hf s' r.1 r.2 hr).holds
  | error e => exact hr.elim

/-- A request that can be answered, and whose every answer is a result. -/
theorem query {q : Q} {decode : A → Option (Except ε α)} (hanswer : ∃ a s',step s q a s')
    (h : ∀ a s',step s q a s' → ∃ r,decode a = some (.ok r) ∧ post s' r p) :
    Succeeds step (StateT.lift (Prog.query q decode) : Stateful Q A ε P α) post s p := by
  constructor
  show Holds step _ _ (Prog.query q decode >>= fun a => Pure.pure (a,p)) _ s
  rw [holds_bind,holds_query]
  refine ⟨hanswer,?_⟩
  intro a s' hstep
  obtain ⟨r,hr,hpost⟩ := h a s' hstep
  rw [hr]
  exact hpost

theorem run {m : Stateful Q A ε P α} (h : Succeeds step m post s p)
    {r : Option (Except ε (α × P))} {t : σ} (hrun : Run step (m.run p).run s r t) :
    ∃ a p',r = some (.ok (a,p')) ∧ post t a p' := by
  have hend := Spec.run h.holds hrun
  cases r with
  | none => exact hend.elim
  | some r =>
    cases r with
    | error e => exact hend.elim
    | ok result => exact ⟨result.1,result.2,rfl,hend⟩

end Succeeds

/-- Every run has this one result. -/
abbrev Reaches (step : σ → Q → A → σ → Prop) (m : Stateful Q A ε P α) (s : σ) (p : P) (t : σ) (a : α)
    (q : P) : Prop :=
  Succeeds step m (fun s' b p' => s' = t ∧ b = a ∧ p' = q) s p

namespace Reaches

variable {t : σ} {q : P}

theorem pure (a : α) : Reaches step (pure a : Stateful Q A ε P α) s p s a p :=
  Succeeds.pure ⟨rfl,rfl,rfl⟩

theorem get : Reaches step (get : Stateful Q A ε P P) s p s p p :=
  Succeeds.get ⟨rfl,rfl,rfl⟩

theorem modify (f : P → P) : Reaches step (modify f : Stateful Q A ε P Unit) s p s () (f p) :=
  Succeeds.modify ⟨rfl,rfl,rfl⟩

theorem bind {m : Stateful Q A ε P β} {f : β → Stateful Q A ε P α} {b : β} {post : σ → α → P → Prop}
    (hm : Reaches step m s p t b q) (hf : Succeeds step (f b) post t q) :
    Succeeds step (m >>= f) post s p := by
  apply Succeeds.bind hm
  rintro s' b' p' ⟨rfl,rfl,rfl⟩
  exact hf

end Reaches

/-- Where every request can be answered, every program has a run. -/
theorem exists_run (htotal : ∀ s q,∃ a s',step s q a s') (m : Prog Q A α) (s : σ) :
    ∃ r t,Run step m s r t := by
  induction m generalizing s with
  | done a => exact ⟨some a,s,.done a s⟩
  | abort => exact ⟨none,s,.abort s⟩
  | ask q k ih =>
    obtain ⟨a,s',hstep⟩ := htotal s q
    obtain ⟨r,t,hrun⟩ := ih a s'
    exact ⟨r,t,.ask hstep hrun⟩

end Prog
