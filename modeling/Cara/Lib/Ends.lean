import Cara.Lib.Stateful

/-! Single runs of programs: what a program comes to when its requests are answered one way. -/
namespace Prog

variable {Q A σ P α β ε : Type} {step : σ → Q → A → σ → Prop} {s t u : σ}

/-- The rest of a program runs from where the first part ended. -/
theorem Run.bind {m : Prog Q A α} {f : α → Prog Q A β} {a : α} {r : Option β}
    (hm : Run step m s (some a) t) (hf : Run step (f a) t r u) : Run step (m >>= f) s r u := by
  generalize hfirst : some a = first at hm
  induction hm with
  | done b s =>
    cases hfirst
    exact hf
  | abort s => cases hfirst
  | ask hstep _ ih => exact .ask hstep (ih hf hfirst)

/-- Some run of the program has this result. -/
structure Ends (step : σ → Q → A → σ → Prop) (m : Stateful Q A ε P α) (s : σ) (p : P) (t : σ) (a : α)
    (q : P) : Prop where
  run : Run step (m.run p).run s (some (.ok (a,q))) t

namespace Ends

variable {p q r : P}

theorem pure (a : α) : Ends step (pure a : Stateful Q A ε P α) s p s a p := ⟨.done _ s⟩

theorem get : Ends step (get : Stateful Q A ε P P) s p s p p := ⟨.done _ s⟩

theorem modify (f : P → P) : Ends step (modify f : Stateful Q A ε P Unit) s p s () (f p) := ⟨.done _ s⟩

theorem bind {m : Stateful Q A ε P α} {f : α → Stateful Q A ε P β} {a : α} {b : β}
    (hm : Ends step m s p t a q) (hf : Ends step (f a) t q u b r) : Ends step (m >>= f) s p u b r :=
  ⟨hm.run.bind hf.run⟩

theorem query {request : Q} {decode : A → Option (Except ε α)} {answer : A} {a : α}
    (hstep : step s request answer t) (ha : decode answer = some (.ok a)) :
    Ends step (StateT.lift (Prog.query request decode) : Stateful Q A ε P α) s p t a p := by
  constructor
  refine .ask hstep ?_
  simp only [Prog.bind,Function.comp_apply,ExceptT.bindCont,ha]
  exact .done _ t

end Ends

end Prog
