import Mathlib.Data.List.Forall2

/-! Programs that talk to an environment: a program returns, asks one request and continues
with its answer, or aborts. `Run` is what it does in an environment given by a transition
relation, `Spec` the rule-based account of every such run. -/

inductive Prog (Q A : Type) (α : Type) where
  | done (result : α)
  | ask (request : Q) (next : A → Prog Q A α)
  | abort

namespace Prog

variable {Q A σ α β ε : Type}

def bind : Prog Q A α → (α → Prog Q A β) → Prog Q A β
  | done a,f => f a
  | ask q k,f => ask q fun a => (k a).bind f
  | abort,_ => abort

instance : Monad (Prog Q A) where
  pure := done
  bind := bind

def request (q : Q) : Prog Q A A := ask q done

/-- One run from an environment state; an aborted run has no result. -/
inductive Run (step : σ → Q → A → σ → Prop) : Prog Q A α → σ → Option α → σ → Prop
  | done (a : α) (s : σ) : Run step (done a) s (some a) s
  | abort (s : σ) : Run step abort s none s
  | ask {q : Q} {k : A → Prog Q A α} {a : A} {s s' t : σ} {r : Option α} :
      step s q a s' → Run step (k a) s' r t → Run step (ask q k) s r t

/-- Every request is permitted where it is issued, every completed run meets `post` and an
aborted one `crash`. -/
def Spec (step : σ → Q → A → σ → Prop) (ok : σ → Q → Prop) (crash : σ → Prop) :
    Prog Q A α → (σ → α → Prop) → σ → Prop
  | done a,post,s => post s a
  | ask q k,post,s => ok s q ∧ ∀ a s', step s q a s' → Spec step ok crash (k a) post s'
  | abort,_,s => crash s

section Rules

variable {step : σ → Q → A → σ → Prop} {ok : σ → Q → Prop} {crash : σ → Prop}
@[simp] theorem spec_pure (a : α) (post : σ → α → Prop) (s : σ) :
    Spec step ok crash (pure a) post s ↔ post s a := Iff.rfl

@[simp] theorem spec_abort (post : σ → α → Prop) (s : σ) :
    Spec step ok crash abort post s ↔ crash s := Iff.rfl

@[simp] theorem spec_request (q : Q) (post : σ → A → Prop) (s : σ) :
    Spec step ok crash (request q) post s ↔ ok s q ∧ ∀ a s', step s q a s' → post s' a := Iff.rfl

@[simp] theorem spec_bind (p : Prog Q A α) (f : α → Prog Q A β) (post : σ → β → Prop) (s : σ) :
    Spec step ok crash (p >>= f) post s ↔
      Spec step ok crash p (fun s' a => Spec step ok crash (f a) post s') s := by
  induction p generalizing s with
  | done a => exact Iff.rfl
  | abort => exact Iff.rfl
  | ask q k ih =>
    apply and_congr_right
    intro _
    apply forall_congr'
    intro a
    apply forall_congr'
    intro s'
    exact imp_congr_right fun _ => ih a s'

theorem Spec.mono {p : Prog Q A α} {post post' : σ → α → Prop} {s : σ}
    (h : Spec step ok crash p post s) (hpost : ∀ s a, post s a → post' s a) :
    Spec step ok crash p post' s := by
  induction p generalizing s with
  | done a => exact hpost s a h
  | abort => exact h
  | ask q k ih => exact ⟨h.1,fun a s' hstep => ih a (h.2 a s' hstep)⟩

theorem Spec.and {p : Prog Q A α} {post post' : σ → α → Prop} {crash' : σ → Prop} {s : σ}
    (h : Spec step ok crash p post s) (h' : Spec step ok crash' p post' s) :
    Spec step ok crash p (fun s a => post s a ∧ post' s a) s := by
  induction p generalizing s with
  | done a => exact ⟨h,h'⟩
  | abort => exact h
  | ask q k ih => exact ⟨h.1,fun a s' hstep => ih a (h.2 a s' hstep) (h'.2 a s' hstep)⟩

theorem Spec.run {p : Prog Q A α} {post : σ → α → Prop} {s t : σ} {r : Option α}
    (h : Spec step ok crash p post s) (hrun : Run step p s r t) :
    r.elim (crash t) (post t) := by
  induction hrun with
  | done a s => exact h
  | abort s => exact h
  | ask hstep _ ih => exact ih (h.2 _ _ hstep)

/-- Where every request can be answered, a program that cannot abort has a run. -/
theorem Spec.exists_run {p : Prog Q A α} {post : σ → α → Prop} {s : σ}
    (h : Spec step (fun s q => ∃ a s', step s q a s') (fun _ => False) p post s) :
    ∃ a t, Run step p s (some a) t ∧ post t a := by
  induction p generalizing s with
  | done a => exact ⟨a,s,.done a s,h⟩
  | abort => exact h.elim
  | ask q k ih =>
    obtain ⟨⟨a,s',hstep⟩,hrest⟩ := h
    obtain ⟨b,t,hrun,hpost⟩ := ih a (hrest a s' hstep)
    exact ⟨b,t,.ask hstep hrun,hpost⟩

end Rules

section Fallible

variable {step : σ → Q → A → σ → Prop} {ok : σ → Q → Prop} {crash : σ → Prop}

/-- Programs whose result may be an error. -/
abbrev Fallible (Q A ε α : Type) := ExceptT ε (Prog Q A) α

/-- The result of a fallible program as a value, error included. -/
def attempt {ε' : Type} (p : Fallible Q A ε α) : Fallible Q A ε' (Except ε α) :=
  ExceptT.lift p.run

def mapError {ε' : Type} (f : ε → ε') (p : Fallible Q A ε α) : Fallible Q A ε' α :=
  ExceptT.mk (p.run >>= fun r => pure (r.mapError f))

def ofResult (r : Except ε α) : Fallible Q A ε α := ExceptT.mk (pure r)

def refuseIf (condition : Bool) (error : ε) : Fallible Q A ε Unit :=
  ofResult (if condition then .error error else .ok ())

def crashed : Fallible Q A ε α := ExceptT.mk abort

def send (q : Q) : Fallible Q A ε A := ExceptT.lift (request q)

/-- One call after another over a list, stopping at the first error. -/
def forEach : List α → (α → Fallible Q A ε β) → Fallible Q A ε (List β)
  | [],_ => pure []
  | a::l,f => do
      let b ← f a
      let bs ← forEach l f
      return b::bs

/-- Rules for fallible programs: one postcondition for results, one for errors. -/
def Holds (step : σ → Q → A → σ → Prop) (ok : σ → Q → Prop) (crash : σ → Prop)
    (p : Fallible Q A ε α) (post : σ → Except ε α → Prop) (s : σ) : Prop :=
  Spec step ok crash p.run post s

@[simp] theorem holds_pure (a : α) (post : σ → Except ε α → Prop) (s : σ) :
    Holds step ok crash (pure a : Fallible Q A ε α) post s ↔ post s (.ok a) := Iff.rfl

@[simp] theorem holds_throw (e : ε) (post : σ → Except ε α → Prop) (s : σ) :
    Holds step ok crash (throw e : Fallible Q A ε α) post s ↔ post s (.error e) := Iff.rfl

@[simp] theorem holds_ofResult (r : Except ε α) (post : σ → Except ε α → Prop) (s : σ) :
    Holds step ok crash (ofResult r : Fallible Q A ε α) post s ↔ post s r := Iff.rfl

@[simp] theorem holds_refuseIf (condition : Bool) (e : ε) (post : σ → Except ε Unit → Prop)
    (s : σ) : Holds step ok crash (refuseIf condition e : Fallible Q A ε Unit) post s ↔
      post s (if condition then .error e else .ok ()) := Iff.rfl

@[simp] theorem holds_crashed (post : σ → Except ε α → Prop) (s : σ) :
    Holds step ok crash (crashed : Fallible Q A ε α) post s ↔ crash s := Iff.rfl

@[simp] theorem holds_send (q : Q) (post : σ → Except ε A → Prop) (s : σ) :
    Holds step ok crash (send q : Fallible Q A ε A) post s ↔
      ok s q ∧ ∀ a s', step s q a s' → post s' (.ok a) := Iff.rfl

@[simp] theorem holds_bind (p : Fallible Q A ε α) (f : α → Fallible Q A ε β)
    (post : σ → Except ε β → Prop) (s : σ) :
    Holds step ok crash (p >>= f) post s ↔
      Holds step ok crash p (fun s' r => match r with
        | .ok a => Holds step ok crash (f a) post s'
        | .error e => post s' (.error e)) s := by
  have hbind : Holds step ok crash (p >>= f) post s ↔ Spec step ok crash p.run
      (fun s' r => Spec step ok crash (ExceptT.bindCont f r) post s') s := spec_bind _ _ _ _
  refine hbind.trans ?_
  unfold Holds
  constructor
  · intro h
    apply h.mono
    intro s' r hr
    cases r with
    | ok a => exact hr
    | error e => exact hr
  · intro h
    apply h.mono
    intro s' r hr
    cases r with
    | ok a => exact hr
    | error e => exact hr

@[simp] theorem holds_attempt {ε' : Type} (p : Fallible Q A ε α)
    (post : σ → Except ε' (Except ε α) → Prop) (s : σ) :
    Holds step ok crash (attempt p) post s ↔
      Holds step ok crash p (fun s' r => post s' (.ok r)) s :=
  spec_bind p.run (fun r => pure (Except.ok r)) post s

@[simp] theorem holds_mapError {ε' : Type} (f : ε → ε') (p : Fallible Q A ε α)
    (post : σ → Except ε' α → Prop) (s : σ) :
    Holds step ok crash (mapError f p) post s ↔
      Holds step ok crash p (fun s' r => post s' (r.mapError f)) s :=
  spec_bind p.run (fun r => pure (r.mapError f)) post s

theorem Holds.mono {p : Fallible Q A ε α} {post post' : σ → Except ε α → Prop} {s : σ}
    (h : Holds step ok crash p post s) (hpost : ∀ s r, post s r → post' s r) :
    Holds step ok crash p post' s := Spec.mono h hpost

end Fallible

section History

/-- The environment that answers anything and keeps the conversation. -/
def record (h : List (Q × A)) (q : Q) (a : A) (h' : List (Q × A)) : Prop := h' = h ++ [(q,a)]

variable {ok : List (Q × A) → Q → Prop} {crash : List (Q × A) → Prop}

theorem Run.history_extends {p : Prog Q A α} {h h' : List (Q × A)} {r : Option α}
    (hrun : Run record p h r h') : ∃ t, h' = h ++ t := by
  induction hrun with
  | done a s => exact ⟨[],by simp⟩
  | abort s => exact ⟨[],by simp⟩
  | ask hstep _ ih =>
    obtain ⟨t,ht⟩ := ih
    have hnext := hstep
    unfold record at hnext
    rw [ht,hnext,List.append_assoc]
    exact ⟨_,rfl⟩

/-- The run in which the requests meet these answers in turn, when they are as many. -/
def replay : Prog Q A α → List A → Option (Option α × List (Q × A))
  | done a,[] => some (some a,[])
  | abort,[] => some (none,[])
  | ask q k,a::answers => ((k a).replay answers).map fun r => (r.1,(q,a)::r.2)
  | _,_ => none

theorem run_of_replay {p : Prog Q A α} {answers : List A} {r : Option α} {t : List (Q × A)}
    (h : p.replay answers = some (r,t)) (past : List (Q × A)) : Run record p past r (past ++ t) := by
  induction p generalizing answers r t past with
  | done a =>
    cases answers with
    | nil =>
      cases h
      rw [List.append_nil]
      exact .done a past
    | cons _ _ => cases h
  | abort =>
    cases answers with
    | nil =>
      cases h
      rw [List.append_nil]
      exact .abort past
    | cons _ _ => cases h
  | ask q k ih =>
    cases answers with
    | nil => cases h
    | cons a answers =>
      obtain ⟨⟨r',t'⟩,hrest,hpair⟩ := Option.map_eq_some_iff.mp h
      cases hpair
      have hrun := ih a hrest (past ++ [(q,a)])
      rw [List.append_assoc] at hrun
      exact .ask rfl hrun

/-- The environment's steps along a conversation. -/
inductive Steps (step : σ → Q → A → σ → Prop) : σ → List (Q × A) → σ → Prop
  | nil (s : σ) : Steps step s [] s
  | cons {q : Q} {a : A} {s s' u : σ} {t : List (Q × A)} : step s q a s' → Steps step s' t u →
      Steps step s ((q,a)::t) u

theorem Steps.append {step : σ → Q → A → σ → Prop} {s s' u : σ} {t t' : List (Q × A)}
    (h : Steps step s t s') (h' : Steps step s' t' u) : Steps step s (t ++ t') u := by
  induction h with
  | nil s => exact h'
  | cons hstep _ ih => exact .cons hstep (ih h')

theorem run_of_steps {step : σ → Q → A → σ → Prop} {p : Prog Q A α} {answers : List A} {r : Option α}
    {t : List (Q × A)} {s u : σ} (h : p.replay answers = some (r,t)) (hsteps : Steps step s t u) :
    Run step p s r u := by
  induction p generalizing answers t s with
  | done a =>
    cases answers with
    | nil =>
      cases h
      cases hsteps
      exact .done a _
    | cons _ _ => cases h
  | abort =>
    cases answers with
    | nil =>
      cases h
      cases hsteps
      exact .abort _
    | cons _ _ => cases h
  | ask q k ih =>
    cases answers with
    | nil => cases h
    | cons a answers =>
      obtain ⟨⟨r',t'⟩,hrest,hpair⟩ := Option.map_eq_some_iff.mp h
      cases hpair
      cases hsteps with
      | cons hstep hsteps => exact .ask hstep (ih a hrest hsteps)

/-- Every request of a run was permitted after the conversation that preceded it. -/
theorem Spec.requests {p : Prog Q A α} {post : List (Q × A) → α → Prop} {h h' : List (Q × A)}
    {r : Option α} (hspec : Spec record ok crash p post h) (hrun : Run record p h r h')
    (before : List (Q × A)) {after : List (Q × A)} {q : Q} {a : A} (heq : h' = h ++ before ++ (q,a)::after) :
    ok (h ++ before) q := by
  induction hrun generalizing before with
  | done a s => simp at heq
  | abort s => simp at heq
  | ask hstep hrest ih =>
    rename_i q₀ k a₀ s s' t r₀
    obtain ⟨tail,htail⟩ := hrest.history_extends
    have hnext := hstep
    unfold record at hnext
    cases before with
    | nil =>
      rw [htail,hnext] at heq
      have hfirst : (q₀,a₀) = (q,a) := by simpa using congrArg List.head? (List.append_cancel_left
        (by simpa using heq : s ++ ((q₀,a₀)::tail) = s ++ ((q,a)::after)))
      have hq : q₀ = q := congrArg Prod.fst hfirst
      rw [List.append_nil,← hq]
      exact hspec.1
    | cons e before =>
      have hsplit : s ++ ((q₀,a₀)::tail) = s ++ (e::before ++ (q,a)::after) := by
        rw [← List.append_assoc,← heq,htail,hnext]
        simp
      have hcons := List.append_cancel_left hsplit
      have he : (q₀,a₀) = e := (List.cons.inj hcons).1
      have hrest : t = s' ++ before ++ (q,a)::after := by
        rw [heq,hnext,he]
        simp
      have hlast := ih (hspec.2 _ _ hstep) before hrest
      rw [hnext,he] at hlast
      simpa using hlast

/-- The rules of a program whose requests all satisfy `allowed` and whose results satisfy
`post`, whatever the answers. -/
def Calls (allowed : Q → Prop) (p : Fallible Q A ε α) (post : Except ε α → Prop) : Prop :=
  Holds (fun (_ : Unit) (_ : Q) (_ : A) (_ : Unit) => True) (fun _ q => allowed q)
    (fun _ => True) p (fun _ r => post r) ()

theorem Calls.mono {allowed : Q → Prop} {p : Fallible Q A ε α} {post post' : Except ε α → Prop}
    (h : Calls allowed p post) (hpost : ∀ r, post r → post' r) : Calls allowed p post' :=
  Holds.mono h fun _ r => hpost r

theorem Calls.bind {allowed : Q → Prop} {p : Fallible Q A ε α} {f : α → Fallible Q A ε β}
    {m : α → Prop} {post : Except ε β → Prop}
    (hp : Calls allowed p fun r => match r with
      | .ok a => m a
      | .error e => post (.error e))
    (hf : ∀ a, m a → Calls allowed (f a) post) : Calls allowed (p >>= f) post := by
  unfold Calls at *
  rw [holds_bind]
  apply hp.mono
  intro _ r hr
  cases r with
  | ok a => exact hf a hr
  | error e => exact hr

def Only (allowed : Q → Prop) (p : Fallible Q A ε α) : Prop := Calls allowed p fun _ => True

theorem Calls.ofResult {allowed : Q → Prop} {r : Except ε α} {f : α → Fallible Q A ε β}
    {post : Except ε β → Prop} (herror : ∀ e, post (.error e))
    (hf : ∀ a, r = .ok a → Calls allowed (f a) post) :
    Calls allowed (Prog.ofResult r >>= f) post := by
  cases r with
  | ok a => exact hf a rfl
  | error e => exact herror e

theorem only_all (p : Fallible Q A ε α) : Only (fun _ => True) p := by
  unfold Only Calls Holds
  generalize p.run = tree
  induction tree with
  | done r => exact trivial
  | abort => exact trivial
  | ask q k ih => exact ⟨trivial,fun a _ _ => ih a⟩

namespace Only

variable {allowed : Q → Prop}

theorem weaken {allowed' : Q → Prop} {p : Fallible Q A ε α} (hp : Only allowed p)
    (h : ∀ q, allowed q → allowed' q) : Only allowed' p := by
  unfold Only Calls Holds at *
  generalize p.run = tree at hp ⊢
  induction tree with
  | done r => exact trivial
  | abort => exact trivial
  | ask q k ih => exact ⟨h q hp.1,fun a _ _ => ih a (hp.2 a () trivial)⟩

theorem pure (a : α) : Only allowed (pure a : Fallible Q A ε α) := trivial

theorem throw (e : ε) : Only allowed (throw e : Fallible Q A ε α) := trivial

theorem ofResult (r : Except ε α) : Only allowed (ofResult r : Fallible Q A ε α) := trivial

theorem crashed : Only allowed (crashed : Fallible Q A ε α) := trivial

theorem send {q : Q} (h : allowed q) : Only allowed (send q : Fallible Q A ε A) :=
  ⟨h,fun _ _ _ => trivial⟩

theorem bind {p : Fallible Q A ε α} {f : α → Fallible Q A ε β} (hp : Only allowed p)
    (hf : ∀ a, Only allowed (f a)) : Only allowed (p >>= f) := by
  apply Calls.bind (m := fun _ => True)
  · apply hp.mono
    intro r _
    cases r <;> trivial
  · exact fun a _ => hf a

theorem attempt {ε' : Type} {p : Fallible Q A ε α} (hp : Only allowed p) :
    Only allowed (attempt p : Fallible Q A ε' (Except ε α)) := by
  unfold Only Calls at *
  rw [holds_attempt]
  exact hp

theorem mapError {ε' : Type} {f : ε → ε'} {p : Fallible Q A ε α} (hp : Only allowed p) :
    Only allowed (mapError f p) := by
  unfold Only Calls at *
  rw [holds_mapError]
  exact hp

theorem forEach (l : List α) {f : α → Fallible Q A ε β} (hf : ∀ a ∈ l, Only allowed (f a)) :
    Only allowed (forEach l f) := by
  induction l with
  | nil => exact trivial
  | cons a l ih =>
    apply bind (hf a (by simp))
    intro b
    apply bind (ih fun x hx => hf x (by simp [hx]))
    intro bs
    exact trivial

end Only

theorem spec_of_calls {allowed : Q → Prop} {p : Prog Q A α} {post : α → Prop}
    (h : Spec (fun (_ : Unit) (_ : Q) (_ : A) (_ : Unit) => True) (fun _ q => allowed q)
      (fun _ => True) p (fun _ a => post a) ())
    (hok : ∀ h q, allowed q → ok h q) (hcrash : ∀ h, crash h) (t : List (Q × A)) :
    Spec record ok crash p (fun t' a => t <+: t' ∧ post a) t := by
  induction p generalizing t with
  | done a => exact ⟨List.prefix_rfl,h⟩
  | abort => exact hcrash t
  | ask q k ih =>
    refine ⟨hok t q h.1,?_⟩
    intro a t' hstep
    have hnext : t' = t ++ [(q,a)] := hstep
    apply (ih a (h.2 a () trivial) t').mono
    intro t'' b hb
    refine ⟨List.IsPrefix.trans ?_ hb.1,hb.2⟩
    rw [hnext]
    exact List.prefix_append _ _

/-- A program that only makes allowed requests extends any conversation. -/
theorem Calls.holds {allowed : Q → Prop} {p : Fallible Q A ε α} {post : Except ε α → Prop}
    (h : Calls allowed p post) (hok : ∀ h q, allowed q → ok h q) (hcrash : ∀ h, crash h)
    (t : List (Q × A)) :
    Holds record ok crash p (fun t' r => t <+: t' ∧ post r) t := spec_of_calls h hok hcrash t

end History

end Prog
