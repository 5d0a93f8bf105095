import Cara.Lib.Conversation

/-! Fallible programs with a state of their own beside the environment they talk to. An
error drops the state; what was asked before it stays asked. -/
namespace Prog

variable {Q A σ P α β ε : Type}

/-- A request whose answer is decoded; an answer of another kind aborts. -/
def query (q : Q) (decode : A → Option (Except ε α)) : Fallible Q A ε α := do
  match decode (← send q) with
  | some r => ofResult r
  | none => crashed

theorem yields_query {t : List (Q × A)} (q : Q) (decode : A → Option (Except ε α)) (r : Except ε α) :
    Yields (query q decode) t r ↔ ∃ a,t = [(q,a)] ∧ decode a = some r := by
  have hdecoded (a : A) (t' : List (Q × A)) : Yields (match decode a with
      | some result => ofResult result
      | none => crashed) t' r ↔ t' = [] ∧ decode a = some r := by
    cases decode a with
    | none =>
      rw [iff_false_intro (yields_crashed r)]
      simp
    | some result => rw [yields_ofResult,Option.some_inj,@eq_comm _ r]
  unfold query
  rw [yields_bind]
  constructor
  · intro h
    obtain ⟨x,t₁,t₂,ht,hsend,h⟩ := h
    obtain ⟨a,rfl,rfl⟩ := (yields_send _ _).mp hsend
    obtain ⟨rfl,hd⟩ := (hdecoded a t₂).mp h
    exact ⟨a,ht,hd⟩
  · intro h
    obtain ⟨a,ht,hd⟩ := h
    exact ⟨.ok a,[(q,a)],[],ht,(yields_send _ _).mpr ⟨a,rfl,rfl⟩,(hdecoded a []).mpr ⟨rfl,hd⟩⟩

/-- Every request is permitted, results meet `post` and errors `bad`. -/
structure Gives (step : σ → Q → A → σ → Prop) (ok : σ → Q → Prop) (m : Fallible Q A ε α)
    (post : σ → α → Prop) (bad : σ → ε → Prop) (s : σ) : Prop where
  holds : Holds step ok (fun _ => True) m (fun s' r => match r with
    | .ok a => post s' a
    | .error e => bad s' e) s

abbrev Stateful (Q A ε P : Type) (α : Type) := StateT P (Fallible Q A ε) α

/-- `Gives` for a program with a state of its own. -/
structure Meets (step : σ → Q → A → σ → Prop) (ok : σ → Q → Prop) (m : Stateful Q A ε P α)
    (post : σ → α → P → Prop) (bad : σ → ε → Prop) (s : σ) (p : P) : Prop where
  holds : Holds step ok (fun _ => True) (m.run p) (fun s' r => match r with
    | .ok result => post s' result.1 result.2
    | .error e => bad s' e) s

section Rules

variable {step : σ → Q → A → σ → Prop} {ok : σ → Q → Prop} {post : σ → α → P → Prop}
  {bad : σ → ε → Prop} {s : σ} {p : P}

theorem holds_query {crash : σ → Prop} (q : Q) (decode : A → Option (Except ε α))
    (post : σ → Except ε α → Prop) (s : σ) :
    Holds step ok crash (query q decode) post s ↔
      ok s q ∧ ∀ a s',step s q a s' → (decode a).elim (crash s') (post s') := by
  unfold query
  rw [holds_bind,holds_send]
  apply and_congr_right
  intro _
  apply forall_congr'
  intro a
  apply forall_congr'
  intro s'
  apply imp_congr_right
  intro _
  show Holds step ok crash (match decode a with
    | some r => ofResult r
    | none => crashed) post s' ↔ _
  cases decode a with
  | none => exact Iff.rfl
  | some r => exact Iff.rfl

namespace Gives

variable {post : σ → α → Prop}

theorem pure {a : α} (h : post s a) : Gives step ok (pure a : Fallible Q A ε α) post bad s := ⟨h⟩

theorem throw {e : ε} (h : bad s e) : Gives step ok (throw e : Fallible Q A ε α) post bad s := ⟨h⟩

theorem ofResult {r : Except ε α} (h : ∀ a,r = .ok a → post s a) (hbad : ∀ e,r = .error e → bad s e) :
    Gives step ok (ofResult r) post bad s := by
  constructor
  rw [holds_ofResult]
  cases r with
  | ok a => exact h a rfl
  | error e => exact hbad e rfl

theorem query {q : Q} {decode : A → Option (Except ε α)} (hok : ok s q)
    (h : ∀ a s' r,step s q a s' → decode a = some (.ok r) → post s' r)
    (hbad : ∀ a s' e,step s q a s' → decode a = some (.error e) → bad s' e) :
    Gives step ok (query q decode) post bad s := by
  constructor
  rw [holds_query]
  refine ⟨hok,?_⟩
  intro a s' hstep
  cases hd : decode a with
  | none => trivial
  | some r =>
    cases r with
    | ok r => exact h a s' r hstep hd
    | error e => exact hbad a s' e hstep hd

theorem bind {m : Fallible Q A ε β} {f : β → Fallible Q A ε α} {K : σ → β → Prop}
    (hm : Gives step ok m K bad s) (hf : ∀ s b,K s b → Gives step ok (f b) post bad s) :
    Gives step ok (m >>= f) post bad s := by
  constructor
  rw [holds_bind]
  apply hm.holds.mono
  intro s' r hr
  cases r with
  | ok b => exact (hf s' b hr).holds
  | error e => exact hr

theorem query_bind {q : Q} {decode : A → Option (Except ε β)} {f : β → Fallible Q A ε α}
    (hok : ok s q)
    (hf : ∀ a s' b,step s q a s' → decode a = some (.ok b) → Gives step ok (f b) post bad s')
    (hbad : ∀ a s' e,step s q a s' → decode a = some (.error e) → bad s' e) :
    Gives step ok (Prog.query q decode >>= f) post bad s := by
  have hquery : Gives step ok (Prog.query q decode)
      (fun t b => ∃ a,step s q a t ∧ decode a = some (.ok b)) bad s :=
    .query hok (fun a _ _ hstep hd => ⟨a,hstep,hd⟩) hbad
  apply hquery.bind
  intro t b hb
  obtain ⟨a,hstep,hd⟩ := hb
  exact hf a t b hstep hd

theorem ofResult_bind {r : Except ε β} {f : β → Fallible Q A ε α}
    (hf : ∀ b,r = .ok b → Gives step ok (f b) post bad s) (hbad : ∀ e,r = .error e → bad s e) :
    Gives step ok (Prog.ofResult r >>= f) post bad s := by
  have hresult : Gives step ok (Prog.ofResult r) (fun t b => t = s ∧ r = .ok b) bad s :=
    .ofResult (fun _ hb => ⟨rfl,hb⟩) hbad
  apply hresult.bind
  intro t b hb
  obtain ⟨rfl,hb⟩ := hb
  exact hf b hb

theorem mono {m : Fallible Q A ε α} {post' : σ → α → Prop} {bad' : σ → ε → Prop}
    (h : Gives step ok m post bad s) (hpost : ∀ s a,post s a → post' s a)
    (hbad : ∀ s e,bad s e → bad' s e) : Gives step ok m post' bad' s := by
  constructor
  apply h.holds.mono
  intro s' r hr
  cases r with
  | ok a => exact hpost s' a hr
  | error e => exact hbad s' e hr

/-- A completed run has a result that meets its postcondition. -/
theorem run {m : Fallible Q A ε α} {t : σ} {a : α} (h : Gives step ok m post bad s)
    (hrun : Run step m.run s (some (.ok a)) t) : post t a := Spec.run h.holds hrun

theorem run_error {m : Fallible Q A ε α} {t : σ} {e : ε} (h : Gives step ok m post bad s)
    (hrun : Run step m.run s (some (.error e)) t) : bad t e := Spec.run h.holds hrun

theorem attempt {ε' : Type} {m : Fallible Q A ε α} {bad' : σ → ε' → Prop}
    (h : Gives step ok m post bad s) : Gives step ok (attempt m : Fallible Q A ε' (Except ε α))
      (fun t r => match r with
        | .ok a => post t a
        | .error e => bad t e) bad' s := by
  constructor
  rw [holds_attempt]
  exact h.holds

theorem refuseIf {condition : Bool} {e : ε} {post : σ → Unit → Prop}
    (h : condition = false → post s ()) (hbad : condition = true → bad s e) :
    Gives step ok (refuseIf condition e) post bad s := by
  constructor
  rw [holds_refuseIf]
  cases condition with
  | false => exact h rfl
  | true => exact hbad rfl

theorem crashed : Gives step ok (crashed : Fallible Q A ε α) post bad s := by
  constructor
  rw [holds_crashed]
  trivial

end Gives

/-- From every state of the invariant the program keeps it, and its results meet `P`. -/
structure Keeps (step : σ → Q → A → σ → Prop) (ok : σ → Q → Prop) (I : σ → Prop)
    (m : Fallible Q A ε α) (P : α → Prop) : Prop where
  gives : ∀ s,I s → Gives step ok m (fun t a => I t ∧ P a) (fun t _ => I t) s

namespace Keeps

variable {I : σ → Prop} {P : α → Prop}

theorem pure {a : α} (h : P a) : Keeps step ok I (pure a : Fallible Q A ε α) P :=
  ⟨fun _ hs => .pure ⟨hs,h⟩⟩

theorem crashed : Keeps step ok I (crashed : Fallible Q A ε α) P := ⟨fun _ _ => .crashed⟩

theorem ofResult {r : Except ε α} (h : ∀ a,r = .ok a → P a) :
    Keeps step ok I (ofResult r : Fallible Q A ε α) P :=
  ⟨fun _ hs => .ofResult (fun a ha => ⟨hs,h a ha⟩) fun _ _ => hs⟩

theorem refuseIf (condition : Bool) (e : ε) :
    Keeps step ok I (refuseIf condition e : Fallible Q A ε Unit) fun _ => condition = false :=
  ⟨fun _ hs => .refuseIf (fun h => ⟨hs,h⟩) fun _ => hs⟩

theorem query {q : Q} {decode : A → Option (Except ε α)} (hok : ∀ s,I s → ok s q)
    (hstep : ∀ s a t,I s → step s q a t → I t)
    (h : ∀ s a t r,I s → step s q a t → decode a = some (.ok r) → P r) :
    Keeps step ok I (Prog.query q decode) P :=
  ⟨fun s hs => .query (hok s hs) (fun a t r ht hr => ⟨hstep s a t hs ht,h s a t r hs ht hr⟩)
    fun a t _ ht _ => hstep s a t hs ht⟩

theorem bind {m : Fallible Q A ε β} {f : β → Fallible Q A ε α} {R : β → Prop}
    (hm : Keeps step ok I m R) (hf : ∀ b,R b → Keeps step ok I (f b) P) :
    Keeps step ok I (m >>= f) P :=
  ⟨fun s hs => (hm.gives s hs).bind fun t b hb => (hf b hb.2).gives t hb.1⟩

theorem mono {m : Fallible Q A ε α} {P' : α → Prop} (h : Keeps step ok I m P)
    (hP : ∀ a,P a → P' a) : Keeps step ok I m P' :=
  ⟨fun s hs => (h.gives s hs).mono (fun _ a ha => ⟨ha.1,hP a ha.2⟩) fun _ _ h => h⟩

end Keeps

/-- A process may stop before any request of its program and after the last. -/
inductive Stops (step : σ → Q → A → σ → Prop) : Prog Q A α → σ → σ → Prop
  | here (p : Prog Q A α) (s : σ) : Stops step p s s
  | ask {q : Q} {k : A → Prog Q A α} {a : A} {s s' t : σ} :
      step s q a s' → Stops step (k a) s' t → Stops step (ask q k) s t

theorem Run.stops {p : Prog Q A α} {r : Option α} {t : σ} (h : Run step p s r t) : Stops step p s t := by
  induction h with
  | done a s => exact .here _ s
  | abort s => exact .here _ s
  | ask hstep _ ih => exact .ask hstep ih

/-- Wherever the process stops, what its permitted requests keep is kept. -/
theorem Gives.stops {post : σ → α → Prop} {I : σ → Prop} {m : Fallible Q A ε α} {t : σ}
    (h : Gives step ok m post bad s) (hstep : ∀ s q a s',ok s q → step s q a s' → I s → I s')
    (hs : I s) (hstop : Stops step m.run s t) : I t := by
  have hspec : Spec step ok (fun _ => True) m.run _ s := h.holds
  clear h
  generalize m.run = tree at hspec hstop
  induction hstop with
  | here p s => exact hs
  | ask hnext _ ih => exact ih (hstep _ _ _ _ hspec.1 hnext hs) (hspec.2 _ _ hnext)

theorem Only.query {allowed : Q → Prop} {q : Q} {decode : A → Option (Except ε α)} (h : allowed q) :
    Only allowed (Prog.query q decode) := by
  unfold Prog.query
  apply (Only.send h).bind
  intro a
  cases decode a with
  | none => exact .crashed
  | some r => exact .ofResult r

/-- What every allowed request keeps, a program of such requests keeps. -/
theorem Only.keeps {allowed : Q → Prop} {I : σ → Prop} {m : Fallible Q A ε α}
    (hm : Only allowed m) (hok : ∀ s q,I s → allowed q → ok s q)
    (hstep : ∀ s q a s',allowed q → step s q a s' → I s → I s') (hs : I s) :
    Gives step ok m (fun s' _ => I s') (fun s' _ => I s') s := by
  constructor
  have htree : Spec step ok (fun _ => True) m.run (fun s' _ => I s') s := by
    unfold Only Calls Holds at hm
    generalize m.run = tree at hm ⊢
    induction tree generalizing s with
    | done r => exact hs
    | abort => trivial
    | ask q k ih =>
      refine ⟨hok s q hs hm.1,?_⟩
      intro a s' hnext
      exact ih a (hstep s q a s' hm.1 hnext hs) (hm.2 a () trivial)
  apply Spec.mono htree
  intro s' r hr
  cases r <;> exact hr

theorem Meets.pure {a : α} (h : post s a p) :
    Meets step ok (pure a : Stateful Q A ε P α) post bad s p := ⟨h⟩

theorem Meets.throw {e : ε} (h : bad s e) :
    Meets step ok (throw e : Stateful Q A ε P α) post bad s p := ⟨h⟩

theorem Meets.get {post : σ → P → P → Prop} (h : post s p p) :
    Meets step ok (get : Stateful Q A ε P P) post bad s p := ⟨h⟩

theorem Meets.modify {f : P → P} {post : σ → Unit → P → Prop} (h : post s () (f p)) :
    Meets step ok (modify f : Stateful Q A ε P Unit) post bad s p := ⟨h⟩

theorem Meets.bind {m : Stateful Q A ε P β} {f : β → Stateful Q A ε P α} {K : σ → β → P → Prop}
    (hm : Meets step ok m K bad s p)
    (hf : ∀ s b p,K s b p → Meets step ok (f b) post bad s p) :
    Meets step ok (m >>= f) post bad s p := by
  constructor
  show Holds step ok (fun _ => True) (m.run p >>= fun r => (f r.1).run r.2) _ s
  rw [holds_bind]
  apply hm.holds.mono
  intro s' r hr
  cases r with
  | ok r => exact (hf s' r.1 r.2 hr).holds
  | error e => exact hr

theorem Meets.lift {m : Fallible Q A ε α} (h : Gives step ok m (fun s' a => post s' a p) bad s) :
    Meets step ok (StateT.lift m : Stateful Q A ε P α) post bad s p := by
  constructor
  show Holds step ok (fun _ => True) (m >>= fun a => Pure.pure (a,p)) _ s
  rw [holds_bind]
  apply h.holds.mono
  intro s' r hr
  cases r with
  | ok a => exact hr
  | error e => exact hr

theorem Meets.mono {m : Stateful Q A ε P α} {post' : σ → α → P → Prop} {bad' : σ → ε → Prop}
    (h : Meets step ok m post bad s p) (hpost : ∀ s a p,post s a p → post' s a p)
    (hbad : ∀ s e,bad s e → bad' s e) : Meets step ok m post' bad' s p := by
  constructor
  apply h.holds.mono
  intro s' r hr
  cases r with
  | ok r => exact hpost s' r.1 r.2 hr
  | error e => exact hbad s' e hr

theorem Meets.gives {m : Stateful Q A ε P α} (h : Meets step ok m post bad s p) :
    Gives step ok (m.run p) (fun t r => post t r.1 r.2) bad s := by
  constructor
  apply h.holds.mono
  intro t r hr
  cases r <;> exact hr

theorem Meets.and {m : Stateful Q A ε P α} {post' : σ → α → P → Prop} {bad' : σ → ε → Prop}
    (h : Meets step ok m post bad s p) (h' : Meets step ok m post' bad' s p) :
    Meets step ok m (fun s a p => post s a p ∧ post' s a p) (fun s e => bad s e ∧ bad' s e) s p := by
  constructor
  apply Spec.mono (Spec.and h.holds h'.holds)
  intro s' r hr
  cases r <;> exact hr

end Rules

/-- Every request of the program is allowed, from any state of its own. -/
structure Uses (allowed : Q → Prop) (m : Stateful Q A ε P α) : Prop where
  only : ∀ p,Only allowed (m.run p)

namespace Uses

variable {allowed : Q → Prop}

theorem pure (a : α) : Uses allowed (pure a : Stateful Q A ε P α) := ⟨fun _ => trivial⟩

theorem throw (e : ε) : Uses allowed (throw e : Stateful Q A ε P α) := ⟨fun _ => trivial⟩

theorem get : Uses allowed (get : Stateful Q A ε P P) := ⟨fun _ => trivial⟩

theorem modify (f : P → P) : Uses allowed (modify f : Stateful Q A ε P Unit) := ⟨fun _ => trivial⟩

theorem bind {m : Stateful Q A ε P β} {f : β → Stateful Q A ε P α} (hm : Uses allowed m)
    (hf : ∀ b,Uses allowed (f b)) : Uses allowed (m >>= f) :=
  ⟨fun p => (hm.only p).bind fun r => (hf r.1).only r.2⟩

theorem lift {m : Fallible Q A ε α} (h : Only allowed m) :
    Uses allowed (StateT.lift m : Stateful Q A ε P α) := ⟨fun _ => h.bind fun _ => trivial⟩

theorem all (m : Stateful Q A ε P α) : Uses (fun _ => True) m := ⟨fun p => only_all (m.run p)⟩

theorem weaken {allowed' : Q → Prop} {m : Stateful Q A ε P α} (hm : Uses allowed m)
    (h : ∀ q,allowed q → allowed' q) : Uses allowed' m := ⟨fun p => (hm.only p).weaken h⟩

theorem keeps {step : σ → Q → A → σ → Prop} {ok : σ → Q → Prop} {I : σ → Prop}
    {m : Stateful Q A ε P α} (hm : Uses allowed m) (hok : ∀ s q,I s → allowed q → ok s q)
    (hstep : ∀ s q a s',allowed q → step s q a s' → I s → I s') {s : σ} (hs : I s) (p : P) :
    Meets step ok m (fun s' _ _ => I s') (fun s' _ => I s') s p := by
  constructor
  apply ((hm.only p).keeps hok hstep hs).holds.mono
  intro s' r hr
  cases r <;> exact hr

end Uses

end Prog
