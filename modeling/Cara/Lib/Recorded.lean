import Cara.Lib.Stateful

/-! The recording environment whose answers fit their requests: what every request of a run
followed, for the runs in which each answer is of the kind that was assumed. With it the programs
that keep an invariant of their own state. -/
namespace Prog

variable {Q A P α β ε : Type}

/-- The environment that keeps the conversation and gives fitting answers alone. -/
def recordWhere (fits : Q → A → Prop) (h : List (Q × A)) (q : Q) (a : A) (h' : List (Q × A)) : Prop :=
  fits q a ∧ h' = h ++ [(q,a)]

variable {fits : Q → A → Prop} {ok : List (Q × A) → Q → Prop} {h h' : List (Q × A)}

theorem Run.where {p : Prog Q A α} {r : Option α} (hrun : Run record p h r h')
    (hfits : ∀ e ∈ h',fits e.1 e.2) : Run (recordWhere fits) p h r h' := by
  induction hrun with
  | done a s => exact .done a s
  | abort s => exact .abort s
  | ask hstep hrest ih =>
    rename_i q k a s s' t r
    obtain ⟨tail,htail⟩ := hrest.history_extends
    have hnext : s' = s ++ [(q,a)] := hstep
    have hmem : (q,a) ∈ t := by
      rw [htail,hnext]
      simp
    exact .ask ⟨hfits _ hmem,hnext⟩ (ih hfits)

theorem Run.where_extends {p : Prog Q A α} {r : Option α} (hrun : Run (recordWhere fits) p h r h') :
    ∃ t, h' = h ++ t := by
  induction hrun with
  | done a s => exact ⟨[],by simp⟩
  | abort s => exact ⟨[],by simp⟩
  | ask hstep _ ih =>
    obtain ⟨t,ht⟩ := ih
    rw [ht,hstep.2,List.append_assoc]
    exact ⟨_,rfl⟩

/-- In a run whose answers fit, every request was permitted where it was issued. -/
theorem Gives.requests {m : Fallible Q A ε α} {post : List (Q × A) → α → Prop}
    {bad : List (Q × A) → ε → Prop} {r : Option (Except ε α)}
    (hm : Gives (recordWhere fits) ok m post bad h) (hrun : Run record m.run h r h')
    (hfits : ∀ e ∈ h',fits e.1 e.2) {before after : List (Q × A)} {q : Q} {a : A}
    (heq : h' = h ++ before ++ (q,a)::after) : ok (h ++ before) q := by
  have hspec : Spec (recordWhere fits) ok (fun _ => True) m.run _ h := hm.holds
  have hwhere := hrun.where hfits
  clear hm hrun
  generalize m.run = tree at hspec hwhere
  induction hwhere generalizing before with
  | done a s => simp at heq
  | abort s => simp at heq
  | ask hstep hrest ih =>
    rename_i q₀ k a₀ s s' t r₀
    have hnext := hstep.2
    obtain ⟨tail,htail⟩ := hrest.where_extends
    cases before with
    | nil =>
      have hcons : (q₀,a₀)::tail = (q,a)::after := by
        apply @List.append_cancel_left _ s
        rw [htail,hnext] at heq
        simpa using heq
      cases hcons
      rw [List.append_nil]
      exact hspec.1
    | cons e before =>
      have hcons : (q₀,a₀)::tail = e::(before ++ (q,a)::after) := by
        apply @List.append_cancel_left _ s
        rw [htail,hnext] at heq
        simpa using heq
      have hrest' : t = s' ++ before ++ (q,a)::after := by
        rw [heq,hnext,(List.cons.inj hcons).1]
        simp
      have hlast := ih hfits hrest' (hspec.2 _ _ hstep)
      rw [hnext,(List.cons.inj hcons).1] at hlast
      simpa using hlast

/-- A program of allowed requests only adds to the conversation. -/
theorem Uses.grows {allowed : Q → Prop} {m : Stateful Q A ε P α} (hm : Uses allowed m)
    (hok : ∀ h q,allowed q → ok h q) (p : P) :
    Meets (recordWhere fits) ok m
      (fun h' _ _ => ∃ t,h' = h ++ t ∧ ∀ e ∈ t,allowed e.1 ∧ fits e.1 e.2) (fun _ _ => True) h p := by
  have hkeeps : Meets (recordWhere fits) ok m
      (fun h' _ _ => ∃ t,h' = h ++ t ∧ ∀ e ∈ t,allowed e.1 ∧ fits e.1 e.2)
      (fun h' _ => ∃ t,h' = h ++ t ∧ ∀ e ∈ t,allowed e.1 ∧ fits e.1 e.2) h p := by
    refine hm.keeps (fun s q _ hq => hok s q hq) ?_ ⟨[],by simp⟩ p
    rintro s q a s' hq ⟨hfit,hs'⟩ ⟨t,hs,ht⟩
    refine ⟨t ++ [(q,a)],by rw [hs',hs,List.append_assoc],?_⟩
    intro e he
    rcases List.mem_append.mp he with he | he
    · exact ht e he
    · rw [List.mem_singleton] at he
      rw [he]
      exact ⟨hq,hfit⟩
  exact hkeeps.mono (fun _ _ _ h => h) fun _ _ _ => trivial

section Maintains

variable {σ : Type} {step : σ → Q → A → σ → Prop} {permitted : σ → Q → Prop} {I : P → Prop}

/-- From every state of its own that meets the invariant the program ends in such a state, with a
value that meets `V`. -/
structure Maintains (step : σ → Q → A → σ → Prop) (permitted : σ → Q → Prop) (I : P → Prop)
    (m : Stateful Q A ε P α) (V : α → Prop) : Prop where
  meets : ∀ s p,I p → Meets step permitted m (fun _ a p' => V a ∧ I p') (fun _ _ => True) s p

namespace Maintains

variable {V : α → Prop}

theorem pure {a : α} (h : V a) : Maintains step permitted I (pure a : Stateful Q A ε P α) V :=
  ⟨fun _ _ hp => .pure ⟨h,hp⟩⟩

theorem throw (e : ε) : Maintains step permitted I (throw e : Stateful Q A ε P α) V :=
  ⟨fun _ _ _ => .throw trivial⟩

theorem get : Maintains step permitted I (get : Stateful Q A ε P P) I := ⟨fun _ _ hp => .get ⟨hp,hp⟩⟩

theorem modify {f : P → P} (h : ∀ p,I p → I (f p)) :
    Maintains step permitted I (modify f : Stateful Q A ε P Unit) fun _ => True :=
  ⟨fun _ _ hp => .modify ⟨trivial,h _ hp⟩⟩

theorem bind {m : Stateful Q A ε P β} {f : β → Stateful Q A ε P α} {W : β → Prop}
    (hm : Maintains step permitted I m W) (hf : ∀ b,W b → Maintains step permitted I (f b) V) :
    Maintains step permitted I (m >>= f) V :=
  ⟨fun s p hp => (hm.meets s p hp).bind fun t b p' hb => (hf b hb.1).meets t p' hb.2⟩

theorem lift {m : Fallible Q A ε α}
    (h : ∀ s,Gives step permitted m (fun _ a => V a) (fun _ _ => True) s) :
    Maintains step permitted I (StateT.lift m : Stateful Q A ε P α) V :=
  ⟨fun s _ hp => .lift ((h s).mono (fun _ _ ha => ⟨ha,hp⟩) fun _ _ h => h)⟩

theorem mono {m : Stateful Q A ε P α} {V' : α → Prop} (h : Maintains step permitted I m V)
    (hV : ∀ a,V a → V' a) : Maintains step permitted I m V' :=
  ⟨fun s p hp => (h.meets s p hp).mono (fun _ _ _ ha => ⟨hV _ ha.1,ha.2⟩) fun _ _ h => h⟩

end Maintains

end Maintains

end Prog
