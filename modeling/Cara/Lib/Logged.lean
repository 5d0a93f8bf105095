import Cara.Lib.Stateful

/-! Programs whose environment keeps a log of what was asked: the log only grows, so what a log shows stays
shown, and each rule speaks of the log alone. -/
namespace Prog

variable {Q A σ α β ε : Type} {step : σ → Q → A → σ → Prop} {ok : σ → Q → Prop} {log : σ → List (Q × A)}
  {s : σ}

/-- Every request is permitted, and results meet the condition on a log that grew. -/
abbrev Logs (step : σ → Q → A → σ → Prop) (ok : σ → Q → Prop) (log : σ → List (Q × A))
    (m : Fallible Q A ε α) (post : List (Q × A) → α → Prop) (s : σ) : Prop :=
  Gives step ok m (fun t a => log s <+: log t ∧ post (log t) a) (fun _ _ => True) s

namespace Logs

variable {post : List (Q × A) → α → Prop}

theorem pure {a : α} (h : post (log s) a) : Logs step ok log (pure a : Fallible Q A ε α) post s :=
  Gives.pure ⟨List.prefix_rfl,h⟩

theorem crashed : Logs step ok log (crashed : Fallible Q A ε α) post s := Gives.crashed

theorem mono {m : Fallible Q A ε α} {post' : List (Q × A) → α → Prop} (h : Logs step ok log m post s)
    (hpost : ∀ l a,log s <+: l → post l a → post' l a) : Logs step ok log m post' s := by
  apply Gives.mono h
  · intro t a ht
    exact ⟨ht.1,hpost _ a ht.1 ht.2⟩
  · exact fun _ _ h => h

theorem query {q : Q} {decode : A → Option (Except ε α)}
    (hlog : ∀ s q a t,step s q a t → log t = log s ++ [(q,a)]) (hok : ok s q)
    (h : ∀ a r,decode a = some (.ok r) → post (log s ++ [(q,a)]) r) :
    Logs step ok log (Prog.query q decode) post s := by
  apply Gives.query hok
  · intro a t r hstep hdecode
    rw [hlog s q a t hstep]
    exact ⟨List.prefix_append _ _,h a r hdecode⟩
  · exact fun _ _ _ _ _ => trivial

theorem bind {m : Fallible Q A ε β} {f : β → Fallible Q A ε α} {mid : List (Q × A) → β → Prop}
    (hm : Logs step ok log m mid s)
    (hf : ∀ t b,log s <+: log t → mid (log t) b → Logs step ok log (f b) post t) :
    Logs step ok log (m >>= f) post s := by
  apply Gives.bind hm
  intro t b ht
  apply Gives.mono (hf t b ht.1 ht.2)
  · intro u a hu
    exact ⟨ht.1.trans hu.1,hu.2⟩
  · exact fun _ _ h => h

theorem refuseIf {condition : Bool} {e : ε} {post : List (Q × A) → Unit → Prop}
    (h : condition = false → post (log s) ()) :
    Logs step ok log (Prog.refuseIf condition e : Fallible Q A ε Unit) post s :=
  Gives.refuseIf (fun hc => ⟨List.prefix_rfl,h hc⟩) fun _ => trivial

theorem forEach {good : List (Q × A) → β → α → Prop} {l : List β} {f : β → Fallible Q A ε α}
    (hgood : ∀ h h' b a,h <+: h' → good h b a → good h' b a)
    (hf : ∀ b ∈ l,∀ t,log s <+: log t → Logs step ok log (f b) (fun h a => good h b a) t) :
    Logs step ok log (Prog.forEach l f) (fun h as => List.Forall₂ (good h) l as) s := by
  induction l generalizing s with
  | nil => exact pure .nil
  | cons b l ih =>
    apply bind (hf b List.mem_cons_self s List.prefix_rfl)
    intro t a hle ha
    apply bind (ih fun b' hb' u hu => hf b' (List.mem_cons_of_mem _ hb') u (hle.trans hu))
    intro u as hle' has
    exact pure (.cons (hgood _ _ _ _ hle' ha) has)

/-- Every request of a process was permitted by the log before it. -/
theorem requests {rule : List (Q × A) → Q → Prop} {m : Fallible Q A ε α} {t : σ}
    (hlog : ∀ s q a t,step s q a t → log t = log s ++ [(q,a)])
    (h : Logs step (fun s q => rule (log s) q) log m post s) (hstart : log s = [])
    (hstop : Stops step m.run s t) {before after : List (Q × A)} {q : Q} {a : A}
    (heq : log t = before ++ (q,a)::after) : rule before q := by
  have hall : ∀ before q a after,log t = before ++ (q,a)::after → rule before q := by
    apply Gives.stops (I := fun u => ∀ before q a after,log u = before ++ (q,a)::after → rule before q) h
    · intro u q a v hok hstep ih before q' a' after hsplit
      rw [hlog u q a v hstep] at hsplit
      rcases List.eq_nil_or_concat after with rfl | ⟨rest,row,rfl⟩
      · obtain ⟨hbefore,hlast⟩ := List.append_inj' hsplit rfl
        cases hlast
        rw [← hbefore]
        exact hok
      · have hinner : log u ++ [(q,a)] = (before ++ (q',a')::rest) ++ [row] := by
          rw [hsplit]
          simp
        exact ih before q' a' rest (List.append_inj' hinner rfl).1
    · intro before q a after hsplit
      rw [hstart] at hsplit
      simp at hsplit
    · exact hstop
  exact hall before q a after heq

end Logs

end Prog
