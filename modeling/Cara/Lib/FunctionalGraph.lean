import Cara.Lib.LinearWalk
import Mathlib.Data.List.Cycle
import Mathlib.Logic.Relation

/-! Directed cycles of a partial successor function. A cycle is a list of distinct
elements up to rotation, two cycles that share an element are equal, and the trail from
an element of a cycle is that cycle. A trail that closes no cycle ends where the
successor is undefined. -/
namespace FunctionalGraph

open LinearWalk

variable {α : Type*}

def Step (next : α → Option α) (a b : α) : Prop := next a = some b

structure DirectedCycle (next : α → Option α) (c : Cycle α) : Prop where
  ne_nil : c ≠ Cycle.nil
  nodup : c.Nodup
  chain : c.Chain (Step next)

variable {next : α → Option α} {S : Finset α} {c d : Cycle α}

theorem exists_cons_of_mem {x : α} (h : x ∈ c) : ∃ l : List α, c = (x::l : List α) := by
  induction c using Quotient.inductionOn with
  | _ l =>
    obtain ⟨front,back,rfl⟩ := List.append_of_mem (show x ∈ l from h)
    exact ⟨back ++ front,Cycle.coe_eq_coe.mpr List.isRotated_append⟩

theorem exists_mem_of_ne_nil (h : c ≠ Cycle.nil) : ∃ x, x ∈ c := by
  induction c using Quotient.inductionOn with
  | _ l =>
    cases l with
    | nil => exact absurd rfl h
    | cons x l => exact ⟨x,List.mem_cons_self⟩

/-- Two paths from one element that end at their first visit of another agree. -/
theorem first_return {a x : α} {l m : List α} (hl : List.IsChain (Step next) (a::(l ++ [x])))
    (hm : List.IsChain (Step next) (a::(m ++ [x]))) (hxl : x ∉ l) (hxm : x ∉ m) : l = m := by
  induction l generalizing a m with
  | nil =>
    cases m with
    | nil => rfl
    | cons b m =>
      have hax : next a = some x := (List.isChain_cons_cons.mp hl).1
      have hab : next a = some b := (List.isChain_cons_cons.mp hm).1
      rw [hax,Option.some.injEq] at hab
      exact absurd (by simp [hab]) hxm
  | cons b l ih =>
    have hab : next a = some b := (List.isChain_cons_cons.mp hl).1
    cases m with
    | nil =>
      have hax : next a = some x := (List.isChain_cons_cons.mp hm).1
      rw [hax,Option.some.injEq] at hab
      exact absurd (by simp [hab]) hxl
    | cons b' m =>
      have hab' : next a = some b' := (List.isChain_cons_cons.mp hm).1
      rw [hab,Option.some.injEq] at hab'
      subst hab'
      rw [List.mem_cons,not_or] at hxl hxm
      rw [ih (List.isChain_cons_cons.mp hl).2 (List.isChain_cons_cons.mp hm).2 hxl.2 hxm.2]

namespace DirectedCycle

theorem eq_of_mem (hc : DirectedCycle next c) (hd : DirectedCycle next d) {x : α} (hxc : x ∈ c)
    (hxd : x ∈ d) : c = d := by
  obtain ⟨l,rfl⟩ := exists_cons_of_mem hxc
  obtain ⟨m,rfl⟩ := exists_cons_of_mem hxd
  have hl := (List.nodup_cons.mp (Cycle.nodup_coe_iff.mp hc.nodup)).1
  have hm := (List.nodup_cons.mp (Cycle.nodup_coe_iff.mp hd.nodup)).1
  have hchain := (Cycle.chain_coe_cons _ _ _).mp hc.chain
  rw [first_return hchain ((Cycle.chain_coe_cons _ _ _).mp hd.chain) hl hm]

theorem exists_next (hc : DirectedCycle next c) {a : α} (ha : a ∈ c) :
    ∃ b ∈ c, next a = some b := by
  obtain ⟨l,rfl⟩ := exists_cons_of_mem ha
  have hchain := (Cycle.chain_coe_cons _ _ _).mp hc.chain
  cases l with
  | nil => exact ⟨a,List.mem_cons_self,(List.isChain_cons_cons.mp hchain).1⟩
  | cons b l =>
    exact ⟨b,List.mem_cons_of_mem _ List.mem_cons_self,(List.isChain_cons_cons.mp hchain).1⟩

theorem next_mem (hc : DirectedCycle next c) {a b : α} (ha : a ∈ c) (h : next a = some b) :
    b ∈ c := by
  obtain ⟨b',hb',hnext⟩ := hc.exists_next ha
  rw [h,Option.some.injEq] at hnext
  exact hnext ▸ hb'

/-- A path that reaches a cycle forwards started anywhere, but one that starts on it
never leaves it. -/
theorem mem_of_reach (hc : DirectedCycle next c) {a b : α} (ha : a ∈ c)
    (h : Relation.ReflTransGen (Step next) a b) : b ∈ c := by
  induction h with
  | refl => exact ha
  | tail _ hstep ih => exact hc.next_mem ih hstep

end DirectedCycle

theorem chain_snoc {path : List α} {a b : α} (h : List.IsChain (Step next) (path ++ [a]))
    (hab : next a = some b) : List.IsChain (Step next) (path ++ [a] ++ [b]) := by
  rw [List.isChain_append]
  refine ⟨h,List.isChain_singleton _,?_⟩
  intro x hx y hy
  have hxa : x = a := by simpa using hx.symm
  have hyb : y = b := by simpa using hy.symm
  rw [hxa,hyb]
  exact hab

theorem nodup_snoc {path : List α} {a : α} (h : path.Nodup) (ha : a ∉ path) :
    (path ++ [a]).Nodup := by
  rw [List.nodup_append]
  refine ⟨h,List.nodup_singleton a,?_⟩
  intro x hx y hy hxy
  exact ha (List.mem_singleton.mp hy ▸ hxy ▸ hx)

section Trail

variable [DecidableEq α]

theorem trail_directedCycle (n : ℕ) {current : α} {path p : List α}
    (hchain : List.IsChain (Step next) (path ++ [current])) (hnodup : path.Nodup)
    (h : trail next n current path = some p) : DirectedCycle next p := by
  induction n generalizing current path with
  | zero => simp [trail] at h
  | succ n ih =>
    rw [trail] at h
    split at h
    next hmem =>
      obtain ⟨front,rest,rfl,hfront⟩ := List.eq_append_cons_of_mem hmem
      have hdrop : (front ++ current::rest).dropWhile (fun a => decide (a ≠ current)) =
          current::rest := by
        rw [List.dropWhile_append_of_pos]
        · simp
        · intro a ha
          have hne : a ≠ current := fun heq => hfront (heq ▸ ha)
          simp [hne]
      rw [hdrop,Option.some.injEq] at h
      subst h
      refine ⟨by simp,?_,?_⟩
      · exact Cycle.nodup_coe_iff.mpr (hnodup.sublist (List.sublist_append_right _ _))
      · rw [Cycle.chain_coe_cons]
        rw [List.append_assoc] at hchain
        exact hchain.right_of_append
    next hfresh =>
      cases hnext : next current with
      | none => simp [hnext] at h
      | some parent =>
        simp only [hnext] at h
        exact ih (chain_snoc hchain hnext) (nodup_snoc hnodup hfresh) h

/-- Where every element has a successor inside `S`, a trail inside `S` closes. -/
theorem trail_total (htotal : ∀ a ∈ S, ∃ b ∈ S, next a = some b) (n : ℕ) {current : α}
    {path : List α} (hcurrent : current ∈ S) (hpath : ∀ a ∈ path, a ∈ S) (hnodup : path.Nodup)
    (hfuel : S.card < n + path.length) :
    ∃ p, trail next n current path = some p ∧ ∀ a ∈ p, a ∈ S := by
  induction n generalizing current path with
  | zero =>
    have hsub : path.toFinset ⊆ S := fun a ha => hpath a (List.mem_toFinset.mp ha)
    have hcard := Finset.card_le_card hsub
    rw [List.toFinset_card_of_nodup hnodup] at hcard
    omega
  | succ n ih =>
    rw [trail]
    split
    next =>
      refine ⟨_,rfl,?_⟩
      intro a ha
      exact hpath a (List.dropWhile_subset _ ha)
    next hfresh =>
      obtain ⟨parent,hparent,hnext⟩ := htotal current hcurrent
      simp only [hnext]
      refine ih hparent ?_ (nodup_snoc hnodup hfresh) ?_
      · intro a ha
        rcases List.mem_append.mp ha with ha | ha
        · exact hpath a ha
        · exact List.mem_singleton.mp ha ▸ hcurrent
      · simp only [List.length_append,List.length_singleton]
        omega

/-- A trail that closes nothing ends where the successor is undefined. -/
theorem trail_none (hclosed : ∀ a ∈ S, ∀ b, next a = some b → b ∈ S) (n : ℕ) {current : α}
    {path : List α} (hcurrent : current ∈ S) (hpath : ∀ a ∈ path, a ∈ S) (hnodup : path.Nodup)
    (hfuel : S.card < n + path.length) (h : trail next n current path = none) :
    ∃ r ∈ S, Relation.ReflTransGen (Step next) current r ∧ next r = none := by
  induction n generalizing current path with
  | zero =>
    have hsub : path.toFinset ⊆ S := fun a ha => hpath a (List.mem_toFinset.mp ha)
    have hcard := Finset.card_le_card hsub
    rw [List.toFinset_card_of_nodup hnodup] at hcard
    omega
  | succ n ih =>
    rw [trail] at h
    split at h
    next => simp at h
    next hfresh =>
      cases hnext : next current with
      | none => exact ⟨current,hcurrent,.refl,hnext⟩
      | some parent =>
        simp only [hnext] at h
        have hpath' : ∀ a ∈ path ++ [current], a ∈ S := by
          intro a ha
          rcases List.mem_append.mp ha with ha | ha
          · exact hpath a ha
          · exact List.mem_singleton.mp ha ▸ hcurrent
        have hfuel' : S.card < n + (path ++ [current]).length := by
          simp only [List.length_append,List.length_singleton]
          omega
        obtain ⟨r,hr,hreach,hend⟩ := ih (hclosed current hcurrent parent hnext) hpath'
          (nodup_snoc hnodup hfresh) hfuel' h
        exact ⟨r,hr,hreach.head hnext,hend⟩

theorem trail_start_directedCycle (n : ℕ) {start : α} {p : List α}
    (h : trail next n start [] = some p) : DirectedCycle next p :=
  trail_directedCycle n (List.isChain_singleton _) List.nodup_nil h

theorem trail_of_mem (hc : DirectedCycle next c) {start : α} (hstart : start ∈ c) {n : ℕ}
    (hfuel : c.toFinset.card < n) : ∃ p, trail next n start [] = some p ∧ (p : Cycle α) = c := by
  have hmem (a : α) : a ∈ c.toFinset ↔ a ∈ c := by
    induction c using Quotient.inductionOn with
    | _ l => exact List.mem_toFinset
  have htotal : ∀ a ∈ c.toFinset, ∃ b ∈ c.toFinset, next a = some b := by
    intro a ha
    obtain ⟨b,hb,hab⟩ := hc.exists_next ((hmem a).mp ha)
    exact ⟨b,(hmem b).mpr hb,hab⟩
  obtain ⟨p,hp,hsub⟩ := trail_total htotal n ((hmem start).mpr hstart) (by simp) List.nodup_nil
    (by simpa using hfuel)
  have hcycle := trail_start_directedCycle n hp
  obtain ⟨x,hx⟩ := exists_mem_of_ne_nil hcycle.ne_nil
  exact ⟨p,hp,hcycle.eq_of_mem hc hx ((hmem x).mp (hsub x hx))⟩

end Trail

section Reach

variable [DecidableEq α]

/-- The walks from starts without predecessor claim exactly what the starts reach. -/
theorem mem_walks_iff (hclosed : ∀ a ∈ S, ∀ b, next a = some b → b ∈ S)
    (hinj : ∀ a b c, next a = some c → next b = some c → a = b) {fuel : ℕ} {starts : List α}
    (hstarts : ∀ a ∈ starts, a ∈ S) (hfuel : S.card < fuel)
    (hroots : ∀ a ∈ starts, ∀ b, next b ≠ some a) (x : α) :
    x ∈ (walks next fuel starts ∅).1.flatten ↔
      ∃ r ∈ starts, Relation.ReflTransGen (Step next) r x := by
  constructor
  · intro hx
    obtain ⟨w,hw,hxw⟩ := List.mem_flatten.mp hx
    obtain ⟨start,hstart,seen,hfresh,-,rfl⟩ := exists_walk_of_mem_walks fuel starts hw
    refine ⟨start,hstart,?_⟩
    obtain ⟨n,rfl⟩ : ∃ n, fuel = n + 1 := ⟨fuel - 1,by omega⟩
    obtain ⟨rest,hrest⟩ := walk_cons next n hfresh
    have hchain : List.IsChain (Step next) (walk next (n + 1) start seen).1 := walk_isChain _ _
    refine hchain.induction _ _ (fun a b hab ha => ha.tail hab) ?_ x hxw
    intro hne
    have hhead : (walk next (n + 1) start seen).1.head hne = start := by simp [hrest]
    rw [hhead]
  · intro hx
    obtain ⟨r,hr,hreach⟩ := hx
    induction hreach with
    | refl =>
      obtain ⟨n,rfl⟩ : ∃ n, fuel = n + 1 := ⟨fuel - 1,by omega⟩
      exact (walks_cover n starts hr).resolve_left (Finset.notMem_empty r)
    | tail _ hstep ih =>
      obtain ⟨w,hw,haw⟩ := List.mem_flatten.mp ih
      have hpair := walks_successor hclosed hinj fuel starts hstarts hfuel hroots
        (fun _ _ _ hb => absurd hb (Finset.notMem_empty _)) w hw _ haw _ hstep
      exact List.mem_flatten.mpr ⟨w,hw,hpair.subset (by simp)⟩

theorem walks_eq_nil_iff {fuel : ℕ} {starts : List α} {visited : Finset α} :
    (walks next fuel starts visited).1 = [] ↔ ∀ a ∈ starts, a ∈ visited := by
  induction starts generalizing visited with
  | nil => simp [walks]
  | cons start starts ih =>
    rw [walks]
    split
    next h => simp [ih,h]
    next h => simp [h]

end Reach

section Record

variable {ι β : Type*} [DecidableEq β]

def record (recorded : List β) : Option β → List β
  | none => recorded
  | some found => if found ∈ recorded then recorded else recorded ++ [found]

/-- Discoveries in order, each recorded the first time only. -/
def recordOnce (f : ι → Option β) (starts : List ι) : List β :=
  starts.foldl (fun recorded start => record recorded (f start)) []

variable {f : ι → Option β}

theorem recordOnce_snoc (starts : List ι) (start : ι) :
    recordOnce f (starts ++ [start]) = record (recordOnce f starts) (f start) := by
  simp only [recordOnce,List.foldl_append,List.foldl_cons,List.foldl_nil]

theorem record_nodup {recorded : List β} (h : recorded.Nodup) (found : Option β) :
    (record recorded found).Nodup := by
  cases found with
  | none => exact h
  | some found =>
    rw [record]
    by_cases hfound : found ∈ recorded
    · rw [if_pos hfound]
      exact h
    · rw [if_neg hfound]
      exact nodup_snoc h hfound

theorem mem_record_iff (recorded : List β) (found : Option β) (x : β) :
    x ∈ record recorded found ↔ x ∈ recorded ∨ found = some x := by
  cases found with
  | none => simp [record]
  | some found =>
    rw [Option.some.injEq,eq_comm]
    rw [record]
    by_cases hfound : found ∈ recorded
    · rw [if_pos hfound]
      exact ⟨.inl,fun h => h.elim id fun hx => hx ▸ hfound⟩
    · rw [if_neg hfound]
      simp

theorem recordOnce_nodup (starts : List ι) : (recordOnce f starts).Nodup := by
  induction starts using List.reverseRecOn with
  | nil => exact List.nodup_nil
  | append_singleton starts start ih =>
    rw [recordOnce_snoc]
    exact record_nodup ih _

theorem mem_recordOnce_iff (starts : List ι) (x : β) :
    x ∈ recordOnce f starts ↔ ∃ start ∈ starts, f start = some x := by
  induction starts using List.reverseRecOn with
  | nil => simp [recordOnce]
  | append_singleton starts start ih =>
    rw [recordOnce_snoc,mem_record_iff,ih]
    simp [or_and_right,exists_or]

end Record

section Return

open Relation (ReflTransGen TransGen)

variable {start : α}

/-- What an element that reaches itself reaches does so too. -/
theorem returns_of_reach {a b : α} (ha : TransGen (Step next) a a) (h : ReflTransGen (Step next) a b) :
    TransGen (Step next) b b := by
  induction h with
  | refl => exact ha
  | tail _ hstep ih =>
    obtain ⟨c,hc,hback⟩ := TransGen.head'_iff.mp ih
    have heq := Option.some.inj (hstep.symm.trans hc)
    rw [heq] at hstep ⊢
    exact TransGen.tail' hback hstep

theorem next_ne_none_of_returns {a : α} (ha : TransGen (Step next) a a) : next a ≠ none := by
  obtain ⟨b,hb,_⟩ := TransGen.head'_iff.mp ha
  intro hnone
  rw [Step,hnone] at hb
  cases hb

variable [DecidableEq α]

/-- A trail that closes has found an element that reaches itself. -/
theorem trail_returns (n : ℕ) {current : α} {path p : List α}
    (hcurrent : ReflTransGen (Step next) start current)
    (hpath : ∀ a ∈ path, TransGen (Step next) a current) (h : trail next n current path = some p) :
    ∃ a, ReflTransGen (Step next) start a ∧ TransGen (Step next) a a := by
  induction n generalizing current path with
  | zero => simp [trail] at h
  | succ n ih =>
    rw [trail] at h
    split at h
    next hmem => exact ⟨current,hcurrent,hpath current hmem⟩
    next hfresh =>
      cases hnext : next current with
      | none => simp [hnext] at h
      | some parent =>
        simp only [hnext] at h
        refine ih (hcurrent.tail hnext) ?_ h
        intro a ha
        rcases List.mem_append.mp ha with ha | ha
        · exact (hpath a ha).tail hnext
        · exact List.mem_singleton.mp ha ▸ .single hnext

/-- Inside a finite set the walk from a start ends exactly when it never comes back to an element. -/
theorem ends_iff_no_return (hclosed : ∀ a ∈ S, ∀ b, next a = some b → b ∈ S) (hstart : start ∈ S) :
    (∃ r, ReflTransGen (Step next) start r ∧ next r = none) ↔
      ¬∃ a, ReflTransGen (Step next) start a ∧ TransGen (Step next) a a := by
  constructor
  · rintro ⟨r,hr,hend⟩ ⟨a,ha,hcycle⟩
    have hunique : Relator.RightUnique (Step next) :=
      fun _ _ _ hb hc => Option.some.inj (hb.symm.trans hc)
    rcases ReflTransGen.total_of_right_unique hunique hr ha with hra | har
    · rcases ReflTransGen.cases_head hra with heq | ⟨b,hb,_⟩
      · exact next_ne_none_of_returns hcycle (heq ▸ hend)
      · rw [Step,hend] at hb
        cases hb
    · exact next_ne_none_of_returns (returns_of_reach hcycle har) hend
  · intro hnone
    cases htrail : trail next (S.card + 1) start [] with
    | some p => exact absurd (trail_returns _ .refl (fun _ hmem => (by cases hmem)) htrail) hnone
    | none =>
      obtain ⟨r,_,hreach,hend⟩ := trail_none hclosed (S.card + 1) hstart (by simp) List.nodup_nil
        (by simp) htrail
      exact ⟨r,hreach,hend⟩

end Return

end FunctionalGraph
