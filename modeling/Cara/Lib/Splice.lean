import Cara.Lib.FunctionalGraph

/-! Two paths of a partial successor function joined into one. A full path runs from its start
until the successor is undefined; giving the end of one path the start of another as its successor
joins these two and leaves every other path and every cycle as it is. -/
namespace FunctionalGraph

open LinearWalk
open Relation (ReflTransGen)

variable {α : Type*} {next next' : α → Option α}

/-- The path from a start to where the successor is undefined. -/
structure FullPath (next : α → Option α) (start : α) (path : List α) : Prop where
  head : path.head? = some start
  chain : List.IsChain (Step next) path
  ends : ∀ a ∈ path.getLast?, next a = none

theorem FullPath.unique {start : α} {v w : List α} (hv : FullPath next start v)
    (hw : FullPath next start w) : v = w := by
  obtain ⟨v,rfl⟩ := List.head?_eq_some_iff.mp hv.head
  obtain ⟨w,rfl⟩ := List.head?_eq_some_iff.mp hw.head
  induction v generalizing start w with
  | nil =>
    have hend : next start = none := hv.ends start (by simp)
    cases w with
    | nil => rfl
    | cons b w =>
      have hstep : next start = some b := (List.isChain_cons_cons.mp hw.chain).1
      rw [hend] at hstep
      cases hstep
  | cons a v ih =>
    have hstep : next start = some a := (List.isChain_cons_cons.mp hv.chain).1
    cases w with
    | nil =>
      have hend : next start = none := hw.ends start (by simp)
      rw [hend] at hstep
      cases hstep
    | cons b w =>
      have hstep' : next start = some b := (List.isChain_cons_cons.mp hw.chain).1
      rw [hstep,Option.some_inj] at hstep'
      subst hstep'
      have hrest : a::v = a::w := by
        apply ih
        · exact ⟨rfl,(List.isChain_cons_cons.mp hv.chain).2,fun x hx => hv.ends x (by simpa using hx)⟩
        · exact ⟨rfl,(List.isChain_cons_cons.mp hw.chain).2,fun x hx => hw.ends x (by simpa using hx)⟩
      rw [hrest]

theorem FullPath.reach {start x : α} {path : List α} (h : FullPath next start path)
    (hx : x ∈ path) : ReflTransGen (Step next) start x := by
  refine h.chain.induction _ _ (fun a b hab ha => ha.tail hab) (fun hne => ?_) x hx
  have hstart : path.head hne = start := by
    have hhead := h.head
    rw [List.head?_eq_some_head hne] at hhead
    exact Option.some.inj hhead
  rw [hstart]

/-- Chains look at the successors of all elements but the last. -/
theorem isChain_congr {l : List α} (h : List.IsChain (Step next) l)
    (hagree : ∀ a ∈ l,next a = next' a) : List.IsChain (Step next') l := by
  refine List.isChain_iff_forall_rel_of_append_cons_cons.mpr fun a b front back hsplit => ?_
  have hstep : Step next a b := List.isChain_iff_forall_rel_of_append_cons_cons.mp h hsplit
  rw [Step,← hagree a (by simp [hsplit])]
  exact hstep

theorem FullPath.congr {start : α} {path : List α} (h : FullPath next start path)
    (hagree : ∀ a ∈ path,next a = next' a) : FullPath next' start path := by
  refine ⟨h.head,isChain_congr h.chain hagree,fun a ha => ?_⟩
  exact (hagree a (List.mem_of_getLast? ha)).symm.trans (h.ends a ha)

theorem DirectedCycle.congr {c : Cycle α} (h : DirectedCycle next c)
    (hagree : ∀ a ∈ c,next a = next' a) : DirectedCycle next' c := by
  refine ⟨h.ne_nil,h.nodup,?_⟩
  obtain ⟨x,hx⟩ := exists_mem_of_ne_nil h.ne_nil
  obtain ⟨l,rfl⟩ := exists_cons_of_mem hx
  refine (Cycle.chain_coe_cons _ _ _).mpr (isChain_congr ((Cycle.chain_coe_cons _ _ _).mp h.chain) ?_)
  intro a ha
  apply hagree a
  have hmem : a ∈ x::l := by simpa [or_comm] using ha
  exact hmem

section Walks

variable [DecidableEq α] {S visited : Finset α} {fuel : ℕ} {starts : List α}

section Starts

variable (hclosed : ∀ a ∈ S, ∀ b, next a = some b → b ∈ S)
  (hinj : ∀ a b c, next a = some c → next b = some c → a = b)
  (hstarts : ∀ a ∈ starts, a ∈ S) (hfuel : S.card < fuel)
  (hroots : ∀ a ∈ starts, ∀ b, next b ≠ some a)

include hclosed hinj hstarts hfuel hroots

theorem fullPath_of_mem_walks {w : List α} (hw : w ∈ (walks next fuel starts ∅).1) :
    ∃ r ∈ starts, FullPath next r w := by
  obtain ⟨r,hr,seen,hfresh,-,heq⟩ := exists_walk_of_mem_walks fuel starts hw
  obtain ⟨n,rfl⟩ : ∃ n, fuel = n + 1 := ⟨fuel - 1,by omega⟩
  obtain ⟨rest,hrest⟩ := walk_cons next n hfresh
  refine ⟨r,hr,by rw [heq,hrest]; rfl,?_,fun a ha => ?_⟩
  · rw [heq]
    exact walk_isChain (n + 1) r
  · -- a successor of the last element would directly follow it
    by_contra hsome
    obtain ⟨b,hb⟩ := Option.ne_none_iff_exists'.mp hsome
    obtain ⟨front,back,hpair⟩ := walks_successor hclosed hinj (n + 1) starts hstarts hfuel hroots
      (fun _ _ _ h => absurd h (Finset.notMem_empty _)) w hw a (List.mem_of_getLast? ha) b hb
    have hnodup : w.Nodup := by
      rw [heq]
      exact walk_nodup (n + 1) r
    have hlast : a ∈ b::back := by
      have hlen : (b::back).getLast? = some a := by
        have hback : w.getLast? = (b::back).getLast? := by
          rw [← hpair]
          simp [List.getLast?_append,List.getLast?_cons]
        rw [← hback,ha]
      exact List.mem_of_getLast? hlen
    rw [← hpair,List.append_assoc] at hnodup
    exact (List.nodup_cons.mp (List.nodup_append.mp hnodup).2.1).1 hlast

theorem exists_fullPath_of_start {r : α} (hr : r ∈ starts) :
    ∃ w ∈ (walks next fuel starts ∅).1, FullPath next r w := by
  have hcover : r ∈ (walks next fuel starts ∅).1.flatten :=
    (mem_walks_iff hclosed hinj hstarts hfuel hroots r).mpr ⟨r,hr,.refl⟩
  obtain ⟨w,hw,hrw⟩ := List.mem_flatten.mp hcover
  obtain ⟨r',-,hpath⟩ := fullPath_of_mem_walks hclosed hinj hstarts hfuel hroots hw
  obtain ⟨front,back,hsplit⟩ := List.append_of_mem hrw
  have hsame : r' = r := by
    cases front using List.reverseRecOn with
    | nil =>
      have hhead := hpath.head
      rw [hsplit] at hhead
      exact (Option.some.inj hhead).symm
    | append_singleton front m _ =>
      have hstep : Step next m r := List.isChain_iff_forall_rel_of_append_cons_cons.mp hpath.chain
        (show w = front ++ m::r::back by simp [hsplit])
      exact absurd hstep (hroots r hr m)
  exact ⟨w,hw,hsame ▸ hpath⟩

/-- The walks from starts without predecessor are the full paths from them. -/
theorem mem_walks_iff_fullPath (w : List α) :
    w ∈ (walks next fuel starts ∅).1 ↔ ∃ r ∈ starts, FullPath next r w := by
  constructor
  · exact fullPath_of_mem_walks hclosed hinj hstarts hfuel hroots
  · rintro ⟨r,hr,hw⟩
    obtain ⟨v,hv,hpath⟩ := exists_fullPath_of_start hclosed hinj hstarts hfuel hroots hr
    rw [hw.unique hpath]
    exact hv

end Starts

theorem walk_congr (hagree : ∀ a ∉ visited,next a = next' a) (n : ℕ) (current : α) :
    walk next n current visited = walk next' n current visited := by
  induction n generalizing current visited with
  | zero => rfl
  | succ n ih =>
    rw [walk,walk]
    split
    · rfl
    next hcurrent =>
      rw [← hagree current hcurrent]
      cases next current with
      | none => rfl
      | some child =>
        have hrest : walk next n child (insert current visited) =
            walk next' n child (insert current visited) :=
          ih (fun a ha => hagree a fun h => ha (Finset.mem_insert_of_mem h)) child
        simp only [hrest]

theorem walks_congr (hagree : ∀ a ∉ visited,next a = next' a) :
    walks next fuel starts visited = walks next' fuel starts visited := by
  induction starts generalizing visited with
  | nil => rfl
  | cons start starts ih =>
    rw [walks,walks]
    split
    · exact ih hagree
    · rw [← walk_congr hagree fuel start]
      have hrest : walks next fuel starts (walk next fuel start visited).2 =
          walks next' fuel starts (walk next fuel start visited).2 := by
        apply ih
        intro a ha
        apply hagree a
        intro h
        apply ha
        rw [walk_visited]
        exact Finset.mem_union_left _ h
      simp only [hrest]

end Walks

section Splice

variable [DecidableEq α]

/-- The successor function with a new successor for one element. -/
def splice (next : α → Option α) (t s : α) (a : α) : Option α := if a = t then some s else next a

variable {t s : α}

@[simp] theorem splice_self (next : α → Option α) (t s : α) : splice next t s t = some s := if_pos rfl

theorem splice_of_ne {a : α} (h : a ≠ t) : splice next t s a = next a := if_neg h

theorem splice_eq_some_iff {a b : α} (ht : next t = none) :
    splice next t s a = some b ↔ next a = some b ∨ a = t ∧ b = s := by
  by_cases ha : a = t
  · subst ha
    simp [ht,eq_comm]
  · simp [splice_of_ne ha,ha]

/-- The path that ends at the element continues with the path from its new successor. -/
theorem FullPath.join {r : α} {v w : List α} (hv : FullPath next r v) (hw : FullPath next s w)
    (hlast : v.getLast? = some t) (hnodup : v.Nodup) (ht : t ∉ w) :
    FullPath (splice next t s) r (v ++ w) := by
  obtain ⟨init,rfl⟩ := List.getLast?_eq_some_iff.mp hlast
  have hinit : t ∉ init := fun h => (List.nodup_append.mp hnodup).2.2 t h t (by simp) rfl
  have hw' : FullPath (splice next t s) s w :=
    hw.congr fun a ha => (splice_of_ne (ne_of_mem_of_not_mem ha ht)).symm
  obtain ⟨rest,rfl⟩ := List.head?_eq_some_iff.mp hw.head
  refine ⟨by rw [List.head?_append,hv.head]; rfl,?_,fun a ha => hw'.ends a ?_⟩
  · refine List.isChain_append.mpr ⟨?_,hw'.chain,?_⟩
    · refine List.isChain_iff_forall_rel_of_append_cons_cons.mpr fun a b front back hsplit => ?_
      have hstep : Step next a b :=
        List.isChain_iff_forall_rel_of_append_cons_cons.mp hv.chain hsplit
      have hne : a ≠ t := by
        intro hat
        subst hat
        have hend : next a = none := hv.ends a hlast
        rw [Step,hend] at hstep
        cases hstep
      rw [Step,splice_of_ne hne]
      exact hstep
    · intro a ha b hb
      rw [hlast] at ha
      cases ha
      cases hb
      exact splice_self next _ _
  · rw [List.getLast?_append,List.getLast?_cons] at ha
    rw [List.getLast?_cons]
    exact ha

/-- No cycle runs over the new step when the old path behind it comes to an end elsewhere. -/
theorem DirectedCycle.of_splice {c : Cycle α} {r : α} (hc : DirectedCycle (splice next t s) c)
    (hreach : ReflTransGen (Step next) s r) (hend : next r = none) (ht : next t = none)
    (hne : r ≠ t) : DirectedCycle next c := by
  have hreach' : ReflTransGen (Step (splice next t s)) s r := by
    refine ReflTransGen.mono ?_ _ _ hreach
    intro a b hab
    exact (splice_eq_some_iff ht).mpr (.inl hab)
  have hnot : t ∉ c := by
    intro hmem
    have hs : s ∈ c := hc.next_mem hmem (splice_self next t s)
    obtain ⟨b,-,hb⟩ := hc.exists_next (hc.mem_of_reach hs hreach')
    rw [splice_of_ne hne,hend] at hb
    cases hb
  exact hc.congr fun a ha => splice_of_ne (ne_of_mem_of_not_mem ha hnot)

end Splice

end FunctionalGraph
