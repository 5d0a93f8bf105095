import Mathlib.Data.Finset.Card
import Mathlib.Data.List.Chain
import Mathlib.Data.List.Infix
import Mathlib.Data.List.Nodup

/-! Walks along a partial successor function that share one visited set. Each walk stops
at a visited element or where the successor is undefined. -/
namespace LinearWalk

variable {α : Type*} [DecidableEq α]

def walk (next : α → Option α) : ℕ → α → Finset α → List α × Finset α
  | 0,_,visited => ([],visited)
  | n+1,current,visited =>
      if current ∈ visited then ([],visited)
      else match next current with
        | none => ([current],insert current visited)
        | some child =>
            let rest := walk next n child (insert current visited)
            (current::rest.1,rest.2)

theorem walk_zero (next : α → Option α) (current : α) (visited : Finset α) :
    walk next 0 current visited = ([],visited) := rfl

theorem walk_succ (next : α → Option α) (n : ℕ) (current : α) (visited : Finset α) :
    walk next (n+1) current visited =
      if current ∈ visited then ([],visited)
      else match next current with
        | none => ([current],insert current visited)
        | some child => (current::(walk next n child (insert current visited)).1,
            (walk next n child (insert current visited)).2) := rfl

/-- Walks from every start that no earlier walk has visited. -/
def walks (next : α → Option α) (fuel : ℕ) : List α → Finset α → List (List α) × Finset α
  | [],visited => ([],visited)
  | start::starts,visited =>
      if start ∈ visited then walks next fuel starts visited
      else
        let first := walk next fuel start visited
        let rest := walks next fuel starts first.2
        (first.1::rest.1,rest.2)

theorem walks_nil (next : α → Option α) (fuel : ℕ) (visited : Finset α) :
    walks next fuel [] visited = ([],visited) := rfl

theorem walks_cons (next : α → Option α) (fuel : ℕ) (start : α) (starts : List α) (visited : Finset α) :
    walks next fuel (start::starts) visited =
      if start ∈ visited then walks next fuel starts visited
      else ((walk next fuel start visited).1::(walks next fuel starts (walk next fuel start visited).2).1,
        (walks next fuel starts (walk next fuel start visited).2).2) := rfl

variable {next : α → Option α} {S visited : Finset α}

theorem walk_visited (n : ℕ) (current : α) :
    (walk next n current visited).2 = visited ∪ (walk next n current visited).1.toFinset := by
  induction n generalizing current visited with
  | zero => simp [walk_zero]
  | succ n ih =>
    rw [walk_succ]
    split
    · simp
    · cases next current with
      | none => ext x; simp
      | some child =>
        simp only [ih,List.toFinset_cons]
        ext x
        simp only [Finset.mem_union,Finset.mem_insert]
        tauto

theorem walk_notMem_visited (n : ℕ) (current x : α)
    (hx : x ∈ (walk next n current visited).1) : x ∉ visited := by
  induction n generalizing current visited with
  | zero => simp [walk_zero] at hx
  | succ n ih =>
    rw [walk_succ] at hx
    split at hx
    · simp at hx
    next hcur =>
      cases hnext : next current with
      | none =>
        simp only [hnext,List.mem_singleton] at hx
        exact hx ▸ hcur
      | some child =>
        simp only [hnext,List.mem_cons] at hx
        rcases hx with rfl | hx
        · exact hcur
        · exact fun hv => ih child hx (Finset.mem_insert_of_mem hv)

theorem walk_nodup (n : ℕ) (current : α) : (walk next n current visited).1.Nodup := by
  induction n generalizing current visited with
  | zero => simp [walk_zero]
  | succ n ih =>
    rw [walk_succ]
    split
    · simp
    · cases next current with
      | none => simp
      | some child =>
        refine List.nodup_cons.mpr ⟨fun hmem => ?_,ih child⟩
        exact walk_notMem_visited n child current hmem (Finset.mem_insert_self _ _)

theorem walk_cons (next : α → Option α) (n : ℕ) {current : α} (h : current ∉ visited) :
    ∃ rest, (walk next (n+1) current visited).1 = current::rest := by
  rw [walk_succ,if_neg h]
  cases next current with
  | none => exact ⟨[],rfl⟩
  | some child => exact ⟨_,rfl⟩

theorem walk_step (n : ℕ) {current child : α} (h : current ∉ visited)
    (hnext : next current = some child) :
    walk next (n+1) current visited =
      (current::(walk next n child (insert current visited)).1,
        (walk next n child (insert current visited)).2) := by
  rw [walk_succ,if_neg h,hnext]

theorem walk_isChain (n : ℕ) (current : α) :
    List.IsChain (fun a b => next a = some b) (walk next n current visited).1 := by
  induction n generalizing current visited with
  | zero => simp [walk_zero]
  | succ n ih =>
    rw [walk_succ]
    split
    · simp
    · cases hnext : next current with
      | none => simp
      | some child =>
        cases n with
        | zero => simp [walk_zero]
        | succ n =>
          by_cases hchild : child ∈ insert current visited
          · simp [walk_succ,hchild]
          · obtain ⟨rest,hrest⟩ := walk_cons next n hchild
            have htail := @ih (insert current visited) child
            simp only [hrest] at htail ⊢
            exact List.IsChain.cons_cons hnext htail

theorem walk_subset (hclosed : ∀ a ∈ S, ∀ b, next a = some b → b ∈ S) (n : ℕ) {current x : α}
    (hcurrent : current ∈ S) (hx : x ∈ (walk next n current visited).1) : x ∈ S := by
  induction n generalizing current visited with
  | zero => simp [walk_zero] at hx
  | succ n ih =>
    rw [walk_succ] at hx
    split at hx
    · simp at hx
    · cases hnext : next current with
      | none =>
        simp only [hnext,List.mem_singleton] at hx
        exact hx ▸ hcurrent
      | some child =>
        simp only [hnext,List.mem_cons] at hx
        rcases hx with rfl | hx
        · exact hcurrent
        · exact ih (hclosed current hcurrent child hnext) hx

private theorem card_sdiff_insert_lt {a : α} (ha : a ∈ S) (hv : a ∉ visited) :
    (S \ insert a visited).card < (S \ visited).card := by
  apply Finset.card_lt_card
  refine ⟨Finset.sdiff_subset_sdiff (Finset.Subset.refl S) (Finset.subset_insert a visited),?_⟩
  intro hsub
  have hmem := hsub (Finset.mem_sdiff.mpr ⟨ha,hv⟩)
  simp at hmem

theorem walks_visited (fuel : ℕ) (starts : List α) :
    (walks next fuel starts visited).2 =
      visited ∪ (walks next fuel starts visited).1.flatten.toFinset := by
  induction starts generalizing visited with
  | nil => simp [walks_nil]
  | cons start starts ih =>
    rw [walks_cons]
    split
    · exact ih
    · simp only [ih,walk_visited fuel start,List.flatten_cons,List.toFinset_append,
        Finset.union_assoc]

/-- Every start ends up in some walk or was visited before. -/
theorem walks_cover (n : ℕ) (starts : List α) {start : α} (h : start ∈ starts) :
    start ∈ visited ∨ start ∈ (walks next (n+1) starts visited).1.flatten := by
  induction starts generalizing visited with
  | nil => simp at h
  | cons first starts ih =>
    rw [walks_cons]
    split
    next hfirst =>
      rcases List.mem_cons.mp h with rfl | h
      · exact .inl hfirst
      · exact ih h
    next hfirst =>
      simp only [List.flatten_cons,List.mem_append]
      rcases List.mem_cons.mp h with rfl | h
      · obtain ⟨rest,hrest⟩ := walk_cons next n hfirst
        exact .inr (.inl (by simp [hrest]))
      · rcases @ih (walk next (n+1) first visited).2 h with hv | hm
        · rw [walk_visited,Finset.mem_union,List.mem_toFinset] at hv
          tauto
        · exact .inr (.inr hm)

theorem walks_notMem_visited (fuel : ℕ) (starts : List α) {x : α}
    (hx : x ∈ (walks next fuel starts visited).1.flatten) : x ∉ visited := by
  induction starts generalizing visited with
  | nil => simp [walks_nil] at hx
  | cons start starts ih =>
    rw [walks_cons] at hx
    split at hx
    · exact ih hx
    · simp only [List.flatten_cons,List.mem_append] at hx
      rcases hx with hx | hx
      · exact walk_notMem_visited fuel start x hx
      · intro hv
        apply ih hx
        rw [walk_visited,Finset.mem_union]
        exact .inl hv

theorem walks_nodup (fuel : ℕ) (starts : List α) :
    (walks next fuel starts visited).1.flatten.Nodup := by
  induction starts generalizing visited with
  | nil => simp [walks_nil]
  | cons start starts ih =>
    rw [walks_cons]
    split
    · exact ih
    · simp only [List.flatten_cons]
      refine List.nodup_append.mpr ⟨walk_nodup fuel start,ih,fun a ha b hb hab => ?_⟩
      subst hab
      apply walks_notMem_visited fuel starts hb
      rw [walk_visited,Finset.mem_union,List.mem_toFinset]
      exact .inr ha

theorem exists_walk_of_mem_walks (fuel : ℕ) (starts : List α) {w : List α}
    (hw : w ∈ (walks next fuel starts visited).1) :
    ∃ start ∈ starts, ∃ seen, start ∉ seen ∧ visited ⊆ seen ∧ w = (walk next fuel start seen).1 := by
  induction starts generalizing visited with
  | nil => simp [walks_nil] at hw
  | cons start starts ih =>
    rw [walks_cons] at hw
    split at hw
    · obtain ⟨a,ha,seen,h⟩ := ih hw
      exact ⟨a,List.mem_cons_of_mem _ ha,seen,h⟩
    next hstart =>
      rcases List.mem_cons.mp hw with rfl | hw
      · exact ⟨start,List.mem_cons_self,visited,hstart,Finset.Subset.refl _,rfl⟩
      · obtain ⟨a,ha,seen,hfresh,hsub,heq⟩ := ih hw
        refine ⟨a,List.mem_cons_of_mem _ ha,seen,hfresh,?_,heq⟩
        rw [walk_visited] at hsub
        exact Finset.union_subset_left hsub

section Injective

variable (hclosed : ∀ a ∈ S, ∀ b, next a = some b → b ∈ S)
  (hinj : ∀ a b c, next a = some c → next b = some c → a = b)

def PredecessorClosed (next : α → Option α) (visited : Finset α) : Prop :=
  ∀ a b, next a = some b → b ∈ visited → a ∈ visited

include hclosed hinj in
/-- A walk that enters from outside never stops in front of a successor. -/
theorem walk_successor (n : ℕ) {current : α} (hcurrent : current ∈ S)
    (hfuel : (S \ visited).card < n) (hpred : PredecessorClosed next visited)
    (henter : ∀ a, next a = some current → a ∈ visited) :
    PredecessorClosed next (walk next n current visited).2 ∧
      ∀ a ∈ (walk next n current visited).1, ∀ b, next a = some b →
        [a,b] <:+: (walk next n current visited).1 := by
  induction n generalizing current visited with
  | zero => omega
  | succ n ih =>
    by_cases hcur : current ∈ visited
    · simpa [walk_succ,hcur] using hpred
    have hpred' : PredecessorClosed next (insert current visited) := by
      intro a b hab hb
      rcases Finset.mem_insert.mp hb with rfl | hb
      · exact Finset.mem_insert_of_mem (henter a hab)
      · exact Finset.mem_insert_of_mem (hpred a b hab hb)
    cases hnext : next current with
    | none =>
      simp only [walk_succ,hcur,if_false,hnext]
      refine ⟨hpred',fun a ha b hab => ?_⟩
      rw [List.mem_singleton.mp ha,hnext] at hab
      simp at hab
    | some child =>
      have hdrop := card_sdiff_insert_lt hcurrent hcur
      have hchild : child ∉ insert current visited := by
        intro hmem
        rcases Finset.mem_insert.mp hmem with rfl | hmem
        · exact hcur (henter child hnext)
        · exact hcur (hpred current child hnext hmem)
      have henter' : ∀ a, next a = some child → a ∈ insert current visited := by
        intro a ha
        rw [hinj a current child ha hnext]
        exact Finset.mem_insert_self _ _
      obtain ⟨hclosed',hrest⟩ := ih (hclosed current hcurrent child hnext) (by omega) hpred' henter'
      obtain ⟨m,rfl⟩ : ∃ m, n = m + 1 := ⟨n - 1,by omega⟩
      obtain ⟨rest,hcons⟩ := walk_cons next m hchild
      rw [walk_step (m+1) hcur hnext]
      refine ⟨hclosed',fun a ha b hab => ?_⟩
      rcases List.mem_cons.mp ha with rfl | ha
      · rw [hnext,Option.some.injEq] at hab
        subst hab
        rw [hcons]
        exact ⟨[],rest,rfl⟩
      · exact (hrest a ha b hab).trans (List.suffix_cons _ _).isInfix

include hclosed hinj in
/-- When no start has a predecessor, every successor directly follows its predecessor. -/
theorem walks_successor (fuel : ℕ) (starts : List α) (hstarts : ∀ a ∈ starts, a ∈ S)
    (hfuel : S.card < fuel) (hroots : ∀ a ∈ starts, ∀ b, next b ≠ some a)
    (hpred : PredecessorClosed next visited) :
    ∀ w ∈ (walks next fuel starts visited).1, ∀ a ∈ w, ∀ b, next a = some b → [a,b] <:+: w := by
  induction starts generalizing visited with
  | nil => simp [walks_nil]
  | cons start starts ih =>
    have hstarts' : ∀ a ∈ starts, a ∈ S := fun a ha => hstarts a (List.mem_cons_of_mem _ ha)
    have hroots' : ∀ a ∈ starts, ∀ b, next b ≠ some a := fun a ha =>
      hroots a (List.mem_cons_of_mem _ ha)
    rw [walks_cons]
    split
    · exact ih hstarts' hroots' hpred
    · have hcard : (S \ visited).card < fuel :=
        (Finset.card_le_card Finset.sdiff_subset).trans_lt hfuel
      obtain ⟨hpred',hfirst⟩ := walk_successor hclosed hinj fuel (hstarts start List.mem_cons_self)
        hcard hpred fun a ha => absurd ha (hroots start List.mem_cons_self a)
      intro w hw
      rcases List.mem_cons.mp hw with rfl | hw
      · exact hfirst
      · exact ih hstarts' hroots' hpred' w hw

end Injective

/-- Follow `next` until it stops, or return the suffix of the path that a repeated
element closes into a cycle. -/
def trail (next : α → Option α) : ℕ → α → List α → Option (List α)
  | 0,_,_ => none
  | n+1,current,path =>
      if current ∈ path then some (path.dropWhile fun a => decide (a ≠ current))
      else match next current with
        | none => none
        | some parent => trail next n parent (path ++ [current])

end LinearWalk
