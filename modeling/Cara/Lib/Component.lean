import Mathlib.Data.List.Nodup
import Mathlib.Data.List.Pairwise
import Mathlib.Data.List.Perm.Lattice
import Mathlib.Logic.Relation

/-! Breadth-first connected components of a decidable relation over a list. Every round
takes the first unseen element and removes from the unseen list what it reaches. -/
namespace Component

variable {α : Type*} (adj : α → α → Bool)

/-- Elements reached from the queue, in visiting order, and the elements left unseen. -/
def explore : ℕ → List α → List α → List α × List α
  | 0,_,unseen => ([],unseen)
  | _+1,[],unseen => ([],unseen)
  | n+1,current::queue,unseen =>
      let rest := explore n (queue ++ unseen.filter (adj current))
        (unseen.filter fun peer => !adj current peer)
      (current::rest.1,rest.2)

def components : ℕ → List α → List (List α)
  | 0,_ => []
  | _+1,[] => []
  | n+1,start::unseen =>
      let found := explore adj (unseen.length+1) [start] unseen
      found.1::components n found.2

@[simp] theorem explore_zero (queue unseen : List α) : explore adj 0 queue unseen = ([],unseen) := rfl

@[simp] theorem explore_nil (n : ℕ) (unseen : List α) : explore adj (n+1) [] unseen = ([],unseen) := rfl

theorem explore_cons (n : ℕ) (current : α) (queue unseen : List α) :
    explore adj (n+1) (current::queue) unseen =
      (current::(explore adj n (queue ++ unseen.filter (adj current))
        (unseen.filter fun peer => !adj current peer)).1,
      (explore adj n (queue ++ unseen.filter (adj current))
        (unseen.filter fun peer => !adj current peer)).2) := rfl

@[simp] theorem components_zero (unseen : List α) : components adj 0 unseen = [] := rfl

@[simp] theorem components_nil (n : ℕ) : components adj (n+1) [] = [] := rfl

theorem components_cons (n : ℕ) (start : α) (unseen : List α) :
    components adj (n+1) (start::unseen) = (explore adj (unseen.length+1) [start] unseen).1::
      components adj n (explore adj (unseen.length+1) [start] unseen).2 := rfl

variable {adj}

private theorem filter_not_perm (p : α → Bool) (l : List α) :
    (l.filter p ++ l.filter fun a => !p a).Perm l :=
  List.filter_append_perm p l

/-- With enough fuel every queued or unseen element is either found or left unseen. -/
theorem explore_perm (n : ℕ) (queue unseen : List α) (hfuel : queue.length + unseen.length ≤ n) :
    ((explore adj n queue unseen).1 ++ (explore adj n queue unseen).2).Perm (queue ++ unseen) := by
  induction n generalizing queue unseen with
  | zero =>
    have hqueue : queue = [] := List.eq_nil_of_length_eq_zero (by omega)
    simp [hqueue]
  | succ n ih =>
    cases queue with
    | nil => simp
    | cons current queue =>
      have hlen := (filter_not_perm (adj current) unseen).length_eq
      rw [List.length_append] at hlen
      have hrest := ih (queue ++ unseen.filter (adj current))
        (unseen.filter fun peer => !adj current peer) (by
          simp only [List.length_cons,List.length_append] at hfuel ⊢
          omega)
      simp only [explore_cons,List.cons_append]
      apply List.Perm.cons
      rw [List.append_assoc] at hrest
      exact hrest.trans ((filter_not_perm (adj current) unseen).append_left queue)

theorem explore_snd_subset (n : ℕ) (queue unseen : List α) :
    ∀ y ∈ (explore adj n queue unseen).2, y ∈ unseen := by
  induction n generalizing queue unseen with
  | zero => simp
  | succ n ih =>
    cases queue with
    | nil => simp
    | cons current queue =>
      intro y hy
      exact (List.mem_filter.mp (ih _ _ y hy)).1

theorem explore_separated (n : ℕ) (queue unseen : List α) {x y : α}
    (hx : x ∈ (explore adj n queue unseen).1) (hy : y ∈ (explore adj n queue unseen).2) :
    adj x y = false := by
  induction n generalizing queue unseen with
  | zero => simp at hx
  | succ n ih =>
    cases queue with
    | nil => simp at hx
    | cons current queue =>
      simp only [explore_cons,List.mem_cons] at hx hy
      rcases hx with rfl | hx
      · have hleft := explore_snd_subset n _ _ y hy
        simpa using (List.mem_filter.mp hleft).2
      · exact ih _ _ hx hy

/-- Everything found is connected to the queue through unseen elements. -/
theorem explore_reaches {step : α → α → Prop} (n : ℕ) (queue unseen : List α)
    (hstep : ∀ x y, (x ∈ queue ∨ x ∈ unseen) → y ∈ unseen → adj x y = true → step x y)
    {x : α} (hx : x ∈ (explore adj n queue unseen).1) :
    ∃ start ∈ queue, Relation.ReflTransGen step start x := by
  induction n generalizing queue unseen with
  | zero => simp at hx
  | succ n ih =>
    cases queue with
    | nil => simp at hx
    | cons current queue =>
      simp only [explore_cons,List.mem_cons] at hx
      rcases hx with rfl | hx
      · exact ⟨x,List.mem_cons_self,.refl⟩
      · obtain ⟨start,hstart,hreach⟩ := ih _ _ (by
          intro a b ha hb hab
          refine hstep a b ?_ (List.mem_filter.mp hb).1 hab
          rcases ha with ha | ha
          · rcases List.mem_append.mp ha with ha | ha
            · exact .inl (List.mem_cons_of_mem _ ha)
            · exact .inr (List.mem_filter.mp ha).1
          · exact .inr (List.mem_filter.mp ha).1) hx
        rcases List.mem_append.mp hstart with hstart | hstart
        · exact ⟨start,List.mem_cons_of_mem _ hstart,hreach⟩
        · obtain ⟨hmem,hadj⟩ := List.mem_filter.mp hstart
          exact ⟨current,List.mem_cons_self,
            .head (hstep current start (.inl List.mem_cons_self) hmem hadj) hreach⟩

private theorem explore_snd_length (start : α) (unseen : List α) :
    (explore adj (unseen.length+1) [start] unseen).2.length ≤ unseen.length := by
  have hfound := (@explore_perm _ adj (unseen.length+1) [start] unseen
    (by simp only [List.length_singleton]; omega)).length_eq
  have hpos : 0 < (explore adj (unseen.length+1) [start] unseen).1.length := by simp [explore_cons]
  simp only [List.length_append,List.length_cons,List.length_nil] at hfound
  omega

theorem components_ne_nil (n : ℕ) (unseen : List α) {c : List α}
    (hc : c ∈ components adj n unseen) : c ≠ [] := by
  induction n generalizing unseen with
  | zero => simp at hc
  | succ n ih =>
    cases unseen with
    | nil => simp at hc
    | cons start unseen =>
      simp only [components_cons,List.mem_cons] at hc
      rcases hc with rfl | hc
      · simp [explore_cons]
      · exact ih _ hc

theorem components_flatten_perm (n : ℕ) (unseen : List α) (hfuel : unseen.length ≤ n) :
    (components adj n unseen).flatten.Perm unseen := by
  induction n generalizing unseen with
  | zero => simp [List.eq_nil_of_length_eq_zero (by omega : unseen.length = 0)]
  | succ n ih =>
    cases unseen with
    | nil => simp
    | cons start unseen =>
      have hfound : ((explore adj (unseen.length+1) [start] unseen).1 ++
          (explore adj (unseen.length+1) [start] unseen).2).Perm (start::unseen) :=
        explore_perm _ [start] unseen (by simp only [List.length_singleton]; omega)
      have hlen : (explore adj (unseen.length+1) [start] unseen).2.length ≤ n :=
        Nat.le_trans (explore_snd_length start unseen) (Nat.le_of_succ_le_succ hfuel)
      simp only [components_cons,List.flatten_cons]
      exact ((ih _ hlen).append_left _).trans hfound

/-- Different components of a symmetric relation are not adjacent. -/
theorem components_separated (hsymm : ∀ x y, adj x y = adj y x) (n : ℕ) (unseen : List α)
    (hfuel : unseen.length ≤ n) :
    (components adj n unseen).Pairwise fun c d => ∀ x ∈ c, ∀ y ∈ d, adj x y = false ∧
      adj y x = false := by
  induction n generalizing unseen with
  | zero => simp
  | succ n ih =>
    cases unseen with
    | nil => simp
    | cons start unseen =>
      have hlen : (explore adj (unseen.length+1) [start] unseen).2.length ≤ n :=
        Nat.le_trans (explore_snd_length start unseen) (Nat.le_of_succ_le_succ hfuel)
      simp only [components_cons,List.pairwise_cons]
      refine ⟨?_,ih _ hlen⟩
      intro d hd x hx y hy
      have hleft : y ∈ (explore adj (unseen.length+1) [start] unseen).2 :=
        (components_flatten_perm n _ hlen).subset (List.mem_flatten.mpr ⟨d,hd,hy⟩)
      have hxy := explore_separated _ _ _ hx hleft
      exact ⟨hxy,hsymm x y ▸ hxy⟩

def Linked (adj : α → α → Bool) (l : List α) (x y : α) : Prop := x ∈ l ∧ y ∈ l ∧ adj x y = true

theorem components_connected (n : ℕ) (unseen : List α) (hfuel : unseen.length ≤ n) {c : List α}
    (hc : c ∈ components adj n unseen) :
    ∃ start, ∀ x ∈ c, Relation.ReflTransGen (Linked adj unseen) start x := by
  induction n generalizing unseen with
  | zero => simp at hc
  | succ n ih =>
    cases unseen with
    | nil => simp at hc
    | cons start unseen =>
      simp only [components_cons,List.mem_cons] at hc
      rcases hc with rfl | hc
      · refine ⟨start,?_⟩
        intro x hx
        obtain ⟨first,hfirst,hreach⟩ := @explore_reaches _ adj (Linked adj (start::unseen)) _ _ _ (by
          intro a b ha hb hab
          refine ⟨?_,List.mem_cons_of_mem _ hb,hab⟩
          rcases ha with ha | ha
          · exact List.mem_singleton.mp ha ▸ List.mem_cons_self
          · exact List.mem_cons_of_mem _ ha) x hx
        rwa [List.mem_singleton.mp hfirst] at hreach
      · have hlen : (explore adj (unseen.length+1) [start] unseen).2.length ≤ n :=
          Nat.le_trans (explore_snd_length start unseen) (Nat.le_of_succ_le_succ hfuel)
        obtain ⟨first,hall⟩ := ih _ hlen hc
        refine ⟨first,?_⟩
        intro x hx
        refine Relation.ReflTransGen.mono ?_ _ _ (hall x hx)
        intro a b hab
        have hsub : ∀ y ∈ (explore adj (unseen.length+1) [start] unseen).2, y ∈ start::unseen :=
          fun y hy => List.mem_cons_of_mem _ (explore_snd_subset _ _ _ y hy)
        exact ⟨hsub a hab.1,hsub b hab.2.1,hab.2.2⟩

/-- The components of a symmetric relation are its connectivity classes. -/
theorem mem_component_iff (hsymm : ∀ x y, adj x y = adj y x) (n : ℕ) {unseen : List α}
    (hfuel : unseen.length ≤ n) {c : List α} (hc : c ∈ components adj n unseen) {x y : α}
    (hx : x ∈ c) : y ∈ c ↔ Relation.ReflTransGen (Linked adj unseen) x y := by
  have hlinked : ∀ a b, Linked adj unseen a b → Linked adj unseen b a := by
    intro a b hab
    exact ⟨hab.2.1,hab.1,hsymm a b ▸ hab.2.2⟩
  constructor
  · intro hy
    obtain ⟨start,hall⟩ := components_connected n unseen hfuel hc
    have hlink : Std.Symm (Linked adj unseen) := ⟨hlinked⟩
    have hback := (Relation.ReflTransGen.stdSymm (r := Linked adj unseen)).symm _ _ (hall x hx)
    exact hback.trans (hall y hy)
  · intro hreach
    induction hreach with
    | refl => exact hx
    | tail hprev hstep ih =>
      obtain ⟨-,hb,hadj⟩ := hstep
      obtain ⟨d,hd,hbd⟩ := List.mem_flatten.mp
        ((components_flatten_perm n unseen hfuel).mem_iff.mpr hb)
      by_cases hcd : c = d
      · exact hcd ▸ hbd
      · have hsep : Std.Symm fun c d : List α => ∀ x ∈ c, ∀ y ∈ d, adj x y = false ∧
            adj y x = false := ⟨fun _ _ h x hx y hy => (h y hy x hx).symm⟩
        have hfalse := (components_separated hsymm n unseen hfuel).forall hc hd hcd _ ih _ hbd
        simp [hfalse.1] at hadj

end Component
