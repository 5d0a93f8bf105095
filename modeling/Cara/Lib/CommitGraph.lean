import Mathlib.Data.List.Infix
import Mathlib.Data.List.Nodup
import Mathlib.Data.List.Perm.Subperm
import Mathlib.Data.Finset.Max

/-! Version history as a graph of commits: every commit names its parents and holds a tree, and
the commits are kept newest first, so that the parents of each one are further down the list.
History, ranges and merge bases are read off this list; a replay grows it. -/

structure Commit (K T : Type) where
  name : K
  parents : List K
  tree : T
deriving DecidableEq

/-- Commits whose names are new and whose parents came before. -/
inductive Commit.Closed {K T : Type} : List (Commit K T) → Prop
  | nil : Closed []
  | cons {c : Commit K T} {older : List (Commit K T)} :
      c.name ∉ older.map (·.name) → (∀ p ∈ c.parents,p ∈ older.map (·.name)) → Closed older →
        Closed (c::older)

structure CommitGraph (K T : Type) where
  commits : List (Commit K T)
  closed : Commit.Closed commits

namespace CommitGraph

variable {K T : Type}

def names (g : CommitGraph K T) : List K := g.commits.map (·.name)

def Extends (g g' : CommitGraph K T) : Prop := List.IsSuffix g.commits g'.commits

theorem Extends.refl (g : CommitGraph K T) : g.Extends g := List.suffix_refl _

theorem Extends.trans {g g' g'' : CommitGraph K T} (h : g.Extends g') (h' : g'.Extends g'') :
    g.Extends g'' := List.IsSuffix.trans h h'

theorem Extends.names {g g' : CommitGraph K T} (h : g.Extends g') {k : K} (hk : k ∈ g.names) :
    k ∈ g'.names := (List.IsSuffix.map (·.name) h).subset hk

def add (g : CommitGraph K T) (c : Commit K T) (hfresh : c.name ∉ g.names)
    (hparents : ∀ p ∈ c.parents,p ∈ g.names) : CommitGraph K T :=
  ⟨c::g.commits,.cons hfresh hparents g.closed⟩

instance [DecidableEq K] [DecidableEq T] (g g' : CommitGraph K T) : Decidable (g.Extends g') :=
  inferInstanceAs (Decidable (List.IsSuffix g.commits g'.commits))

theorem nodup_of_closed {l : List (Commit K T)} (h : Commit.Closed l) : (l.map (·.name)).Nodup := by
  induction h with
  | nil => exact List.nodup_nil
  | cons hfresh _ _ ih => exact List.nodup_cons.mpr ⟨hfresh,ih⟩

theorem nodup_names (g : CommitGraph K T) : g.names.Nodup := nodup_of_closed g.closed

variable [DecidableEq K]

def historyIn : List (Commit K T) → K → List K
  | [],_ => []
  | c::older,k => if c.name = k then k::c.parents.flatMap (historyIn older) else historyIn older k

def history (g : CommitGraph K T) (k : K) : List K := historyIn g.commits k

theorem historyIn_cons (c : Commit K T) (older : List (Commit K T)) (k : K) : historyIn (c::older) k =
    if c.name = k then k::c.parents.flatMap (historyIn older) else historyIn older k := rfl

theorem mem_of_historyIn {l : List (Commit K T)} {x y : K} (h : y ∈ historyIn l x) :
    y ∈ l.map (·.name) ∧ x ∈ l.map (·.name) := by
  induction l generalizing x with
  | nil => cases h
  | cons c older ih =>
    rw [historyIn_cons] at h
    split_ifs at h with hc
    · have hx : x ∈ (c::older).map (·.name) := hc ▸ List.mem_cons_self
      rcases List.mem_cons.mp h with rfl | h
      · exact ⟨hx,hx⟩
      · obtain ⟨p,_,h⟩ := List.mem_flatMap.mp h
        exact ⟨List.mem_cons_of_mem _ (ih h).1,hx⟩
    · exact ⟨List.mem_cons_of_mem _ (ih h).1,List.mem_cons_of_mem _ (ih h).2⟩

theorem historyIn_self {l : List (Commit K T)} {x : K} (h : x ∈ l.map (·.name)) :
    x ∈ historyIn l x := by
  induction l with
  | nil => cases h
  | cons c older ih =>
    rw [historyIn_cons]
    split_ifs with hc
    · exact List.mem_cons_self
    · rcases List.mem_cons.mp h with rfl | h
      · exact absurd rfl hc
      · exact ih h

theorem historyIn_append {new l : List (Commit K T)} (h : Commit.Closed (new ++ l)) {x : K}
    (hx : x ∈ l.map (·.name)) : historyIn (new ++ l) x = historyIn l x := by
  induction new with
  | nil => rfl
  | cons c new ih =>
    cases h with
    | cons hfresh _ hclosed =>
      have hne : c.name ≠ x := by
        rintro rfl
        exact hfresh (by simpa using .inr (List.mem_map.mp hx))
      show (if c.name = x then _ else historyIn (new ++ l) x) = _
      rw [if_neg hne]
      exact ih hclosed

theorem historyIn_older {c : Commit K T} {older : List (Commit K T)} (h : Commit.Closed (c::older))
    {x : K} (hx : x ∈ older.map (·.name)) : historyIn (c::older) x = historyIn older x := by
  have happend : Commit.Closed ([c] ++ older) := h
  exact historyIn_append happend hx

theorem historyIn_trans {l : List (Commit K T)} (hl : Commit.Closed l) {x y z : K}
    (hy : y ∈ historyIn l x) (hz : z ∈ historyIn l y) : z ∈ historyIn l x := by
  induction hl generalizing x y with
  | nil => cases hy
  | @cons c older hfresh hparents hclosed ih =>
    have hframe : ∀ {w},w ∈ older.map (·.name) → historyIn (c::older) w = historyIn older w :=
      fun hw => historyIn_older (.cons hfresh hparents hclosed) hw
    by_cases hc : c.name = x
    · have hx : historyIn (c::older) x = x::c.parents.flatMap (historyIn older) := if_pos hc
      rw [hx] at hy ⊢
      rcases List.mem_cons.mp hy with rfl | hy
      · rwa [hx] at hz
      · obtain ⟨p,hp,hy⟩ := List.mem_flatMap.mp hy
        rw [hframe (mem_of_historyIn hy).1] at hz
        exact List.mem_cons_of_mem _ (List.mem_flatMap.mpr ⟨p,hp,ih hy hz⟩)
    · have hx : historyIn (c::older) x = historyIn older x := if_neg hc
      rw [hx] at hy ⊢
      rw [hframe (mem_of_historyIn hy).1] at hz
      exact ih hy hz

theorem historyIn_antisymm {l : List (Commit K T)} (hl : Commit.Closed l) {x y : K}
    (hy : y ∈ historyIn l x) (hx : x ∈ historyIn l y) : x = y := by
  induction hl with
  | nil => cases hy
  | @cons c older hfresh hparents hclosed ih =>
    rw [historyIn_cons] at hx hy
    split_ifs at hx hy with hcy hcx hcx
    · exact hcx.symm.trans hcy
    · exact absurd (hcy ▸ (mem_of_historyIn hy).1) hfresh
    · exact absurd (hcx ▸ (mem_of_historyIn hx).1) hfresh
    · exact ih hy hx

section History

variable {g g' : CommitGraph K T} {x y z : K}

theorem history_names (h : y ∈ g.history x) : y ∈ g.names := (mem_of_historyIn h).1

theorem names_of_history (h : y ∈ g.history x) : x ∈ g.names := (mem_of_historyIn h).2

theorem history_self (h : x ∈ g.names) : x ∈ g.history x := historyIn_self h

theorem history_trans (hy : y ∈ g.history x) (hz : z ∈ g.history y) : z ∈ g.history x :=
  historyIn_trans g.closed hy hz

theorem history_antisymm (hy : y ∈ g.history x) (hx : x ∈ g.history y) : x = y :=
  historyIn_antisymm g.closed hy hx

theorem Extends.history (h : g.Extends g') (hx : x ∈ g.names) : g'.history x = g.history x := by
  obtain ⟨new,hnew⟩ := h
  have hclosed : Commit.Closed (new ++ g.commits) := hnew ▸ g'.closed
  show historyIn g'.commits x = _
  rw [← hnew]
  exact historyIn_append hclosed hx

/-- A new commit's history is itself and the histories of its parents. -/
theorem mem_history_add {c : Commit K T} (hfresh : c.name ∉ g.names)
    (hparents : ∀ p ∈ c.parents,p ∈ g.names) :
    y ∈ (g.add c hfresh hparents).history c.name ↔ y = c.name ∨ ∃ p ∈ c.parents,y ∈ g.history p := by
  show y ∈ (if c.name = c.name then _ else _) ↔ _
  rw [if_pos rfl,List.mem_cons,List.mem_flatMap]
  rfl

end History

def commit? (g : CommitGraph K T) (k : K) : Option (Commit K T) :=
  g.commits.find? fun c => decide (c.name = k)

def treeOf (g : CommitGraph K T) (k : K) : Option T := (g.commit? k).map (·.tree)

def parentTree (g : CommitGraph K T) (c : Commit K T) : Option T := c.parents.head?.bind g.treeOf

section Lookup

variable {g g' : CommitGraph K T} {k : K} {c : Commit K T}

theorem commit?_eq_some : g.commit? k = some c ↔ c ∈ g.commits ∧ c.name = k := by
  constructor
  · intro h
    exact ⟨List.mem_of_find?_eq_some h,by simpa using List.find?_some h⟩
  · intro h
    obtain ⟨hc,rfl⟩ := h
    unfold commit?
    cases hfind : g.commits.find? fun c' => decide (c'.name = c.name) with
    | none =>
      have hne := List.find?_eq_none.mp hfind c hc
      simp at hne
    | some c' =>
      have hname : c'.name = c.name := by simpa using List.find?_some hfind
      rw [List.inj_on_of_nodup_map g.nodup_names (List.mem_of_find?_eq_some hfind) hc hname]

theorem commit?_of_names (h : k ∈ g.names) : ∃ c,g.commit? k = some c := by
  obtain ⟨c,hc,hname⟩ := List.mem_map.mp h
  exact ⟨c,commit?_eq_some.mpr ⟨hc,hname⟩⟩

theorem Extends.commit? (h : g.Extends g') (hk : k ∈ g.names) : g'.commit? k = g.commit? k := by
  obtain ⟨c,hc⟩ := commit?_of_names hk
  obtain ⟨hmem,hname⟩ := commit?_eq_some.mp hc
  rw [hc]
  exact commit?_eq_some.mpr ⟨h.subset hmem,hname⟩

theorem Extends.treeOf (h : g.Extends g') (hk : k ∈ g.names) : g'.treeOf k = g.treeOf k := by
  unfold CommitGraph.treeOf
  rw [h.commit? hk]

theorem treeOf_names {t : T} (h : g.treeOf k = some t) : k ∈ g.names := by
  obtain ⟨c,hc,_⟩ := Option.map_eq_some_iff.mp h
  obtain ⟨hmem,rfl⟩ := commit?_eq_some.mp hc
  exact List.mem_map_of_mem hmem

theorem treeOf_of_names (h : k ∈ g.names) : ∃ t,g.treeOf k = some t := by
  obtain ⟨c,hc⟩ := commit?_of_names h
  exact ⟨c.tree,by rw [CommitGraph.treeOf,hc]; rfl⟩

theorem parents_of_closed {l : List (Commit K T)} (hl : Commit.Closed l) (hc : c ∈ l) :
    (∀ p ∈ c.parents,p ∈ l.map (·.name)) ∧
      ∀ y,y ∈ historyIn l c.name ↔ y = c.name ∨ ∃ p ∈ c.parents,y ∈ historyIn l p := by
  induction hl with
  | nil => cases hc
  | @cons c' older hfresh hparents hclosed ih =>
    have hframe : ∀ {w},w ∈ older.map (·.name) → historyIn (c'::older) w = historyIn older w :=
      fun hw => historyIn_older (.cons hfresh hparents hclosed) hw
    rcases List.mem_cons.mp hc with rfl | hc
    · refine ⟨fun p hp => List.mem_cons_of_mem _ (hparents p hp),fun y => ?_⟩
      show y ∈ (if c.name = c.name then _ else _) ↔ _
      rw [if_pos rfl,List.mem_cons,List.mem_flatMap]
      refine or_congr Iff.rfl (exists_congr fun p => and_congr_right fun hp => ?_)
      rw [hframe (hparents p hp)]
    · obtain ⟨hin,hhist⟩ := ih hc
      refine ⟨fun p hp => List.mem_cons_of_mem _ (hin p hp),fun y => ?_⟩
      rw [hframe (List.mem_map_of_mem hc),hhist]
      refine or_congr Iff.rfl (exists_congr fun p => and_congr_right fun hp => ?_)
      rw [hframe (hin p hp)]

theorem parents_names (hc : c ∈ g.commits) {p : K} (hp : p ∈ c.parents) : p ∈ g.names :=
  (parents_of_closed g.closed hc).1 p hp

theorem mem_history (hc : c ∈ g.commits) {y : K} :
    y ∈ g.history c.name ↔ y = c.name ∨ ∃ p ∈ c.parents,y ∈ g.history p :=
  (parents_of_closed g.closed hc).2 y

theorem Extends.parentTree (h : g.Extends g') (hc : c ∈ g.commits) :
    g'.parentTree c = g.parentTree c := by
  unfold CommitGraph.parentTree
  cases hp : c.parents.head? with
  | none => rfl
  | some p => exact h.treeOf (parents_names hc (List.mem_of_mem_head? hp))

omit [DecidableEq K] in
theorem induct {P : K → Prop} (g : CommitGraph K T)
    (h : ∀ c ∈ g.commits,(∀ p ∈ c.parents,P p) → P c.name) : ∀ k ∈ g.names,P k := by
  obtain ⟨l,hl⟩ := g
  show ∀ k ∈ l.map (·.name),P k
  induction hl with
  | nil =>
    intro k hk
    cases hk
  | @cons c older hfresh hparents hclosed ih =>
    have holder := ih fun c' hc' => h c' (List.mem_cons_of_mem _ hc')
    intro k hk
    rcases List.mem_cons.mp hk with rfl | hk
    · exact h c List.mem_cons_self fun p hp => holder p (hparents p hp)
    · exact holder k hk

end Lookup

/-- The commits made from `head` back to the boundaries, oldest first. -/
def range (g : CommitGraph K T) (boundaries : List K) (head : K) : List (Commit K T) :=
  g.commits.reverse.filter fun c =>
    decide (c.name ∈ g.history head) && boundaries.all fun b => decide (c.name ∉ g.history b)

section Range

variable {g g' : CommitGraph K T} {boundaries boundaries' : List K} {head head' : K} {c : Commit K T}

theorem mem_range : c ∈ g.range boundaries head ↔
    c ∈ g.commits ∧ c.name ∈ g.history head ∧ ∀ b ∈ boundaries,c.name ∉ g.history b := by
  simp [range]

theorem nodup_range : ((g.range boundaries head).map (·.name)).Nodup := by
  have hsub : ((g.range boundaries head).map (·.name)).Sublist (g.commits.reverse.map (·.name)) :=
    List.filter_sublist.map _
  refine hsub.nodup ?_
  rw [List.map_reverse,List.nodup_reverse]
  exact g.nodup_names

theorem range_eq_iff : g.range boundaries head = g.range boundaries' head' ↔
    ∀ k,(k ∈ g.history head ∧ ∀ b ∈ boundaries,k ∉ g.history b) ↔
      (k ∈ g.history head' ∧ ∀ b ∈ boundaries',k ∉ g.history b) := by
  constructor
  · intro h k
    constructor
    · intro hk
      obtain ⟨c,hc,rfl⟩ := List.mem_map.mp (history_names hk.1)
      exact (mem_range.mp (h ▸ mem_range.mpr ⟨hc,hk⟩)).2
    · intro hk
      obtain ⟨c,hc,rfl⟩ := List.mem_map.mp (history_names hk.1)
      exact (mem_range.mp (h.symm ▸ mem_range.mpr ⟨hc,hk⟩)).2
  · intro h
    refine List.filter_congr fun c _ => ?_
    have hc := h c.name
    rw [Bool.eq_iff_iff]
    simpa using hc

theorem range_sublist (h : ∀ k,(k ∈ g.history head ∧ ∀ b ∈ boundaries,k ∉ g.history b) →
      (k ∈ g.history head' ∧ ∀ b ∈ boundaries',k ∉ g.history b)) :
    (g.range boundaries head).Sublist (g.range boundaries' head') := by
  refine List.monotone_filter_right _ fun c hc => ?_
  have hc' := h c.name (by simpa using hc)
  simpa using hc'

/-- A range between commits that existed is the same however much was recorded since. -/
theorem Extends.range (h : g.Extends g') (hhead : head ∈ g.names) (hb : ∀ b ∈ boundaries,b ∈ g.names) :
    g'.range boundaries head = g.range boundaries head := by
  obtain ⟨new,hnew⟩ := id h
  have hin : ∀ k,(k ∈ g'.history head ∧ ∀ b ∈ boundaries,k ∉ g'.history b) ↔
      (k ∈ g.history head ∧ ∀ b ∈ boundaries,k ∉ g.history b) := by
    intro k
    rw [h.history hhead]
    refine and_congr Iff.rfl (forall₂_congr fun b hmem => ?_)
    rw [h.history (hb b hmem)]
  unfold CommitGraph.range
  rw [← hnew,List.reverse_append,List.filter_append]
  have hold : new.reverse.filter (fun c => decide (c.name ∈ g'.history head) &&
      boundaries.all fun b => decide (c.name ∉ g'.history b)) = [] := by
    refine List.filter_eq_nil_iff.mpr fun c hc hkeep => ?_
    have hk : c.name ∈ g.names := by
      refine history_names ((hin c.name).mp ?_).1
      simpa using hkeep
    have hnodup : (new.map (·.name) ++ g.names).Nodup := by
      have h := g'.nodup_names
      rwa [CommitGraph.names,← hnew,List.map_append] at h
    exact List.disjoint_of_nodup_append hnodup (List.mem_map_of_mem (List.mem_reverse.mp hc)) hk
  rw [hold,List.append_nil]
  refine List.filter_congr fun c _ => ?_
  have hc := hin c.name
  rw [Bool.eq_iff_iff]
  simpa using hc

end Range

/-- The common ancestors that no other common ancestor contains. -/
def mergeBases (g : CommitGraph K T) (a b : K) : List K :=
  g.names.filter fun k => decide (k ∈ g.history a ∧ k ∈ g.history b) &&
    g.names.all fun m => decide (m ∈ g.history a → m ∈ g.history b → k ∈ g.history m → m = k)

section MergeBases

variable {g g' : CommitGraph K T} {a a' b b' k : K}

theorem mem_mergeBases : k ∈ g.mergeBases a b ↔ k ∈ g.history a ∧ k ∈ g.history b ∧
    ∀ m ∈ g.history a,m ∈ g.history b → k ∈ g.history m → m = k := by
  simp only [mergeBases,List.mem_filter,Bool.and_eq_true,decide_eq_true_eq,List.all_eq_true]
  constructor
  · intro h
    exact ⟨h.2.1.1,h.2.1.2,fun m ha => h.2.2 m (history_names ha) ha⟩
  · intro h
    exact ⟨history_names h.1,⟨h.1,h.2.1⟩,fun m _ ha => h.2.2 m ha⟩

theorem nodup_mergeBases : (g.mergeBases a b).Nodup := g.nodup_names.filter _

/-- Merge bases depend only on what the two commits have in common. -/
theorem mergeBases_congr (h : ∀ k,(k ∈ g.history a ∧ k ∈ g.history b) ↔
    (k ∈ g.history a' ∧ k ∈ g.history b')) : g.mergeBases a b = g.mergeBases a' b' := by
  refine List.filter_congr fun k _ => ?_
  rw [Bool.eq_iff_iff]
  simp only [Bool.and_eq_true,decide_eq_true_eq,List.all_eq_true]
  refine and_congr (h k) (forall₂_congr fun m _ => ?_)
  rw [← and_imp,h m,and_imp]

theorem mergeBases_eq (hk : k ∈ g.names)
    (h : ∀ x,(x ∈ g.history a ∧ x ∈ g.history b) ↔ x ∈ g.history k) : g.mergeBases a b = [k] := by
  have hself := (h k).mpr (history_self hk)
  refine List.perm_singleton.mp ((List.perm_ext_iff_of_nodup nodup_mergeBases
    (List.nodup_singleton k)).mpr fun x => ?_)
  rw [mem_mergeBases,List.mem_singleton]
  constructor
  · intro hx
    exact (hx.2.2 k hself.1 hself.2 ((h x).mp ⟨hx.1,hx.2.1⟩)).symm
  · rintro rfl
    exact ⟨hself.1,hself.2,fun m ha hb hx => history_antisymm hx ((h m).mp ⟨ha,hb⟩)⟩

theorem mergeBases_of_ancestor (h : a ∈ g.history b) : g.mergeBases a b = [a] :=
  mergeBases_eq (history_names h) fun _ => ⟨And.left,fun hx => ⟨hx,history_trans h hx⟩⟩

/-- A single merge base contains all that the two commits share. -/
theorem mem_of_mergeBases_eq {m : K} (h : g.mergeBases a b = [m]) {x : K} (ha : x ∈ g.history a)
    (hb : x ∈ g.history b) : x ∈ g.history m := by
  let above := g.names.toFinset.filter fun y => y ∈ g.history a ∧ y ∈ g.history b ∧ x ∈ g.history y
  have habove : ∀ {y},y ∈ above ↔ y ∈ g.history a ∧ y ∈ g.history b ∧ x ∈ g.history y := by
    intro y
    simp only [above,Finset.mem_filter,List.mem_toFinset]
    exact ⟨And.right,fun hy => ⟨history_names hy.1,hy⟩⟩
  have hself : x ∈ above := habove.mpr ⟨ha,hb,history_self (history_names ha)⟩
  -- the largest history above it belongs to a merge base
  obtain ⟨y,hy,hlargest⟩ := above.exists_max_image (fun y => (g.history y).toFinset.card) ⟨x,hself⟩
  obtain ⟨hya,hyb,hxy⟩ := habove.mp hy
  have hbase : y ∈ g.mergeBases a b := by
    refine mem_mergeBases.mpr ⟨hya,hyb,fun n hna hnb hyn => ?_⟩
    by_contra hne
    have hle := hlargest n (habove.mpr ⟨hna,hnb,history_trans hyn hxy⟩)
    have hlt : (g.history y).toFinset.card < (g.history n).toFinset.card := by
      refine Finset.card_lt_card ⟨fun z hz => ?_,fun hback => ?_⟩
      · rw [List.mem_toFinset] at hz ⊢
        exact history_trans hyn hz
      · have hn : n ∈ (g.history y).toFinset :=
          hback (List.mem_toFinset.mpr (history_self (history_names hna)))
        exact hne (history_antisymm (List.mem_toFinset.mp hn) hyn).symm
    omega
  rw [h,List.mem_singleton] at hbase
  exact hbase ▸ hxy

theorem Extends.mergeBases (h : g.Extends g') (ha : a ∈ g.names) (hb : b ∈ g.names) :
    (g'.mergeBases a b).Perm (g.mergeBases a b) := by
  refine (List.perm_ext_iff_of_nodup nodup_mergeBases nodup_mergeBases).mpr fun k => ?_
  rw [mem_mergeBases,mem_mergeBases,h.history ha,h.history hb]
  refine and_congr Iff.rfl (and_congr Iff.rfl (forall₃_congr fun m hma _ => ?_))
  rw [h.history (history_names hma)]

/-- A line of commits that leaves a history leaves it in one place. -/
theorem exists_mergeBase (ha : a ∈ g.names)
    (hline : ∀ c ∈ g.commits,c.name ∈ g.history a → c.name ∉ g.history b → c.parents.length ≤ 1)
    (hmeet : ∃ m ∈ g.history a,m ∈ g.history b) :
    ∃ k ∈ g.names,∀ x,(x ∈ g.history a ∧ x ∈ g.history b) ↔ x ∈ g.history k := by
  revert hline hmeet
  refine g.induct (P := fun a => (∀ c ∈ g.commits,c.name ∈ g.history a → c.name ∉ g.history b →
    c.parents.length ≤ 1) → (∃ m ∈ g.history a,m ∈ g.history b) →
    ∃ k ∈ g.names,∀ x,(x ∈ g.history a ∧ x ∈ g.history b) ↔ x ∈ g.history k) ?_ a ha
  intro c hc ih hline hmeet
  have hself : c.name ∈ g.history c.name := history_self (List.mem_map_of_mem hc)
  by_cases hin : c.name ∈ g.history b
  · exact ⟨c.name,List.mem_map_of_mem hc,fun x => ⟨And.left,fun hx => ⟨hx,history_trans hin hx⟩⟩⟩
  have hout : ∀ x,x ∈ g.history b → (x ∈ g.history c.name ↔ ∃ p ∈ c.parents,x ∈ g.history p) := by
    intro x hx
    rw [mem_history hc]
    refine or_iff_right ?_
    rintro rfl
    exact hin hx
  match hparents : c.parents with
  | [] =>
    obtain ⟨m,hma,hmb⟩ := hmeet
    obtain ⟨p,hp,_⟩ := (hout m hmb).mp hma
    rw [hparents] at hp
    cases hp
  | [p] =>
    have hmem : p ∈ c.parents := hparents ▸ List.mem_cons_self
    have hsame : ∀ x,(x ∈ g.history c.name ∧ x ∈ g.history b) ↔ (x ∈ g.history p ∧ x ∈ g.history b) := by
      intro x
      refine and_congr_left fun hx => ?_
      rw [hout x hx,hparents]
      simp
    have hbelow : ∀ x ∈ g.history p,x ∈ g.history c.name := fun x hx =>
      (mem_history hc).mpr (.inr ⟨p,hmem,hx⟩)
    obtain ⟨m,hma,hmb⟩ := hmeet
    obtain ⟨k,hk,hcommon⟩ := ih p hmem
      (fun c' hc' hin' => hline c' hc' (hbelow _ hin')) ⟨m,(hsame m).mp ⟨hma,hmb⟩⟩
    exact ⟨k,hk,fun x => (hsame x).trans (hcommon x)⟩
  | _::_::_ =>
    have h := hline c hc hself hin
    rw [hparents] at h
    exact absurd h (by simp)

end MergeBases

structure Naming (K : Type) where
  mint : List K → K
  room : ℕ
  fresh : ∀ taken : List K,taken.length < room → mint taken ∉ taken

section Supply

variable {available : List K} {taken : List K}

theorem exists_free (hnodup : available.Nodup) (h : taken.length < available.length) :
    ∃ k ∈ available,k ∉ taken := by
  by_contra hall
  push Not at hall
  have hle := (hnodup.subperm hall).length_le
  omega

def Naming.first [Inhabited K] (available : List K) (hnodup : available.Nodup) : Naming K where
  mint taken := (available.find? fun k => decide (k ∉ taken)).getD default
  room := available.length
  fresh taken h := by
    obtain ⟨k,hk,hfree⟩ := exists_free hnodup h
    cases hfind : available.find? fun k => decide (k ∉ taken) with
    | none =>
      have hnone := List.find?_eq_none.mp hfind k hk
      simp [hfree] at hnone
    | some k' => simpa using List.find?_some hfind

theorem Naming.first_mem [Inhabited K] {hnodup : available.Nodup} (h : taken.length < available.length) :
    (Naming.first available hnodup).mint taken ∈ available := by
  obtain ⟨k,hk,hfree⟩ := exists_free hnodup h
  show (available.find? fun k => decide (k ∉ taken)).getD default ∈ available
  cases hfind : available.find? fun k => decide (k ∉ taken) with
  | none =>
    have hnone := List.find?_eq_none.mp hfind k hk
    simp [hfree] at hnone
  | some k' => exact List.mem_of_find?_eq_some hfind

end Supply

end CommitGraph

structure Checkout (K T : Type) [DecidableEq K] where
  graph : CommitGraph K T
  head : K
  tree : T
  holds : graph.treeOf head = some tree

namespace Checkout

variable {K T : Type} [DecidableEq K] (N : CommitGraph.Naming K) (pick : Option T → T → T → Option T)

def of? (g : CommitGraph K T) (k : K) : Option (Checkout K T) :=
  match h : g.treeOf k with
  | some t => some ⟨g,k,t,h⟩
  | none => none

theorem of?_eq_some {g : CommitGraph K T} {k : K} {s : Checkout K T} (h : of? g k = some s) :
    s.graph = g ∧ s.head = k := by
  unfold of? at h
  split at h
  · cases h
    exact ⟨rfl,rfl⟩
  · cases h

theorem of?_of_names {g : CommitGraph K T} {k : K} (h : k ∈ g.names) : ∃ s,of? g k = some s := by
  obtain ⟨t,ht⟩ := CommitGraph.treeOf_of_names h
  unfold of?
  split
  · exact ⟨_,rfl⟩
  · rename_i hnone
    rw [ht] at hnone
    cases hnone

theorem head_names (s : Checkout K T) : s.head ∈ s.graph.names := CommitGraph.treeOf_names s.holds

theorem parents_names (s : Checkout K T) : ∀ p ∈ [s.head],p ∈ s.graph.names := by
  intro p hp
  rw [List.mem_singleton.mp hp]
  exact s.head_names

/-- A new commit on top of the present one, unless its name is taken. -/
def commit? (s : Checkout K T) (tree : T) : Option (Checkout K T) :=
  if hfresh : N.mint s.graph.names ∉ s.graph.names then
    some {
      graph := s.graph.add ⟨N.mint s.graph.names,[s.head],tree⟩ hfresh s.parents_names
      head := N.mint s.graph.names
      tree := tree
      holds := by simp [CommitGraph.treeOf,CommitGraph.commit?,CommitGraph.add] }
  else none

/-- Each change is picked onto the present tree and recorded; a conflict ends the replay. A change
is the tree that it was made on and the tree that it made. -/
def replay (s : Checkout K T) : List (Option T × T) → Option (Checkout K T)
  | [] => some s
  | (base,tree)::changes =>
      (pick base s.tree tree).bind fun picked =>
        (s.commit? N picked).bind fun committed => replay committed changes

def picked (tree : T) : List (Option T × T) → Option T
  | [] => some tree
  | (base,changed)::changes => (pick base tree changed).bind fun tree => picked tree changes

/-- What a replay recorded: a line of new commits on top of the old head. -/
structure Grown (s s' : Checkout K T) (new : List (Commit K T)) : Prop where
  commits : s'.graph.commits = new ++ s.graph.commits
  history : ∀ k,k ∈ s'.graph.history s'.head ↔ k ∈ new.map (·.name) ∨ k ∈ s.graph.history s.head
  parents : ∀ c ∈ new,c.parents.length = 1
  minted : ∀ c ∈ new,∃ taken : List K,taken.length < s'.graph.names.length ∧ N.mint taken = c.name
  head : (new = [] ∧ s'.head = s.head) ∨ s'.head ∈ new.map (·.name)

variable {N pick} {s s' : Checkout K T} {changes : List (Option T × T)}

theorem commit?_grown {tree : T} (h : s.commit? N tree = some s') :
    s'.tree = tree ∧ Grown N s s' [⟨N.mint s.graph.names,[s.head],tree⟩] := by
  unfold commit? at h
  split_ifs at h with hfresh
  cases h
  refine ⟨rfl,rfl,fun k => ?_,?_,?_,.inr List.mem_cons_self⟩
  · refine (CommitGraph.mem_history_add hfresh s.parents_names).trans ?_
    simp
  · intro c hc
    rw [List.mem_singleton.mp hc]
    rfl
  · intro c hc
    rw [List.mem_singleton.mp hc]
    exact ⟨s.graph.names,by simp [CommitGraph.add,CommitGraph.names],rfl⟩

theorem commit?_of_room (tree : T) (hroom : s.graph.names.length < N.room) :
    ∃ s',s.commit? N tree = some s' := by
  unfold commit?
  rw [dif_pos (N.fresh _ hroom)]
  exact ⟨_,rfl⟩

theorem Grown.refl (s : Checkout K T) : Grown N s s [] where
  commits := rfl
  history k := by simp
  parents c hc := nomatch hc
  minted c hc := nomatch hc
  head := .inl ⟨rfl,rfl⟩

theorem Grown.length {new : List (Commit K T)} (h : Grown N s s' new) :
    s'.graph.names.length = new.length + s.graph.names.length := by
  simp [CommitGraph.names,h.commits]

theorem Grown.trans {s'' : Checkout K T} {new newer : List (Commit K T)} (h : Grown N s s' new)
    (h' : Grown N s' s'' newer) : Grown N s s'' (newer ++ new) where
  commits := by rw [h'.commits,h.commits,List.append_assoc]
  history k := by
    rw [h'.history,h.history,List.map_append,List.mem_append,or_assoc]
  parents c hc := by
    rcases List.mem_append.mp hc with hc | hc
    · exact h'.parents c hc
    · exact h.parents c hc
  minted c hc := by
    rcases List.mem_append.mp hc with hc | hc
    · exact h'.minted c hc
    · obtain ⟨taken,hlength,hname⟩ := h.minted c hc
      have hgrown := h'.length
      exact ⟨taken,by omega,hname⟩
  head := by
    rw [List.map_append]
    rcases h'.head with ⟨rfl,hhead⟩ | hhead
    · rcases h.head with ⟨rfl,hhead'⟩ | hhead'
      · exact .inl ⟨rfl,hhead.trans hhead'⟩
      · exact .inr (List.mem_append_right _ (hhead ▸ hhead'))
    · exact .inr (List.mem_append_left _ hhead)

/-- A replay that goes through records one commit for each change. -/
theorem replay_grown (h : s.replay N pick changes = some s') :
    picked pick s.tree changes = some s'.tree ∧
      ∃ new,Grown N s s' new ∧ new.length = changes.length := by
  induction changes generalizing s with
  | nil =>
    cases h
    exact ⟨rfl,[],.refl _,rfl⟩
  | cons change changes ih =>
    obtain ⟨base,tree⟩ := change
    obtain ⟨t,hpick,h⟩ := Option.bind_eq_some_iff.mp h
    obtain ⟨committed,hcommit,h⟩ := Option.bind_eq_some_iff.mp h
    obtain ⟨htree,hgrown⟩ := commit?_grown hcommit
    obtain ⟨hpicked,new,hnew,hlength⟩ := ih h
    refine ⟨?_,_,hgrown.trans hnew,by simp [hlength]⟩
    show (pick base s.tree tree).bind _ = _
    rw [hpick,← htree]
    exact hpicked

/-- Where there is room for the commits, only the trees decide whether a replay goes through. -/
theorem replay_of_picked {t : T} (hroom : s.graph.names.length + changes.length ≤ N.room)
    (h : picked pick s.tree changes = some t) : ∃ s',s.replay N pick changes = some s' ∧ s'.tree = t := by
  induction changes generalizing s with
  | nil =>
    cases h
    exact ⟨s,rfl,rfl⟩
  | cons change changes ih =>
    obtain ⟨base,tree⟩ := change
    obtain ⟨tree',hpick,h⟩ := Option.bind_eq_some_iff.mp h
    rw [List.length_cons] at hroom
    obtain ⟨committed,hcommit⟩ := commit?_of_room (N := N) tree' (show s.graph.names.length < N.room by omega)
    obtain ⟨htree,hgrown⟩ := commit?_grown hcommit
    have hlength := hgrown.length
    rw [List.length_singleton] at hlength
    obtain ⟨s',hs',ht⟩ := ih (s := committed) (by omega) (htree ▸ h)
    refine ⟨s',?_,ht⟩
    show (pick base s.tree tree).bind _ = _
    rw [hpick]
    show (s.commit? N tree').bind _ = _
    rw [hcommit]
    exact hs'

namespace Grown

variable {new : List (Commit K T)}

theorem extends_graph (h : Grown N s s' new) : s.graph.Extends s'.graph := ⟨new,h.commits.symm⟩

theorem fresh (h : Grown N s s' new) {k : K} (hk : k ∈ new.map (·.name)) : k ∉ s.graph.names := by
  have hnodup : (new.map (·.name) ++ s.graph.names).Nodup := by
    have hall := s'.graph.nodup_names
    rwa [CommitGraph.names,h.commits,List.map_append] at hall
  exact List.disjoint_of_nodup_append hnodup hk

/-- The new commits are what lies between the old head and the new one. -/
theorem range (h : Grown N s s' new) : s'.graph.range [s.head] s'.head = new.reverse := by
  have hold : s'.graph.history s.head = s.graph.history s.head := h.extends_graph.history s.head_names
  unfold CommitGraph.range
  rw [h.commits,List.reverse_append,List.filter_append]
  have hnone : s.graph.commits.reverse.filter (fun c => decide (c.name ∈ s'.graph.history s'.head) &&
      [s.head].all fun b => decide (c.name ∉ s'.graph.history b)) = [] := by
    refine List.filter_eq_nil_iff.mpr fun c hc hkeep => ?_
    have hkept : c.name ∈ s'.graph.history s'.head ∧ c.name ∉ s.graph.history s.head := by
      rw [← hold]
      simpa using hkeep
    rcases (h.history _).mp hkept.1 with hnew | hin
    · exact h.fresh hnew (List.mem_map_of_mem (List.mem_reverse.mp hc))
    · exact hkept.2 hin
  have hall : new.reverse.filter (fun c => decide (c.name ∈ s'.graph.history s'.head) &&
      [s.head].all fun b => decide (c.name ∉ s'.graph.history b)) = new.reverse := by
    refine List.filter_eq_self.mpr fun c hc => ?_
    have hname : c.name ∈ new.map (·.name) := List.mem_map_of_mem (List.mem_reverse.mp hc)
    have hin : c.name ∈ s'.graph.history s'.head := (h.history _).mpr (.inl hname)
    have hout : c.name ∉ s'.graph.history s.head := by
      rw [hold]
      exact fun hmem => h.fresh hname (CommitGraph.history_names hmem)
    simp [hin,hout]
  rw [hnone,hall,List.nil_append]

end Grown

end Checkout
