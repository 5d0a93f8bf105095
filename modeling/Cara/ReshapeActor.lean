import Cara.Reshape
import Cara.GraphActors

/-! Which merge actor the reshape preflight judges for. The copy is derived for the
configured actor but both problem sets come from the default one, so a member that becomes
an unparked head is refused where Cara merges although nothing is wrong with it. -/
namespace Cara
namespace Reshape

open Std (ExtTreeMap)
open Cara.Graph

variable {δ : Type}

structure LiveStatus where
  output : StatusOutput
  indexed : Indexed output.analysis.pullRequests
  derived : output.analysis.fleet.caravans =
    deriveCaravans output.analysis.fleet.defaultBranch.name output.analysis.pullRequests

section Rows

theorem collectPullRequests_getElem? (rows : List PullRequestSnapshot) (n : PrNumber) :
    (collectPullRequests rows).1[n]? = rows.reverse.find? fun p => decide (p.number = n) := by
  induction rows using List.reverseRecOn with
  | nil => simp [collectPullRequests]
  | append_singleton rows row ih =>
    simp only [collectPullRequests,List.foldl_append,List.foldl_cons,List.foldl_nil] at ih ⊢
    rw [ExtTreeMap.getElem?_insert,List.reverse_append]
    by_cases hn : row.number = n
    · simp [hn]
    · have hcompare : compare row.number n ≠ .eq := fun h => hn (Std.LawfulEqOrd.eq_of_compare h)
      simp only [hcompare,if_false,List.reverse_cons,List.reverse_nil,List.nil_append,
        List.singleton_append]
      rw [List.find?_cons_of_neg (by simpa using hn)]
      exact ih

theorem collect_rowsOf {prs : PullRequestMap} (hprs : Indexed prs) :
    (collectPullRequests (rowsOf prs)).1 = prs := by
  apply ExtTreeMap.ext_getElem?
  intro n
  rw [collectPullRequests_getElem?]
  cases hn : prs[n]? with
  | none =>
    rw [List.find?_eq_none]
    intro p hp
    obtain ⟨m,hm⟩ := mem_rowsOf_iff.mp (List.mem_reverse.mp hp)
    have hnumber : p.number ≠ n := by
      intro heq
      rw [← hprs m p hm] at hm
      rw [heq,hn] at hm
      cases hm
    simpa using hnumber
  | some p =>
    have hmem : p ∈ (rowsOf prs).reverse := List.mem_reverse.mpr (mem_rowsOf_iff.mpr ⟨n,hn⟩)
    cases hfind : (rowsOf prs).reverse.find? fun p => decide (p.number = n) with
    | none =>
      have hnot := List.find?_eq_none.mp hfind p hmem
      simp [hprs n p hn] at hnot
    | some q =>
      have hq : q.number = n := by simpa using List.find?_some hfind
      obtain ⟨m,hm⟩ := mem_rowsOf_iff.mp (List.mem_reverse.mp (List.mem_of_find?_eq_some hfind))
      have hmn : m = n := (hprs m q hm).symm.trans hq
      subst hmn
      exact (hm.symm.trans hn)

theorem edit_getElem? (prs : PullRequestMap) (number n : PrNumber)
    (change : PullRequestSnapshot → PullRequestSnapshot) :
    (edit prs number change)[n]? = if number = n then (prs[n]?).map change else prs[n]? := by
  unfold edit
  cases hrow : prs[number]? with
  | none =>
    by_cases hn : number = n
    · subst hn
      simp [hrow]
    · simp [hn]
  | some p =>
    show (prs.insert number (change p))[n]? = _
    rw [ExtTreeMap.getElem?_insert]
    by_cases hn : number = n
    · subst hn
      simp [hrow]
    · have hcompare : compare number n ≠ .eq := fun h => hn (Std.LawfulEqOrd.eq_of_compare h)
      simp [hcompare,hn]

theorem edit_indexed {prs : PullRequestMap} (hprs : Indexed prs) {number : PrNumber}
    {change : PullRequestSnapshot → PullRequestSnapshot}
    (hchange : ∀ p, (change p).number = p.number) : Indexed (edit prs number change) := by
  intro n p hp
  rw [edit_getElem?] at hp
  split at hp
  · obtain ⟨q,hq,rfl⟩ := Option.map_eq_some_iff.mp hp
    exact (hchange q).trans (hprs n q hq)
  · exact hprs n p hp

end Rows

section Members

variable (status : LiveStatus)

def current : RepositorySnapshot := projection status.output status.output.analysis.pullRequests

/-- The selected member stands behind the head of its caravan. -/
def NonHead (n : PrNumber) : Prop :=
  ∃ c k, status.output.analysis.fleet.containing n = some c ∧ c.position n = some (k + 1)

variable {status}

theorem indexOf_projection {prs : PullRequestMap} (hprs : Indexed prs) :
    indexOf (projection status.output prs) = prs := collect_rowsOf hprs

theorem indexOf_current : indexOf (current status) = status.output.analysis.pullRequests :=
  indexOf_projection status.indexed

theorem mem_caravans_iff {c : Caravan} : c ∈ status.output.analysis.fleet.caravans ↔
    c ∈ deriveCaravans (current status).defaultBranch.name (indexOf (current status)) := by
  rw [status.derived,indexOf_current]
  rfl

theorem not_isHead {c : Caravan} (hc : c ∈ status.output.analysis.fleet.caravans) {i : ℕ}
    {n : PrNumber} (hn : c.members[i + 1]? = some n) : ¬ IsHead (current status) n := by
  intro hhead
  have hc' := mem_caravans_iff.mp hc
  obtain ⟨d,hd,rfl⟩ := hhead
  have hfirst := (mem_deriveCaravans_iff.mp hd).2.1
  have hsame : some d = some c := by
    rw [← @containing_eq_some _ _ (collectPullRequests_indexed _)
      (deriveForActor (current status) .caravan).fleet rfl d hd _ (List.mem_of_head? hfirst)]
    exact @containing_eq_some _ _ (collectPullRequests_indexed _)
      (deriveForActor (current status) .caravan).fleet rfl c hc' _ (List.mem_of_getElem? hn)
  obtain rfl := Option.some.inj hsame
  rw [List.head?_eq_getElem?] at hfirst
  have hnodup : d.members.Nodup := @members_nodup (current status) .caravan d hc'
  have hlt : i + 1 < d.members.length := (List.getElem?_eq_some_iff.mp hn).1
  have hindex := (List.getElem?_inj (by omega) hnodup).mp (hfirst.trans hn.symm)
  omega

theorem NonHead.member {n : PrNumber} (h : NonHead status n) : ∃ c k,
    status.output.analysis.fleet.containing n = some c ∧ c.position n = some (k + 1) ∧
      c ∈ status.output.analysis.fleet.caravans ∧ c.members[k + 1]? = some n := by
  obtain ⟨c,k,hc,hk⟩ := h
  refine ⟨c,k,hc,hk,List.mem_of_find?_eq_some hc,?_⟩
  obtain ⟨hlt,hat,-⟩ := List.findIdx?_eq_some_iff_getElem.mp hk
  rw [List.getElem?_eq_getElem hlt]
  exact congrArg some (by simpa using hat)

theorem member_active {c : Caravan} (hc : c ∈ status.output.analysis.fleet.caravans)
    {n : PrNumber} (hn : n ∈ c.members) :
    ∃ p, ActiveAt status.output.analysis.pullRequests n p := by
  have hactive := @members_active (current status) .caravan c (mem_caravans_iff.mp hc) n hn
  rw [indexOf_current] at hactive
  exact hactive

end Members

section Planned

variable {status : LiveStatus}

/-- What an edit leaves of the active members: one may stand on a new base, unarmed where
Cara merges, and the others are as they were. -/
structure Edited (status : LiveStatus) (moved : Option (PrNumber × BranchSnapshot))
    (prs : PullRequestMap) : Prop where
  indexed : Indexed prs
  kept : ∀ n p, ActiveAt prs n p → (∀ base, moved ≠ some (n,base)) →
    ActiveAt status.output.analysis.pullRequests n p
  rebased : ∀ n base, moved = some (n,base) → ¬ IsHead (current status) n ∧
    ∃ q autoMerge, ActiveAt status.output.analysis.pullRequests n q ∧
      ActiveAt prs n (rebased base autoMerge q) ∧
      (status.output.headMergeActor = .caravan → autoMerge = .disabled)

theorem rebased_active {base : BranchSnapshot} {autoMerge : AutoMergeState}
    {p : PullRequestSnapshot} (h : p.isActiveCaravanMember = true) :
    (rebased base autoMerge p).isActiveCaravanMember = true := h

theorem evicted_inactive (p : PullRequestSnapshot) :
    (evicted p).isActiveCaravanMember = false := by
  simp [evicted,PullRequestSnapshot.isActiveCaravanMember,PullRequestSnapshot.hasLabel,evictedLabel]

theorem headAutoMerge_caravan (h : status.output.headMergeActor = .caravan) :
    headAutoMerge status.output = .disabled := by
  simp [headAutoMerge,h,HeadMergeActor.isGithub]

theorem split_edited {c : Caravan} (hc : c ∈ status.output.analysis.fleet.caravans) {i : ℕ}
    {n : PrNumber} (hn : c.members[i + 1]? = some n) {target : PullRequestSnapshot}
    (htarget : ActiveAt status.output.analysis.pullRequests n target) :
    Edited status (some (n,status.output.analysis.fleet.defaultBranch))
      (splitEdit status.output target) := by
  have hnumber : target.number = n := status.indexed n target htarget.1
  refine ⟨edit_indexed status.indexed fun _ => rfl,?_,?_⟩
  · intro m p hp hmoved
    have hne : target.number ≠ m := by
      intro heq
      exact hmoved _ (by rw [← heq,hnumber])
    have hrow := hp.1
    unfold splitEdit at hrow
    rw [edit_getElem?,if_neg hne] at hrow
    exact ⟨hrow,hp.2⟩
  · intro m base hmoved
    obtain ⟨rfl,rfl⟩ : n = m ∧ status.output.analysis.fleet.defaultBranch = base := by
      simpa using hmoved
    refine ⟨not_isHead hc hn,target,headAutoMerge status.output,htarget,?_,headAutoMerge_caravan⟩
    refine ⟨?_,rebased_active htarget.2⟩
    unfold splitEdit
    rw [edit_getElem?,if_pos hnumber,htarget.1,Option.map_some]

theorem eviction_edited_tail {n : PrNumber} {target : PullRequestSnapshot}
    (htarget : ActiveAt status.output.analysis.pullRequests n target)
    (childBase : Option BranchSnapshot) :
    Edited status none (evictionEdit status.output target none childBase false) := by
  have hnumber : target.number = n := status.indexed n target htarget.1
  refine ⟨edit_indexed status.indexed fun _ => rfl,?_,fun _ _ h => by cases h⟩
  intro m p hp _
  have hrow := hp.1
  have hedit : evictionEdit status.output target none childBase false =
      edit status.output.analysis.pullRequests target.number evicted := by
    cases childBase <;> rfl
  rw [hedit,edit_getElem?] at hrow
  split at hrow
  · obtain ⟨q,-,rfl⟩ := Option.map_eq_some_iff.mp hrow
    exact absurd ((evicted_inactive q).symm.trans hp.2) Bool.false_ne_true
  · exact ⟨hrow,hp.2⟩

theorem eviction_edited_middle {c : Caravan} (hc : c ∈ status.output.analysis.fleet.caravans)
    {i : ℕ} {n child : PrNumber} (hne : n ≠ child) (hchild : c.members[i + 1]? = some child)
    {target : PullRequestSnapshot}
    (htarget : ActiveAt status.output.analysis.pullRequests n target) (base : BranchSnapshot) :
    Edited status (some (child,base))
      (evictionEdit status.output target (some child) (some base) false) := by
  have hnumber : target.number = n := status.indexed n target htarget.1
  have hedit : evictionEdit status.output target (some child) (some base) false =
      edit (edit status.output.analysis.pullRequests target.number evicted) child
        (rebased base .disabled) := rfl
  have hbase : Indexed (edit status.output.analysis.pullRequests target.number evicted) :=
    edit_indexed status.indexed fun _ => rfl
  refine ⟨edit_indexed hbase fun _ => rfl,?_,?_⟩
  · intro m p hp hmoved
    have hm : child ≠ m := by
      intro heq
      exact hmoved base (by rw [heq])
    have hrow := hp.1
    rw [hedit,edit_getElem?,if_neg hm,edit_getElem?] at hrow
    split at hrow
    · obtain ⟨q,-,rfl⟩ := Option.map_eq_some_iff.mp hrow
      exact absurd ((evicted_inactive q).symm.trans hp.2) Bool.false_ne_true
    · exact ⟨hrow,hp.2⟩
  · intro m base' hmoved
    obtain ⟨rfl,rfl⟩ : child = m ∧ base = base' := by simpa using hmoved
    obtain ⟨q,hq⟩ := member_active hc (List.mem_of_getElem? hchild)
    refine ⟨not_isHead hc hchild,q,.disabled,hq,⟨?_,rebased_active hq.2⟩,fun _ => rfl⟩
    rw [hedit,edit_getElem?,if_pos rfl,edit_getElem?,if_neg (hnumber ▸ hne),hq.1,
      Option.map_some]

inductive Moves (status : LiveStatus) : ReshapeOperation → PrNumber → PrNumber → BranchSnapshot →
    Prop where
  | split (n : PrNumber) : Moves status .split n n status.output.analysis.fleet.defaultBranch
  | evict {c : Caravan} {k : ℕ} {n child parent : PrNumber} {p : PullRequestSnapshot}
      (containing : status.output.analysis.fleet.containing n = some c)
      (position : c.position n = some (k + 1)) (next : c.members[k + 2]? = some child)
      (previous : c.members[k]? = some parent)
      (found : status.output.analysis.pullRequests[parent]? = some p) :
      Moves status .evict n child p.head

theorem planSplit_eq {n : PrNumber} (h : NonHead status n) {target : PullRequestSnapshot}
    (htarget : ActiveAt status.output.analysis.pullRequests n target) :
    (planSplit status.output target : ReshapeResult δ (StatusOutput × ReshapePlan)) =
      .ok (virtualStatus status.output (splitEdit status.output target),
        ⟨none,none,true,false,[target.number]⟩) := by
  obtain ⟨c,k,hc,hk⟩ := h
  have hnumber : target.number = n := status.indexed n target htarget.1
  have hactive : (!target.isActiveCaravanMember) = false := by simp [htarget.2]
  have hhead : alreadyHead status.output target (k + 1) = false := by simp [alreadyHead]
  unfold planSplit
  rw [hactive,hnumber,hc]
  show (expect (c.position n) "containing caravan has target" >>= fun _ => _) = _
  rw [hk]
  simp only [expect,bind,Except.bind,hhead,Bool.false_and,Guard.refuse,Bool.false_eq_true,if_false]
  rfl

theorem evictionNeighbours_eq {c : Caravan} {k : ℕ} {target : PullRequestSnapshot}
    (hc : status.output.analysis.fleet.containing target.number = some c)
    (hk : c.position target.number = some (k + 1)) :
    (evictionNeighbours status.output target : ReshapeResult δ _) =
      .ok (c.members[k]?,c.members[k + 2]?) := by
  unfold evictionNeighbours
  rw [hc]
  show caravanNeighbours target c = _
  unfold caravanNeighbours
  rw [hk]
  rfl

/-- The plan for a member behind the head: what it edits and what it moves. -/
theorem planReshape_nonHead {n : PrNumber} (h : NonHead status n) {target : PullRequestSnapshot}
    (htarget : ActiveAt status.output.analysis.pullRequests n target)
    (operation : ReshapeOperation) : ∃ prs plan moved,
      (planReshape status.output target operation : ReshapeResult δ _) =
        .ok (virtualStatus status.output prs,plan) ∧ plan.releasesHead = false ∧
      Edited status moved prs ∧
      ∀ m base, moved = some (m,base) ↔ Moves status operation n m base := by
  obtain ⟨c,k,hc,hk,hmem,hat⟩ := h.member
  have hnumber : target.number = n := status.indexed n target htarget.1
  cases operation with
  | split =>
    refine ⟨_,_,_,planSplit_eq h htarget,rfl,split_edited hmem hat htarget,?_⟩
    intro m base
    constructor
    · intro hmoved
      obtain ⟨rfl,rfl⟩ : n = m ∧ status.output.analysis.fleet.defaultBranch = base := by
        simpa using hmoved
      exact .split n
    · intro hmoves
      cases hmoves
      rfl
  | evict =>
    have hlt : k + 1 < c.members.length := (List.getElem?_eq_some_iff.mp hat).1
    have hprevious : c.members[k]? = some c.members[k] := List.getElem?_eq_getElem (by omega)
    obtain ⟨p,hp⟩ := member_active hmem (List.mem_of_getElem? hprevious)
    have hneighbours : (evictionNeighbours status.output target : ReshapeResult δ _) =
        .ok (some c.members[k],c.members[k + 2]?) := by
      rw [evictionNeighbours_eq (hnumber ▸ hc) (hnumber ▸ hk),hprevious]
    cases hnext : c.members[k + 2]? with
    | none =>
      rw [hnext] at hneighbours
      refine ⟨evictionEdit status.output target none none false,
        ⟨none,none,false,false,[target.number]⟩,none,?_,rfl,eviction_edited_tail htarget none,?_⟩
      · unfold planReshape planEviction
        rw [hneighbours]
        rfl
      · intro m base
        constructor
        · intro hmoved
          cases hmoved
        · intro hmoves
          cases hmoves with
          | @evict c' k' _ child parent p' hc' hk' hnext' _ _ =>
            rw [hc,Option.some.injEq] at hc'
            subst hc'
            rw [hk,Option.some.injEq,Nat.add_right_cancel_iff] at hk'
            subst hk'
            rw [hnext] at hnext'
            cases hnext'
    | some child =>
      rw [hnext] at hneighbours
      have hne : n ≠ child := by
        rintro rfl
        have hnodup : c.members.Nodup :=
          @members_nodup (current status) .caravan c (mem_caravans_iff.mp hmem)
        have hindex := (List.getElem?_inj hlt hnodup).mp (hat.trans hnext.symm)
        omega
      have hbase : (evictionBase status.output (some c.members[k]) (some child) :
          ReshapeResult δ (Option BranchSnapshot)) = .ok (some p.head) := by
        show (expect status.output.analysis.pullRequests[c.members[k]]?
          "eviction parent has a snapshot" >>= fun q => pure (some q.head)) = _
        rw [hp.1]
        rfl
      refine ⟨evictionEdit status.output target (some child) (some p.head) false,
        ⟨some child,some p.head,false,false,[target.number,child]⟩,some (child,p.head),?_,rfl,
        eviction_edited_middle hmem hne hnext htarget p.head,?_⟩
      · unfold planReshape planEviction
        rw [hneighbours]
        show (evictionBase status.output (some c.members[k]) (some child) >>= fun _ => _) = _
        rw [hbase]
        rfl
      · intro m base
        constructor
        · intro hmoved
          obtain ⟨rfl,rfl⟩ : child = m ∧ p.head = base := by simpa using hmoved
          exact .evict hc hk hnext hprevious hp.1
        · intro hmoves
          cases hmoves with
          | @evict c' k' _ _ parent p' hc' hk' hnext' hprevious' hfound =>
            rw [hc,Option.some.injEq] at hc'
            subst hc'
            rw [hk,Option.some.injEq,Nat.add_right_cancel_iff] at hk'
            subst hk'
            rw [hnext,Option.some.injEq] at hnext'
            rw [hprevious,Option.some.injEq] at hprevious'
            rw [← hprevious',hp.1,Option.some.injEq] at hfound
            rw [hnext',hfound]

end Planned

section Introduced

variable {status : LiveStatus} {moved : Option (PrNumber × BranchSnapshot)} {prs : PullRequestMap}

/-- A reshape that puts the moved pull request on the default branch, by name, where no
parked label takes it out of the queue. -/
def BecomesHead (status : LiveStatus) (operation : ReshapeOperation) (n : PrNumber) : Prop :=
  ∃ m base q, Moves status operation n m base ∧
    base.name = status.output.analysis.fleet.defaultBranch.name ∧
    status.output.analysis.pullRequests[m]? = some q ∧ q.hasLabel parkedLabel = false

theorem projection_virtualStatus (hprs : Indexed prs) :
    projection (virtualStatus status.output prs)
      (virtualStatus status.output prs).analysis.pullRequests = projection status.output prs := by
  have hrows : (virtualStatus status.output prs).analysis.pullRequests = prs := collect_rowsOf hprs
  rw [hrows]
  rfl

theorem Edited.parked_eq (h : Edited status moved prs) : ∀ n p q,
    ActiveAt (indexOf (current status)) n p → ActiveAt (indexOf (projection status.output prs)) n q →
      q.hasLabel "caravan-parked" = p.hasLabel "caravan-parked" := by
  intro n p q hp hq
  rw [indexOf_current] at hp
  rw [indexOf_projection h.indexed] at hq
  by_cases hmoved : ∃ base, moved = some (n,base)
  · obtain ⟨base,hbase⟩ := hmoved
    obtain ⟨-,r,autoMerge,hr,hafter,-⟩ := h.rebased n base hbase
    rw [hq.unique hafter,hp.unique hr]
    rfl
  · rw [(h.kept n q hq fun base hbase => hmoved ⟨base,hbase⟩).unique hp]

/-- Where Cara merges and no shared problem is new, the new unarmed heads are the members
that were moved to the default branch. -/
theorem Edited.new_unarmedHead_iff (h : Edited status moved prs)
    (hactor : status.output.headMergeActor = .caravan)
    (hcommon : ∀ problem ∈ commonProblems (projection status.output prs),
      problem ∈ commonProblems (current status)) (n : PrNumber) :
    (UnarmedHead (projection status.output prs) n ∧ ¬ UnarmedHead (current status) n) ↔
      ∃ base q, moved = some (n,base) ∧
        base.name = status.output.analysis.fleet.defaultBranch.name ∧
        status.output.analysis.pullRequests[n]? = some q ∧ q.hasLabel parkedLabel = false := by
  have hindex := @indexOf_projection status prs h.indexed
  constructor
  · intro hnew
    obtain ⟨⟨hhead,p,hp,hparked,hinvalid⟩,hold⟩ := hnew
    have hcases := head_cases hcommon hp hhead
    rw [hindex] at hp
    by_cases hmoved : ∃ base, moved = some (n,base)
    · obtain ⟨base,hbase⟩ := hmoved
      obtain ⟨hnot,q,autoMerge,hq,hafter,-⟩ := h.rebased n base hbase
      have hname := hcases.resolve_left hnot
      rw [hp.unique hafter] at hname hparked
      exact ⟨base,q,hbase,hname,hq.1,hparked⟩
    · exfalso
      have hkept := h.kept n p hp fun base hbase => hmoved ⟨base,hbase⟩
      rw [← indexOf_current] at hkept
      apply hold
      refine ⟨hcases.elim id ?_,p,hkept,hparked,hinvalid⟩
      intro hbase
      exact isHead_of_root (root_of_placement hkept (placement_default hbase))
  · intro hmoved
    obtain ⟨base,q,hbase,hname,hq,hparked⟩ := hmoved
    obtain ⟨hnot,r,autoMerge,hr,hafter,hdisabled⟩ := h.rebased n base hbase
    have hqr : r = q := Option.some.inj (hr.1.symm.trans hq)
    subst hqr
    rw [← hindex] at hafter
    refine ⟨⟨isHead_of_root (root_of_placement hafter (placement_default hname)),_,hafter,hparked,
      ?_⟩,fun hold => hnot hold.1⟩
    rw [hdisabled hactor]
    rfl

/-- The problems of provider merging that an edit introduces where it introduces none of
Cara merging. -/
theorem Edited.introduced_iff (h : Edited status moved prs)
    (hactor : status.output.headMergeActor = .caravan) {addedBefore addedAfter : List GraphProblem}
    (hbefore : ∀ problem ∈ addedBefore, MechanicalKind problem.kind)
    (hafter : ∀ problem ∈ addedAfter, MechanicalKind problem.kind)
    (hnone : ∀ problem ∈
        structuralProblems (projection status.output prs) .caravan ++ addedAfter,
      problem ∈ structuralProblems (current status) .caravan ++ addedBefore) :
    (∃ problem ∈ structuralProblems (projection status.output prs) .github ++ addedAfter,
        problem ∉ structuralProblems (current status) .github ++ addedBefore) ↔
      ∃ n base q, moved = some (n,base) ∧
        base.name = status.output.analysis.fleet.defaultBranch.name ∧
        status.output.analysis.pullRequests[n]? = some q ∧ q.hasLabel parkedLabel = false := by
  have hheads := h.new_unarmedHead_iff hactor (common_of_none hbefore hnone)
  simp only [← hheads]
  constructor
  · intro hnew
    obtain ⟨problem,hproblem,hfresh⟩ := hnew
    obtain ⟨n,rfl,hunarmed⟩ := (introduced_cases hbefore hafter hnone h.parked_eq problem
      hproblem).resolve_left hfresh
    refine ⟨n,hunarmed,?_⟩
    intro hold
    exact hfresh (List.mem_append_left _ (List.mem_append_right _ (unarmedHead_iff.mpr hold)))
  · intro hnew
    obtain ⟨n,hunarmed,hold⟩ := hnew
    refine ⟨autoMergeInvariant true 0 n,
      List.mem_append_left _ (List.mem_append_right _ (unarmedHead_iff.mpr hunarmed)),?_⟩
    intro hmem
    rcases List.mem_append.mp hmem with hstructural | hadded
    · rcases List.mem_append.mp hstructural with hcommon | harming
      · exact (common_kind hcommon).1 rfl
      · exact hold (unarmedHead_iff.mp harming)
    · rcases hbefore _ hadded with hkind | hkind <;> simp [autoMergeInvariant] at hkind

end Introduced

section Refusal

variable {status : LiveStatus} {checker : CompatibilityChecker δ} {provider : ReshapeProvider}
  {operation : ReshapeOperation} {selected : Option PrNumber}

/-- The refusal of a reshape for the problems that it would introduce. -/
def IsBrokenFleet (failure : ReshapeFailure δ) : Prop :=
  ∃ before after, failure = wouldBreakFleet before after

theorem projectedProblems_eq (checker : CompatibilityChecker δ) (output : StatusOutput) :
    projectedProblems checker output = carried .checker
      (graphProblems checker (projection output output.analysis.pullRequests) .github) := by
  unfold projectedProblems graphProblems
  show (carried .checker (analyzeForActor checker
    (projection output output.analysis.pullRequests) .github) >>= fun a => pure a.fleet.problems) = _
  cases analyzeForActor checker (projection output output.analysis.pullRequests) .github <;> rfl

theorem not_isBrokenFleet_of_details {e : AppError (ReshapeDetail δ)}
    (h : ∀ introduced preexisting next,
      e.details ≠ some (.brokenFleet introduced preexisting next)) : ¬ IsBrokenFleet (.error e) := by
  intro hbroken
  obtain ⟨before,after,heq⟩ := hbroken
  cases heq
  exact h _ _ _ rfl

theorem requireNewHead_error {output : StatusOutput} {plan : ReshapePlan}
    {remaining : List GraphProblem} {failure : ReshapeFailure δ}
    (h : requireNewHead provider output plan remaining = .error failure) :
    ¬ IsBrokenFleet failure := by
  have hprovider {α : Type} {r : Except Sync.MutationError α} {f : ReshapeFailure δ}
      (hr : providerError r = .error f) : ¬ IsBrokenFleet f := by
    cases r with
    | ok a => cases hr
    | error e =>
      cases hr
      apply not_isBrokenFleet_of_details
      cases e <;> simp
  have hinvalid (code message : String) : ¬ IsBrokenFleet (invalid code message : ReshapeFailure δ) :=
    not_isBrokenFleet_of_details fun _ _ _ h => by cases h
  have hnative {f : ReshapeFailure δ} (hf : requireNativeAutoMerge provider output = .error f) :
      ¬ IsBrokenFleet f := by
    unfold requireNativeAutoMerge at hf
    split at hf
    · cases hallowed : (providerError (provider.repositoryAllowsAutoMerge output.repository) :
          ReshapeResult δ Bool) with
      | error e =>
        rw [hallowed] at hf
        cases hf
        exact hprovider hallowed
      | ok allowed =>
        rw [hallowed] at hf
        obtain ⟨-,rfl⟩ := (Guard.refuse_eq_error _ _ _).mp hf
        exact hinvalid _ _
    · cases hf
  unfold requireNewHead preflightNewHead at h
  split at h
  · cases hauto : (requireNativeAutoMerge provider output : ReshapeResult δ Unit) with
    | error e =>
      rw [hauto] at h
      cases h
      exact hnative hauto
    | ok u =>
      rw [hauto] at h
      cases hisProtected : (providerError (provider.branchIsProtected output.repository
          output.defaultBranch) : ReshapeResult δ Bool) with
      | error e =>
        simp only [hisProtected] at h
        cases h
        exact hprovider hisProtected
      | ok value =>
        simp only [hisProtected] at h
        obtain ⟨-,rfl⟩ := (Guard.refuse_eq_error _ _ _).mp h
        exact hinvalid _ _
  · cases h

theorem introducedProblems_isEmpty {before after : List GraphProblem} :
    (introducedProblems before after).isEmpty = false ↔ ∃ problem ∈ after, problem ∉ before := by
  rw [Bool.eq_false_iff,ne_eq,List.isEmpty_iff]
  unfold introducedProblems
  rw [List.filter_eq_nil_iff]
  simp

theorem checker_not_isBrokenFleet (e : AppError δ) : ¬ IsBrokenFleet
    (.error ⟨e.category,e.code,e.message,some (.checker e.details)⟩ : ReshapeFailure δ) :=
  not_isBrokenFleet_of_details fun _ _ _ h => by cases h

/-- Unless a head is released, a new problem of provider merging is what breaks the fleet. -/
theorem preflightResult_isBrokenFleet_iff {output projected : StatusOutput} :
    (∃ failure, IsBrokenFleet failure ∧
      preflightResult checker output projected false = .error failure) ↔ ∃ before after,
        graphProblems checker (projection output output.analysis.pullRequests) .github =
          .ok before ∧
        graphProblems checker (projection projected projected.analysis.pullRequests) .github =
          .ok after ∧ ∃ problem ∈ after, problem ∉ before := by
  unfold preflightResult
  rw [projectedProblems_eq,projectedProblems_eq]
  constructor
  · intro h
    obtain ⟨failure,hbroken,h⟩ := h
    cases hbefore : graphProblems checker
      (projection output output.analysis.pullRequests) .github with
    | error e =>
      rw [hbefore] at h
      cases h
      exact absurd hbroken (checker_not_isBrokenFleet e)
    | ok before =>
      cases hafter : graphProblems checker
        (projection projected projected.analysis.pullRequests) .github with
      | error e =>
        rw [hbefore,hafter] at h
        cases h
        exact absurd hbroken (checker_not_isBrokenFleet e)
      | ok after =>
        refine ⟨before,after,rfl,rfl,?_⟩
        rw [← introducedProblems_isEmpty,Bool.eq_false_iff]
        intro hempty
        rw [hbefore,hafter] at h
        simp only [carried,Except.mapError,bind,Except.bind,hempty,Bool.not_true,Bool.false_and,
          Guard.refuse,Bool.false_eq_true,if_false] at h
        cases h
  · intro h
    obtain ⟨before,after,hbefore,hafter,hnew⟩ := h
    refine ⟨_,⟨before,after,rfl⟩,?_⟩
    rw [hbefore,hafter]
    simp only [carried,Except.mapError,bind,Except.bind,introducedProblems_isEmpty.mpr hnew,
      Bool.not_false,Bool.and_true,Guard.refuse,if_true]

theorem disarmReplacement_eq {output projected : StatusOutput} {plan : ReshapePlan}
    {remaining : List GraphProblem} (h : plan.releasesHead = false) :
    disarmReplacement checker output projected plan remaining = .ok (projected,remaining) := by
  unfold disarmReplacement
  cases plan.child with
  | none => rfl
  | some child => simp [h]

/-- A reshape of a non-head is refused for its problems exactly when initialization lets it
through and provider merging would report a new one. -/
theorem prepareReshape_isBrokenFleet_iff {n : PrNumber} {target : PullRequestSnapshot}
    {projected : StatusOutput} {plan : ReshapePlan}
    (hselected : selected.or status.output.currentPr = some n)
    (htarget : ActiveAt status.output.analysis.pullRequests n target)
    (hplan : (planReshape status.output target operation : ReshapeResult δ _) =
      .ok (projected,plan)) (hreleases : plan.releasesHead = false) :
    (∃ failure, IsBrokenFleet failure ∧
      prepareReshape checker status.output provider operation selected = .error failure) ↔
      status.output.initialization.requireReady = .ok () ∧ ∃ before after,
        graphProblems checker (current status) .github = .ok before ∧
        graphProblems checker (projection projected projected.analysis.pullRequests) .github =
          .ok after ∧ ∃ problem ∈ after, problem ∉ before := by
  have hopen : target.state = .open := by
    have hactive := htarget.2
    simp only [PullRequestSnapshot.isActiveCaravanMember,Bool.and_eq_true,decide_eq_true_eq]
      at hactive
    exact hactive.1.1
  have hselect : (selectedTarget status.output selected : ReshapeResult δ _) = .ok (n,target) := by
    unfold selectedTarget
    rw [hselected]
    dsimp only
    rw [htarget.1]
    exact if_pos hopen
  have hpreflight := @preflightResult_isBrokenFleet_iff δ checker status.output projected
  unfold prepareReshape
  cases hready : status.output.initialization.requireReady with
  | error e =>
    constructor
    · intro h
      obtain ⟨failure,hbroken,h⟩ := h
      cases h
      exact absurd hbroken (not_isBrokenFleet_of_details fun _ _ _ h => by cases h)
    · intro h
      cases h.1
  | ok u =>
    rw [hselect]
    simp only [bind,Except.bind,carried,Except.mapError,hplan,hreleases]
    constructor
    · intro h
      obtain ⟨failure,hbroken,h⟩ := h
      refine ⟨trivial,hpreflight.mp ⟨failure,hbroken,?_⟩⟩
      cases hresult : preflightResult checker status.output projected false with
      | error e =>
        rw [hresult] at h
        cases h
        rfl
      | ok remaining =>
        rw [hresult] at h
        simp only [disarmReplacement_eq hreleases] at h
        cases hhead : (requireNewHead provider status.output plan remaining :
            ReshapeResult δ Unit) with
        | error e =>
          rw [hhead] at h
          cases h
          exact absurd hbroken (requireNewHead_error hhead)
        | ok u =>
          rw [hhead] at h
          cases h
    · intro h
      obtain ⟨failure,hbroken,hresult⟩ := hpreflight.mpr h.2
      refine ⟨failure,hbroken,?_⟩
      rw [hresult]

end Refusal

section Judges

variable (checker : CompatibilityChecker δ) (status : LiveStatus) (provider : ReshapeProvider)
  (operation : ReshapeOperation) (selected : Option PrNumber)

structure Selects (n : PrNumber) (target : PullRequestSnapshot) (projected : StatusOutput)
    (plan : ReshapePlan) : Prop where
  selected : selected.or status.output.currentPr = some n
  nonHead : NonHead status n
  found : status.output.analysis.pullRequests[n]? = some target
  plan : (planReshape status.output target operation : ReshapeResult δ _) = .ok (projected,plan)

/-- The problems of the reshaped graph as one merge actor sees it. -/
def reshapedProblems (projected : StatusOutput) (actor : HeadMergeActor) :
    Except (AppError δ) (List GraphProblem) :=
  graphProblems checker (projection projected projected.analysis.pullRequests) actor

/-- A reshape of a non-head is refused for its problems only if the graph of the configured
merge actor gets one that it did not have. -/
def JudgesConfiguredActor : Prop :=
  ∀ n target projected plan, @Selects δ status operation selected n target projected plan →
    ∀ failure, IsBrokenFleet failure →
      prepareReshape checker status.output provider operation selected = .error failure →
      ∃ before after,
        graphProblems checker (current status) status.output.headMergeActor = .ok before ∧
        reshapedProblems checker projected status.output.headMergeActor = .ok after ∧
        ∃ problem ∈ after, problem ∉ before

/-- Cara merges, the moved member becomes an unparked head on the default branch, and the
graph that Cara merges has no problem that it did not have. -/
def NewHeadOnly : Prop :=
  status.output.headMergeActor = .caravan ∧
    status.output.initialization.requireReady = .ok () ∧
    ∃ n target projected plan, @Selects δ status operation selected n target projected plan ∧
      BecomesHead status operation n ∧ ∃ before after,
        graphProblems checker (current status) .caravan = .ok before ∧
        reshapedProblems checker projected .caravan = .ok after ∧
        ∀ problem ∈ after, problem ∈ before

end Judges

section Exact

variable {checker : CompatibilityChecker δ} {status : LiveStatus} {provider : ReshapeProvider}
  {operation : ReshapeOperation} {selected : Option PrNumber}

theorem Selects.active {n : PrNumber} {target : PullRequestSnapshot} {projected : StatusOutput}
    {plan : ReshapePlan}
    (h : @Selects δ status operation selected n target projected plan) :
    ActiveAt status.output.analysis.pullRequests n target := by
  obtain ⟨c,k,-,-,hmem,hat⟩ := h.nonHead.member
  obtain ⟨p,hp⟩ := member_active hmem (List.mem_of_getElem? hat)
  have hsame : p = target := Option.some.inj (hp.1.symm.trans h.found)
  exact hsame ▸ hp

/-- Where nothing is new for Cara, something is new for the provider exactly when the moved
member becomes a head. -/
theorem Selects.introduced_iff {n : PrNumber} {target : PullRequestSnapshot}
    {projected : StatusOutput} {plan : ReshapePlan}
    (h : @Selects δ status operation selected n target projected plan)
    (hactor : status.output.headMergeActor = .caravan) {before after : List GraphProblem}
    (hbefore : graphProblems checker (current status) .caravan = .ok before)
    (hafter : reshapedProblems checker projected .caravan = .ok after)
    (hnone : ∀ problem ∈ after, problem ∈ before) :
    (∃ b a, graphProblems checker (current status) .github = .ok b ∧
      reshapedProblems checker projected .github = .ok a ∧ ∃ problem ∈ a, problem ∉ b) ↔
      BecomesHead status operation n := by
  obtain ⟨prs,plan',moved,hplan,-,hedited,hmoves⟩ :=
    @planReshape_nonHead δ status n h.nonHead target h.active operation
  have hsame : projected = virtualStatus status.output prs := by
    have heq := h.plan.symm.trans hplan
    cases heq
    rfl
  subst hsame
  unfold reshapedProblems at hafter ⊢
  rw [projection_virtualStatus hedited.indexed] at hafter ⊢
  rw [graphProblems_eq] at hbefore hafter
  rw [graphProblems_eq,graphProblems_eq]
  cases hmechBefore : mechanicalProblems checker (current status) with
  | error e =>
    rw [hmechBefore] at hbefore
    cases hbefore
  | ok addedBefore =>
    cases hmechAfter : mechanicalProblems checker (projection status.output prs) with
    | error e =>
      rw [hmechAfter] at hafter
      cases hafter
    | ok addedAfter =>
      rw [hmechBefore] at hbefore
      rw [hmechAfter] at hafter
      cases hbefore
      cases hafter
      have hiff := hedited.introduced_iff hactor (mechanical_kind hmechBefore)
        (mechanical_kind hmechAfter) hnone
      simp only [hmoves] at hiff
      constructor
      · intro hnew
        obtain ⟨b,a,hb,ha,hproblem⟩ := hnew
        cases hb
        cases ha
        obtain ⟨m,base,q,hrest⟩ := hiff.mp hproblem
        exact ⟨m,base,q,hrest⟩
      · intro hhead
        obtain ⟨m,base,q,hrest⟩ := hhead
        exact ⟨_,_,rfl,rfl,hiff.mpr ⟨m,base,q,hrest⟩⟩

theorem NewHeadOnly.refused (provider : ReshapeProvider)
    (h : NewHeadOnly checker status operation selected) :
    ∃ failure, IsBrokenFleet failure ∧
      prepareReshape checker status.output provider operation selected = .error failure := by
  obtain ⟨hactor,hready,n,target,projected,plan,hselects,hhead,before,after,hbefore,hafter,hnone⟩ :=
    h
  obtain ⟨prs,plan',moved,hplan,hreleases,-⟩ :=
    @planReshape_nonHead δ status n hselects.nonHead target hselects.active operation
  have hnew := (hselects.introduced_iff hactor hbefore hafter hnone).mpr hhead
  have heq := hselects.plan.symm.trans hplan
  cases heq
  exact (prepareReshape_isBrokenFleet_iff hselects.selected hselects.active hplan hreleases).mpr
    ⟨hready,hnew⟩

/-- Such a refusal has no problem to show for the configured merge actor. -/
theorem NewHeadOnly.not_judges (provider : ReshapeProvider)
    (h : NewHeadOnly checker status operation selected) :
    ¬ JudgesConfiguredActor checker status provider operation selected := by
  intro hjudges
  obtain ⟨failure,hbroken,hrefused⟩ := h.refused provider
  obtain ⟨hactor,-,n,target,projected,plan,hselects,-,before,after,hbefore,hafter,hnone⟩ := h
  obtain ⟨b,a,hb,ha,problem,hproblem,hfresh⟩ :=
    hjudges n target projected plan hselects failure hbroken hrefused
  rw [hactor] at hb ha
  have hb' := hbefore.symm.trans hb
  have ha' := hafter.symm.trans ha
  cases hb'
  cases ha'
  exact hfresh (hnone problem hproblem)

/-- The preflight judges for the configured merge actor unless Cara merges and the reshape
does nothing but make a new unparked head. -/
theorem judgesConfiguredActor_iff (checker : CompatibilityChecker δ) (status : LiveStatus)
    (provider : ReshapeProvider) (operation : ReshapeOperation) (selected : Option PrNumber) :
    JudgesConfiguredActor checker status provider operation selected ↔
      ¬ NewHeadOnly checker status operation selected := by
  constructor
  · intro hjudges hnewHead
    exact hnewHead.not_judges provider hjudges
  · intro hnot n target projected plan hselects failure hbroken hrefused
    obtain ⟨prs,plan',moved,hplan,hreleases,hedited,-⟩ :=
      @planReshape_nonHead δ status n hselects.nonHead target hselects.active operation
    have heq := hselects.plan.symm.trans hplan
    cases heq
    obtain ⟨hready,hnew⟩ := (prepareReshape_isBrokenFleet_iff hselects.selected hselects.active
      hplan hreleases).mp ⟨failure,hbroken,hrefused⟩
    cases hactor : status.output.headMergeActor with
    | github => exact hnew
    | caravan =>
      by_contra hnone
      obtain ⟨b,a,hb,ha,hproblem⟩ := hnew
      obtain ⟨before,hbefore⟩ := graphProblems_other checker hb .caravan
      obtain ⟨after,hafter⟩ := graphProblems_other checker ha .caravan
      have hold : ∀ problem ∈ after, problem ∈ before := by
        intro problem hmem
        by_contra hfresh
        exact hnone ⟨before,after,hbefore,hafter,problem,hmem,hfresh⟩
      have hhead := (hselects.introduced_iff hactor hbefore hafter hold).mp ⟨b,a,hb,ha,hproblem⟩
      exact hnot ⟨hactor,hready,n,target,_,_,hselects,hhead,before,after,hbefore,hafter,hold⟩

end Exact

section Split

def cleanChecker : CompatibilityChecker Unit where
  prepare _ := .ok ()
  check candidate target := .ok { candidate := candidate,target := target,outcome := .clean }
  cumulativeTree _ _ := .ok none
  squashEquivalence _ _ := .ok ()

/-- Two members on the default branch and nothing armed, as Cara leaves a healthy fleet. -/
def unarmedPair : RepositorySnapshot :=
  { pairSnapshot "next" with
    pullRequests := (pairSnapshot "next").pullRequests.map fun p => { p with autoMerge := .disabled } }

def caravanStatus : LiveStatus where
  output :=
    { repository := unarmedPair.repository
      defaultBranch := "main"
      analysis := deriveForActor unarmedPair .caravan
      headMergeActor := .caravan }
  indexed := collectPullRequests_indexed unarmedPair.pullRequests
  derived := rfl

def permissive : ReshapeProvider where
  repositoryAllowsAutoMerge _ := .ok true
  branchIsProtected _ _ := .ok true

/-- The split of the second of two healthy members makes a new head and nothing else. -/
theorem split_newHeadOnly : NewHeadOnly cleanChecker caravanStatus .split (some 2) := by
  have hnonHead : NonHead caravanStatus 2 := ⟨⟨1,[1,2],false⟩,0,by decide +kernel,by decide⟩
  have hfound : caravanStatus.output.analysis.pullRequests[(2 : PrNumber)]? =
      some (unarmedPair.pullRequests.get ⟨1,by decide⟩) := by decide +kernel
  have hactive : ActiveAt caravanStatus.output.analysis.pullRequests 2
      (unarmedPair.pullRequests.get ⟨1,by decide⟩) := ⟨hfound,by decide +kernel⟩
  refine ⟨rfl,rfl,2,_,_,_,⟨rfl,hnonHead,hfound,planSplit_eq hnonHead hactive⟩,?_,[],[],?_,?_,?_⟩
  · exact ⟨2,_,_,.split 2,rfl,hfound,by decide +kernel⟩
  · decide +kernel
  · decide +kernel
  · simp

/-- A healthy split is refused although the graph of the configured actor stays clean. -/
theorem split_of_healthy_pair_refused : ¬ ∀ (status : LiveStatus)
    (checker : CompatibilityChecker Unit) (provider : ReshapeProvider) (operation : ReshapeOperation)
    (selected : Option PrNumber),
    JudgesConfiguredActor checker status provider operation selected := by
  intro h
  exact split_newHeadOnly.not_judges permissive
    (h caravanStatus cleanChecker permissive .split (some 2))

end Split

end Reshape
end Cara
