import Cara.ConcatExecute

/-! What a concatenation leaves of the two systems it writes: the branch heads, which move
together or not at all, and the bases, whose edits may be applied without an answer. -/
namespace Cara
namespace Concat

open PhysicalRebase (PlannedBase PlannedRangeBase PreparedRebase AtomicRebaseReceipt
  AtomicRollbackReceipt AtomicRemoteState HeadMove headMove rollbackMove)
open Sync (MutationError GitHubMutationReceipt)
open Prog (Gives Keeps Run)
open AtomicRefs (Exchange Ready Store moved)

/-- Branch heads and bases, with what the provider still owes: the read-back of a base edit
it applied, and the answer to the last call to Git since. -/
@[ext] structure World where
  heads : Store String CommitOid
  bases : PrNumber → String
  unconfirmed : Bool := false
  gitFailed : Bool := false
  fleet : Option CaravanFleet := none

/-- A status tells the base of every pull request, and its caravans are named by their heads.
The heads it shows may lag. -/
structure Reports (s : World) (live : LiveStatus) : Prop where
  number : ∀ n (p : PullRequestSnapshot),live.analysis.pullRequests[n]? = some p → p.number = n
  base : ∀ n (p : PullRequestSnapshot),live.analysis.pullRequests[n]? = some p → p.base.name = s.bases n
  named : ∀ c ∈ live.analysis.fleet.caravans,c.members.head? = some c.id

/-- One call to the environment. A push moves all its branches or none, a base edit is applied
or not, and both may be applied without an answer. -/
inductive Step : World → Request → Answer → World → Prop
  | log (s : World) (input : Journal.LogInput)
      (result : Except ConcatError (Journal.LogOutput ConcatEvidence)) :
      Step s (.journal input) (.log result) s
  | acquired (s : World) (operation : String) (result : Except ConcatError Unit) :
      Step s (.acquireWriter operation) (.done result) s
  | status {s : World} {live : LiveStatus} : Reports s live →
      Step s .status (.status (.ok live)) { s with fleet := some live.analysis.fleet }
  | statusFailed (s : World) (error : ConcatError) : Step s .status (.status (.error error)) s
  | fetched (s : World) (branches : List BranchSnapshot) (result : Except ConcatError Unit) :
      Step s (.fetchBranches branches) (.done result) s
  | compared (s : World) (candidate target : BranchSnapshot)
      (result : Except ConcatError CompatibilityReport) :
      Step s (.compatibility candidate target) (.report result) s
  | prepared (s : World) (candidate : PullRequestSnapshot) (rangeSource : PlannedRangeBase)
      (newBase : PlannedBase) (workflowSource : BranchSnapshot)
      (result : Except ConcatError PhysicalRebase.PreparedFacts) :
      Step s (.prepareCandidate candidate rangeSource newBase workflowSource) (.prepared result) s
  | retained (s : World) (prepared : PreparedRebase) (result : Except ConcatError CommitOid) :
      Step s (.retainedHead prepared) (.head result) s
  | head (s : World) (branch : String) :
      Step s (.remoteHead branch) (.advertised (.ok (s.heads branch))) { s with gitFailed := false }
  | headFailed (s : World) (branch : String) (error : ConcatError) :
      Step s (.remoteHead branch) (.advertised (.error error)) { s with gitFailed := true }
  | ranged (s : World) (rangeSource : PlannedRangeBase) (result : Except ConcatError Unit) :
      Step s (.retainRange rangeSource) (.done result) s
  | dryRun (s : World) (lease : PhysicalRebase.Lease) (result : Except ConcatError Unit) :
      Step s (.pushDryRun lease) (.done result) s
  | pushed {s : World} {moves : List HeadMove} {heads : Store String CommitOid} :
      Exchange s.heads moves true heads →
      Step s (.push moves) (.done (.ok ())) { s with heads := heads,gitFailed := false }
  | pushFailed {s : World} {moves : List HeadMove} {heads : Store String CommitOid}
      (error : ConcatError) : Exchange s.heads moves false heads →
      Step s (.push moves) (.done (.error error)) { s with heads := heads,gitFailed := true }
  | refetched {s : World} (repository : RepositoryId) {number : PrNumber} {p : PullRequestSnapshot} :
      p.number = number → p.base.name = s.bases number →
      Step s (.refetch repository number) (.pullRequest (.ok p)) { s with unconfirmed := false }
  | refetchFailed (s : World) (repository : RepositoryId) (number : PrNumber) (error : MutationError) :
      Step s (.refetch repository number) (.pullRequest (.error error)) s
  | edited (s : World) (repository : RepositoryId) (number : PrNumber) (base : String)
      (output : Option String) : Step s (.editBase repository number base) (.edited (.ok output))
        { s with bases := Function.update s.bases number base,unconfirmed := true,gitFailed := false }
  | editLost (s : World) (repository : RepositoryId) (number : PrNumber) (base : String)
      (error : MutationError) : Step s (.editBase repository number base) (.edited (.error error))
        { s with bases := Function.update s.bases number base,unconfirmed := true,gitFailed := false }
  | editRefused (s : World) (repository : RepositoryId) (number : PrNumber) (base : String)
      (error : MutationError) : Step s (.editBase repository number base) (.edited (.error error)) s
  | operation (s : World) (id timestamp : String) : Step s .newOperation (.identity id timestamp) s
  | event (s : World) (id timestamp : String) : Step s .newEvent (.identity id timestamp) s
  | dispatched (s : World) (event : ConcatEvent)
      (result : Except HookFailure (List Journal.HookDelivery)) :
      Step s (.dispatch event) (.delivered result) s

def Always : World → Request → Prop := fun _ _ => True

structure Same (s t : World) : Prop where
  heads : t.heads = s.heads
  bases : t.bases = s.bases
  unconfirmed : s.unconfirmed = false → t.unconfirmed = false

theorem Same.refl (s : World) : Same s s := ⟨rfl,rfl,id⟩

theorem Same.trans {s t u : World} (h : Same s t) (h' : Same t u) : Same s u :=
  ⟨h'.heads.trans h.heads,h'.bases.trans h.bases,fun hs => h'.unconfirmed (h.unconfirmed hs)⟩

def Request.writes : Request → Bool
  | .push _ | .editBase .. => true
  | _ => false

theorem Step.same {s t : World} {q : Request} {a : Answer} (h : Step s q a t)
    (hq : q.writes = false) : Same s t := by
  cases h with
  | pushed => cases hq
  | pushFailed => cases hq
  | edited => cases hq
  | editLost => cases hq
  | editRefused => cases hq
  | refetched => exact ⟨rfl,rfl,fun _ => rfl⟩
  | _ => exact ⟨rfl,rfl,id⟩

/-- Reads that leave the two systems as they are in this world. -/
abbrev Reading {ε α : Type} (s : World) (m : Prog.Fallible Request Answer ε α) (P : α → Prop) : Prop :=
  Keeps Step Always (Same s) m P

section Reading

variable {s : World} {ε α : Type}

theorem reading_query {q : Request} {decode : Answer → Option (Except ε α)} {P : α → Prop}
    (hq : q.writes = false)
    (h : ∀ s' a t r,Same s s' → Step s' q a t → decode a = some (.ok r) → P r) :
    Reading s (Prog.query q decode) P :=
  .query (fun _ _ => trivial) (fun _ _ _ hs ht => hs.trans (ht.same hq)) h

theorem reading_any {q : Request} {decode : Answer → Option (Except ε α)} (hq : q.writes = false) :
    Reading s (Prog.query q decode) fun _ => True := reading_query hq fun _ _ _ _ _ _ _ => trivial

theorem reading_status : Reading s readStatus (Reports s) := by
  apply reading_query rfl
  intro s' a t live hs ht hlive
  cases ht with
  | statusFailed error => cases hlive
  | status hreports =>
    cases hlive
    exact ⟨hreports.number,fun n p hp => by rw [hreports.base n p hp,hs.bases],hreports.named⟩

theorem reading_head (branch : String) : Reading s (remoteHead branch) (· = s.heads branch) := by
  apply reading_query rfl
  intro s' a t r hs ht hr
  cases ht with
  | headFailed error => cases hr
  | head =>
    cases hr
    rw [hs.heads]

theorem reading_expect {value : Option α} : Reading s (expect value) fun a => value = some a := by
  cases value with
  | none => exact .crashed
  | some a => exact .pure rfl

end Reading

section Plan

variable {s : World} {status : LiveStatus} {input : ConcatInput}

/-- A member plan repeats what the status says of the member. -/
def Describes (status : LiveStatus) (number : PrNumber) (member : ConcatMemberPlan) : Prop :=
  ∃ candidate : PullRequestSnapshot,status.analysis.pullRequests[number]? = some candidate ∧
    member.pr = number ∧ member.branch = candidate.head.name ∧ member.oldHeadOid = candidate.head.oid ∧
    member.oldBase = candidate.base

structure PlansFrom (status : LiveStatus) (input : ConcatInput) (plan : ConcatPlan) : Prop where
  source : plan.sourceCaravan = input.sourceHeadPr
  tail : plan.targetMembers.getLast? = some input.targetTailPr
  ordering : plan.newOrdering = plan.targetMembers ++ plan.sourceMembers
  caravan : ∃ c,status.analysis.fleet.caravan plan.sourceCaravan = some c ∧ c.members = plan.sourceMembers
  members : List.Forall₂ (Describes status) plan.sourceMembers plan.members
  first : ∀ member,plan.members.head? = some member → ∃ tail : PullRequestSnapshot,
    status.analysis.pullRequests[input.targetTailPr]? = some tail ∧ member.targetPr = tail.number ∧
      member.targetBranch = tail.head.name

theorem required_ok {α : Type} {value : Option α} {error : ConcatError} {a : α}
    (h : required value error = .ok a) : value = some a := by
  cases value with
  | none => cases h
  | some b =>
    cases h
    rfl

theorem selectCaravans_ok {c : Caravan × Caravan} (h : selectCaravans status input = .ok c) :
    status.analysis.fleet.caravan input.sourceHeadPr = some c.1 ∧ c.1.id = input.sourceHeadPr ∧
      c.2.members.getLast? = some input.targetTailPr := by
  unfold selectCaravans at h
  rw [Guard.refuse_bind_eq_ok] at h
  obtain ⟨source,hsource,h⟩ := Guard.bind_eq_ok.mp h.2
  obtain ⟨target,htarget,h⟩ := Guard.bind_eq_ok.mp h
  rw [Guard.refuse_bind_eq_ok,Guard.refuse_bind_eq_ok] at h
  obtain ⟨_,_,h⟩ := Guard.bind_eq_ok.mp h.2.2
  obtain ⟨_,_,h⟩ := Guard.bind_eq_ok.mp h
  cases h
  have hid := List.find?_some (required_ok hsource)
  have htail := List.find?_some (required_ok htarget)
  rw [decide_eq_true_eq] at hid htail
  exact ⟨required_ok hsource,hid,htail⟩

theorem memberPlans_ok {source : PrNumber} {numbers : List PrNumber} {predecessor : PullRequestSnapshot}
    {plans : List (ConcatMemberPlan × BranchSnapshot)}
    (h : memberPlans status source predecessor numbers = .ok plans) :
    List.Forall₂ (Describes status) numbers (plans.map Prod.fst) ∧
      ∀ member,(plans.map Prod.fst).head? = some member →
        member.targetPr = predecessor.number ∧ member.targetBranch = predecessor.head.name := by
  induction numbers generalizing predecessor plans with
  | nil =>
    cases h
    exact ⟨.nil,fun _ h => nomatch h⟩
  | cons number rest ih =>
    unfold memberPlans at h
    obtain ⟨candidate,hcandidate,h⟩ := Guard.bind_eq_ok.mp h
    rw [Guard.refuse_bind_eq_ok] at h
    obtain ⟨others,hothers,h⟩ := Guard.bind_eq_ok.mp h.2
    cases h
    refine ⟨.cons ⟨candidate,required_ok hcandidate,rfl,rfl,rfl,rfl⟩ (ih hothers).1,?_⟩
    intro member hmember
    cases hmember
    exact ⟨rfl,rfl⟩

theorem endpoints_ok {ends : PullRequestSnapshot × PullRequestSnapshot}
    (h : endpoints status input = .ok ends) :
    status.analysis.pullRequests[input.targetTailPr]? = some ends.2 := by
  unfold endpoints at h
  obtain ⟨target,htarget,h⟩ := Guard.bind_eq_ok.mp h
  obtain ⟨source,_,h⟩ := Guard.bind_eq_ok.mp h
  rw [Guard.refuse_bind_eq_ok] at h
  cases h.2
  exact required_ok htarget

theorem reading_plan (w : ConcatWire) (status : LiveStatus) (input : ConcatInput) :
    Reading s (planFromStatus w status input) (PlansFrom status input) := by
  unfold planFromStatus
  refine .bind (.ofResult fun _ _ => trivial : Reading s _ fun _ => True) fun _ _ => ?_
  refine .bind (.ofResult fun _ h => h) fun caravans hcaravans => ?_
  refine .bind (.ofResult fun _ h => h) fun ends hends => ?_
  refine .bind (reading_any rfl) fun _ _ => ?_
  refine .bind (reading_any rfl) fun report _ => ?_
  refine .bind (.refuseIf _ _) fun _ _ => ?_
  refine .bind (.ofResult fun _ h => h) fun members hmembers => .pure ?_
  obtain ⟨hsource,hid,htail⟩ := selectCaravans_ok hcaravans
  obtain ⟨hdescribes,hfirst⟩ := memberPlans_ok hmembers
  refine ⟨hid,htail,rfl,⟨caravans.1,?_,rfl⟩,hdescribes,?_⟩
  · exact (congrArg status.analysis.fleet.caravan hid).trans hsource
  · exact fun member hmember => ⟨ends.2,endpoints_ok hends,hfirst member hmember⟩

end Plan

section Prepared

variable {s : World} {status : LiveStatus}

/-- A prepared member: its plan repeats what the status says of it, under a lease on its head. -/
structure PreparedFor (status : LiveStatus) (number : PrNumber) (item : PreparedRebase) : Prop where
  described : ∃ candidate : PullRequestSnapshot,status.analysis.pullRequests[number]? = some candidate ∧
    item.plan.pr = candidate.number ∧ item.plan.branch = candidate.head.name ∧
    item.plan.oldHeadOid = candidate.head.oid
  lease : item.plan.lease = ⟨item.plan.branch,item.plan.oldHeadOid⟩
  satisfied : item.plan.alreadySatisfied = decide (item.plan.newHeadOid = item.plan.oldHeadOid)
  valid : PhysicalRebase.validateOid item.plan.oldHeadOid = .ok ()

theorem mapError_ok {ε ε' α : Type} {f : ε → ε'} {r : Except ε α} {a : α}
    (h : r.mapError f = .ok a) : r = .ok a := by
  cases r with
  | error e => cases h
  | ok b =>
    cases h
    rfl

theorem preconditions_valid {repository : RepositoryId} {candidate : PullRequestSnapshot}
    {rangeSource : PlannedRangeBase} {newBase : PlannedBase} {workflowSource : BranchSnapshot} {u : Unit}
    (h : PhysicalRebase.preconditions repository candidate rangeSource newBase workflowSource = .ok u) :
    PhysicalRebase.validateOid candidate.head.oid = .ok () := by
  unfold PhysicalRebase.preconditions at h
  rw [Guard.refuse_bind_eq_ok] at h
  obtain ⟨_,_,h⟩ := Guard.bind_eq_ok.mp h.2
  obtain ⟨_,_,h⟩ := Guard.bind_eq_ok.mp h
  exact (Guard.unit_bind_eq_ok.mp h).1

theorem reading_candidate (repository : RepositoryId) (repositoryPath : String)
    (workflowSource : BranchSnapshot) {number : PrNumber} {candidate : PullRequestSnapshot}
    (rangeSource : PlannedRangeBase) (newBase : PlannedBase)
    (reason : PhysicalRebase.BranchRewriteReason)
    (hcandidate : status.analysis.pullRequests[number]? = some candidate) :
    Reading s (prepareCandidate repository repositoryPath workflowSource candidate rangeSource newBase reason)
      (PreparedFor status number) := by
  unfold prepareCandidate
  refine .bind (.ofResult fun _ h => h) fun _ hchecked => ?_
  refine .bind (reading_any rfl) fun facts _ => .pure ?_
  exact ⟨⟨candidate,hcandidate,rfl,rfl,rfl⟩,rfl,rfl,preconditions_valid (mapError_ok hchecked)⟩

theorem reading_members (repository : RepositoryId) (repositoryPath : String)
    (workflowSource : BranchSnapshot) (target : PlannedBase)
    (range : PullRequestSnapshot → PlannedRangeBase) (members : List (PrNumber × ConcatMemberPlan)) :
    Reading s (prepareMembers repository repositoryPath workflowSource status target range members)
      (List.Forall₂ (PreparedFor status) (members.map Prod.fst)) := by
  induction members generalizing target range with
  | nil => exact .pure .nil
  | cons member rest ih =>
    unfold prepareMembers
    refine .bind reading_expect fun candidate hcandidate => ?_
    refine .bind (reading_candidate _ _ _ _ _ _ hcandidate) fun item hitem => ?_
    exact .bind (ih _ _) fun items hitems => .pure (.cons hitem hitems)

theorem reading_concat {repositoryPath : String} {input : ConcatInput} {plan : ConcatPlan}
    (h : PlansFrom status input plan) (first : ConcatMemberPlan) :
    Reading s (prepareConcat repositoryPath status plan first)
      (List.Forall₂ (PreparedFor status) plan.sourceMembers) := by
  unfold prepareConcat
  refine .bind reading_expect fun source hsource => ?_
  refine .bind reading_expect fun tail _ => ?_
  apply (reading_members _ _ _ _ _ _).mono
  intro items hitems
  obtain ⟨c,hc,hmembers⟩ := h.caravan
  rw [hc,Option.some.injEq] at hsource
  have hlength : source.members.length ≤ plan.members.length := by
    rw [← hsource,hmembers,h.members.length_eq]
  rw [List.map_fst_zip hlength,← hsource,hmembers] at hitems
  exact hitems

end Prepared

section Heads

variable {heads before : Store String CommitOid} {items : List PreparedRebase}

def AtOld (heads : Store String CommitOid) (items : List PreparedRebase) : Prop :=
  ∀ item ∈ items,heads item.plan.branch = some item.plan.oldHeadOid

def AtNew (heads : Store String CommitOid) (items : List PreparedRebase) : Prop :=
  ∀ item ∈ items,heads item.plan.branch = some item.plan.newHeadOid

/-- What every plan keeps: the lease is on its old head, which is a full object name. -/
structure Leased (item : PreparedRebase) : Prop where
  lease : item.plan.lease = ⟨item.plan.branch,item.plan.oldHeadOid⟩
  satisfied : item.plan.alreadySatisfied = decide (item.plan.newHeadOid = item.plan.oldHeadOid)
  valid : PhysicalRebase.validateOid item.plan.oldHeadOid = .ok ()

structure Verified (before : Store String CommitOid) (items : List PreparedRebase) : Prop where
  leased : ∀ item ∈ items,Leased item
  distinct : (items.map (·.plan.branch)).Nodup
  atOld : AtOld before items

theorem headMove_keys (items : List PreparedRebase) :
    (items.map headMove).map (·.key) = items.map (·.plan.branch) := by
  rw [List.map_map]
  rfl

theorem changed_moves (h : ∀ item ∈ items,Leased item) : (PhysicalRebase.changed items).map headMove =
    (items.map headMove).filter fun m => decide (m.new ≠ m.old) := by
  rw [List.filter_map]
  unfold PhysicalRebase.changed
  congr 1
  apply List.filter_congr
  intro item hitem
  show (!item.plan.alreadySatisfied) = decide (item.plan.newHeadOid ≠ item.plan.lease.expected)
  rw [(h item hitem).satisfied,(h item hitem).lease]
  simp

theorem rollback_moves (h : ∀ item ∈ items,Leased item) : (PhysicalRebase.changed items).map rollbackMove =
    ((PhysicalRebase.changed items).map headMove).map AtomicRefs.Move.undo := by
  rw [List.map_map]
  apply List.map_congr_left
  intro item hitem
  have hlease := (h item (List.mem_of_mem_filter hitem)).lease
  show rollbackMove item = (headMove item).undo
  unfold rollbackMove headMove AtomicRefs.Move.undo
  rw [hlease]

namespace Verified

theorem keys (h : Verified before items) : ((items.map headMove).map (·.key)).Nodup := by
  rw [headMove_keys]
  exact h.distinct

theorem ready (h : Verified before items) : Ready before (items.map headMove) := by
  intro m hm
  obtain ⟨item,hitem,rfl⟩ := List.mem_map.mp hm
  show before item.plan.branch = some item.plan.lease.expected
  rw [(h.leased item hitem).lease]
  exact h.atOld item hitem

theorem moved_changed (h : Verified before items) :
    moved before ((PhysicalRebase.changed items).map headMove) = moved before (items.map headMove) := by
  rw [changed_moves h.leased]
  apply AtomicRefs.moved_filter h.keys h.ready
  intro m _ hm
  rw [decide_eq_false_iff_not,not_not] at hm
  exact hm.symm

theorem atNew (h : Verified before items) : AtNew (moved before (items.map headMove)) items := fun _ hitem =>
  AtomicRefs.moved_mem h.keys (List.mem_map_of_mem hitem)

theorem moved_eq (h : Verified before items) (hnew : AtNew before items) :
    moved before (items.map headMove) = before := by
  have hmoved := AtomicRefs.moved_filter (p := fun _ => false) h.keys h.ready (by
    intro m hm _
    obtain ⟨item,hitem,rfl⟩ := List.mem_map.mp hm
    have hold := h.ready (headMove item) hm
    exact Option.some.inj (hold.symm.trans (hnew item hitem)))
  rw [List.filter_false] at hmoved
  exact hmoved.symm

/-- A rewritten store whose heads are all old is the store before the rewrite. -/
theorem moved_atOld (h : Verified before items) (hold : AtOld (moved before (items.map headMove)) items) :
    moved before (items.map headMove) = before := by
  apply h.moved_eq
  intro item hitem
  rw [h.atOld item hitem,← hold item hitem]
  exact h.atNew item hitem

theorem moved_of_satisfied (h : Verified before items)
    (hsatisfied : (PhysicalRebase.changed items).isEmpty = true) :
    moved before (items.map headMove) = before := by
  rw [← h.moved_changed,List.isEmpty_iff.mp hsatisfied]
  rfl

theorem restored (h : Verified before items) :
    moved (moved before (items.map headMove)) ((PhysicalRebase.changed items).map rollbackMove) =
      before := by
  have hkeys : (((PhysicalRebase.changed items).map headMove).map (·.key)).Sublist
      ((items.map headMove).map (·.key)) := by
    rw [changed_moves h.leased]
    exact List.filter_sublist.map _
  have hready : Ready before ((PhysicalRebase.changed items).map headMove) := by
    rw [changed_moves h.leased]
    exact fun m hm => h.ready m (List.mem_of_mem_filter hm)
  rw [rollback_moves h.leased,← h.moved_changed]
  exact AtomicRefs.moved_undo (h.keys.sublist hkeys) hready

end Verified

end Heads

section Atomic

variable {s : World} {items : List PreparedRebase}

structure Looked (s t : World) : Prop where
  heads : t.heads = s.heads
  bases : t.bases = s.bases
  unconfirmed : t.unconfirmed = s.unconfirmed

def Readable (s : World) (branch : String) : Prop :=
  ∃ oid,s.heads branch = some oid ∧ PhysicalRebase.validateOid oid = .ok ()

theorem remoteHeadOid_gives (branch : String) : Gives Step Always (remoteHeadOid branch)
    (fun t oid => Looked s t ∧ t.gitFailed = false ∧ s.heads branch = some oid)
    (fun t _ => Looked s t ∧ (t.gitFailed = true ∨ ¬Readable s branch)) s := by
  unfold remoteHeadOid
  refine .bind (K := fun t value => Looked s t ∧ t.gitFailed = false ∧ value = s.heads branch) ?_ ?_
  · refine .query trivial ?_ ?_
    · intro a t value ht hvalue
      cases ht with
      | headFailed error => cases hvalue
      | head =>
        cases hvalue
        exact ⟨⟨rfl,rfl,rfl⟩,rfl,rfl⟩
    · intro a t error ht hvalue
      cases ht with
      | headFailed => exact ⟨⟨rfl,rfl,rfl⟩,.inl rfl⟩
      | head => cases hvalue
  · intro t value hvalue
    obtain ⟨hlooked,hanswered,hvalue⟩ := hvalue
    rw [hvalue]
    cases hhead : s.heads branch with
    | none =>
      refine .bind (K := fun _ _ => False) (.ofResult ?_ ?_) fun _ _ h => h.elim
      · intro u hu
        cases hu
      · rintro e _
        refine ⟨hlooked,.inr ?_⟩
        rintro ⟨oid,hoid,_⟩
        rw [hhead] at hoid
        cases hoid
    | some oid =>
      refine .bind (K := fun t' _ => t' = t) (.ofResult (fun _ _ => rfl) ?_) ?_
      · intro e he
        refine ⟨hlooked,.inr ?_⟩
        rintro ⟨oid',hoid,hvalid⟩
        rw [hhead,Option.some.injEq] at hoid
        rw [← hoid] at hvalid
        have herror : (PhysicalRebase.validateOid oid).mapError ofFields = .error e := he
        rw [hvalid] at herror
        cases herror
      · intro t' _ ht'
        rw [ht']
        exact .pure ⟨hlooked,hanswered,rfl⟩

theorem compareHeads_gives (items : List PreparedRebase) : Gives Step Always (compareHeads items)
    (fun t r => Looked s t ∧ (s.gitFailed = false ∨ items ≠ [] → t.gitFailed = false) ∧
      (r.1 = true ↔ AtOld s.heads items) ∧ (r.2 = true ↔ AtNew s.heads items))
    (fun t _ => Looked s t ∧ (t.gitFailed = true ∨ ∃ item ∈ items,¬Readable s item.plan.branch)) s := by
  induction items generalizing s with
  | nil =>
    refine .pure ⟨⟨rfl,rfl,rfl⟩,?_,?_,?_⟩
    · exact fun h => h.resolve_right fun hne => hne rfl
    · exact ⟨fun _ _ h => (nomatch h),fun _ => rfl⟩
    · exact ⟨fun _ _ h => (nomatch h),fun _ => rfl⟩
  | cons item rest ih =>
    unfold compareHeads
    refine .bind ((remoteHeadOid_gives item.plan.branch).mono (fun _ _ h => h) ?_) ?_
    · exact fun t _ h => ⟨h.1,h.2.imp id fun hunreadable => ⟨item,by simp,hunreadable⟩⟩
    · rintro t oid ⟨hlooked,hanswered,hhead⟩
      refine .bind (ih.mono (fun _ _ h => h) ?_) ?_
      · intro u _ ⟨hlooked',hfailed⟩
        refine ⟨⟨hlooked'.heads.trans hlooked.heads,hlooked'.bases.trans hlooked.bases,
          hlooked'.unconfirmed.trans hlooked.unconfirmed⟩,hfailed.imp id ?_⟩
        rintro ⟨other,hother,hunreadable⟩
        refine ⟨other,List.mem_cons_of_mem _ hother,?_⟩
        rintro ⟨oid',hoid,hvalid⟩
        exact hunreadable ⟨oid',hlooked.heads ▸ hoid,hvalid⟩
      · rintro u r ⟨hlooked',hanswered',hold,hnew⟩
        rw [hlooked.heads] at hold hnew
        refine .pure ⟨⟨hlooked'.heads.trans hlooked.heads,hlooked'.bases.trans hlooked.bases,
          hlooked'.unconfirmed.trans hlooked.unconfirmed⟩,fun _ => hanswered' (.inl hanswered),?_,?_⟩
        · show (decide (oid = item.plan.oldHeadOid) && r.1) = true ↔ _
          unfold AtOld at hold ⊢
          rw [Bool.and_eq_true,decide_eq_true_eq,hold,List.forall_mem_cons,hhead,Option.some.injEq]
        · show (decide (oid = item.plan.newHeadOid) && r.2) = true ↔ _
          unfold AtNew at hnew ⊢
          rw [Bool.and_eq_true,decide_eq_true_eq,hnew,List.forall_mem_cons,hhead,Option.some.injEq]

theorem classify_gives (hitems : items ≠ []) : Gives Step Always (classifyAtomicRemoteState items)
    (fun t state => Looked s t ∧ t.gitFailed = false ∧ (state = .allOld ↔ AtOld s.heads items) ∧
      (state = .allNew → AtNew s.heads items))
    (fun t _ => Looked s t ∧ (t.gitFailed = true ∨ ∃ item ∈ items,¬Readable s item.plan.branch)) s := by
  unfold classifyAtomicRemoteState
  refine .bind (compareHeads_gives items) ?_
  rintro t ⟨old,new⟩ ⟨hlooked,hanswered,hold,hnew⟩
  refine .pure ⟨hlooked,hanswered (.inr hitems),?_,?_⟩
  · rw [← hold]
    cases old <;> cases new <;> simp
  · rw [← hnew]
    cases old <;> cases new <;> simp

structure Pushed (s t : World) (moves : List HeadMove) (answered : Bool) : Prop where
  exchange : Exchange s.heads moves answered t.heads
  bases : t.bases = s.bases
  unconfirmed : t.unconfirmed = s.unconfirmed
  gitFailed : t.gitFailed = !answered

theorem push_gives (moves : List HeadMove) : Gives Step Always (push moves)
    (fun t _ => Pushed s t moves true) (fun t _ => Pushed s t moves false) s := by
  refine .query trivial ?_ ?_
  · intro a t u ht hu
    cases ht with
    | pushed hexchange => exact ⟨hexchange,rfl,rfl,rfl⟩
    | pushFailed error hexchange => cases hu
  · intro a t e ht he
    cases ht with
    | pushed hexchange => cases he
    | pushFailed error hexchange => exact ⟨hexchange,rfl,rfl,rfl⟩

theorem reading_remoteHead (branch : String) (expected : CommitOid) :
    Reading s (verifyRemoteHead branch expected) fun _ => s.heads branch = some expected := by
  unfold verifyRemoteHead
  refine .bind (reading_head branch) fun actual hactual => (Keeps.refuseIf _ _).mono fun _ h => ?_
  rw [decide_eq_false_iff_not,not_not] at h
  exact hactual.symm.trans h

theorem reading_verify (item : PreparedRebase) : Reading s (verifyPrepared item) fun _ =>
    s.heads item.plan.branch = some item.plan.oldHeadOid := by
  unfold verifyPrepared
  refine .bind (reading_any rfl) fun _ _ => ?_
  refine .bind (.refuseIf _ _) fun _ _ => ?_
  refine .bind (reading_remoteHead _ _) fun _ hhead => ?_
  have hrange : Reading s (verifyRange item.plan) fun _ => True := by
    unfold verifyRange
    split
    · split
      · exact .pure trivial
      · exact (reading_remoteHead _ _).mono fun _ _ => trivial
    · exact reading_any rfl
  have htarget : Reading s (verifyTarget item.plan) fun _ => True := by
    unfold verifyTarget
    split
    · exact (reading_remoteHead _ _).mono fun _ _ => trivial
    · exact .pure trivial
  refine .bind hrange fun _ _ => .bind htarget fun _ _ => ?_
  exact (reading_any rfl).mono fun _ _ => hhead

theorem reading_verifyAll (repositoryPath : String) (branches : List String) (items : List PreparedRebase) :
    Reading s (verifyAll repositoryPath branches items) fun _ =>
      (items.map (·.plan.branch)).Nodup ∧ AtOld s.heads items ∧
        ∀ item ∈ items,item.plan.branch ∉ branches := by
  induction items generalizing branches with
  | nil => exact .pure ⟨.nil,fun _ h => (nomatch h),fun _ h => (nomatch h)⟩
  | cons item rest ih =>
    unfold verifyAll
    refine .bind (.refuseIf _ _) fun _ _ => ?_
    refine .bind (.refuseIf _ _) fun _ hfresh => ?_
    refine .bind (reading_verify item) fun _ hhead => (ih _).mono ?_
    rintro _ ⟨hdistinct,hold,hothers⟩
    refine ⟨?_,?_,?_⟩
    · rw [List.map_cons,List.nodup_cons]
      refine ⟨?_,hdistinct⟩
      intro hin
      obtain ⟨other,hother,hbranch⟩ := List.mem_map.mp hin
      exact hothers other hother (by simp [hbranch])
    · intro other hother
      rcases List.mem_cons.mp hother with rfl | hother
      · exact hhead
      · exact hold other hother
    · intro other hother
      rcases List.mem_cons.mp hother with rfl | hother
      · exact of_decide_eq_false hfresh
      · exact fun hin => hothers other hother (List.mem_cons_of_mem _ hin)

/-- Every branch of the items is at its planned head, and nothing else changed. -/
structure Rewritten (s t : World) (items : List PreparedRebase) : Prop where
  verified : Verified s.heads items
  heads : t.heads = moved s.heads (items.map headMove)
  bases : t.bases = s.bases
  nonempty : items ≠ []

/-- An error that leaves the bases alone, and the heads too if it says so. -/
def Stopped (s t : World) (e : ConcatError) : Prop :=
  t.bases = s.bases ∧ (mutated e = some false → t.heads = s.heads)

theorem apply_gives (hleased : ∀ item ∈ items,Leased item) :
    Gives Step Always (applyPreparedAtomically items)
      (fun t receipt => receipt.receipts = items.map (fun item => PhysicalRebase.receiptFromPlan item.plan) ∧
        Rewritten s t items) (Stopped s) s := by
  unfold applyPreparedAtomically
  cases items with
  | nil => exact .throw ⟨rfl,fun _ => rfl⟩
  | cons first rest =>
    have hne : first::rest ≠ [] := List.cons_ne_nil first rest
    refine .bind (((reading_verifyAll _ _ _).gives s (.refl s)).mono (fun _ _ h => h)
      fun t _ h => ⟨h.bases,fun _ => h.heads⟩) ?_
    rintro t _ ⟨hsame,hdistinct,hold,_⟩
    have hverified : Verified s.heads (first::rest) := ⟨hleased,hdistinct,hold⟩
    split
    · next hsatisfied =>
      refine .pure ⟨rfl,hverified,?_,hsame.bases,hne⟩
      rw [hverified.moved_of_satisfied hsatisfied]
      exact hsame.heads
    · refine .bind (push_gives _).attempt ?_
      intro u r hpush
      cases r with
      | ok _ =>
        refine .pure ⟨rfl,hverified,?_,hpush.bases.trans hsame.bases,hne⟩
        rw [hpush.exchange.of_answered,hsame.heads]
        exact hverified.moved_changed
      | error error =>
        have hmoved := hpush.exchange.cases_moved
        rw [hsame.heads,hverified.moved_changed] at hmoved
        refine .bind (classify_gives hne).attempt ?_
        intro v r hclass
        have stopped {e : ConcatError} (hlooked : Looked u v) (he : mutated e = none) : Stopped s v e :=
          ⟨hlooked.bases.trans (hpush.bases.trans hsame.bases),fun h => by rw [he] at h; cases h⟩
        cases r with
        | error _ => exact .throw (stopped hclass.1 rfl)
        | ok state =>
          obtain ⟨hlooked,_,_,hnew⟩ := hclass
          cases state with
          | allOld => exact .throw (stopped hlooked rfl)
          | mixed => exact .throw (stopped hlooked rfl)
          | allNew =>
            refine .pure ⟨rfl,hverified,?_,hlooked.bases.trans (hpush.bases.trans hsame.bases),hne⟩
            rw [hlooked.heads]
            rcases hmoved with hmoved | hmoved
            · rw [hmoved]
              exact (hverified.moved_eq (hmoved ▸ hnew rfl)).symm
            · exact hmoved

/-- What a rollback of the heads leaves: they are restored and Git confirmed it, or not both. -/
theorem rollback_gives {before : Store String CommitOid} (hverified : Verified before items)
    (hheads : s.heads = moved before (items.map headMove)) (hitems : items ≠ []) :
    Gives Step Always (rollbackPreparedAtomically items)
      (fun t _ => t.heads = before ∧ t.bases = s.bases ∧ t.unconfirmed = s.unconfirmed ∧
        (s.gitFailed = false → t.gitFailed = false))
      (fun t _ => t.bases = s.bases ∧ ¬(t.heads = before ∧ t.gitFailed = false)) s := by
  unfold rollbackPreparedAtomically
  have hnonempty : items.isEmpty = false := List.isEmpty_eq_false_iff.mpr hitems
  rw [hnonempty,if_neg Bool.false_ne_true]
  split
  · next hsatisfied =>
    refine .pure ⟨?_,rfl,rfl,id⟩
    rw [hheads]
    exact hverified.moved_of_satisfied hsatisfied
  · refine .bind (push_gives _).attempt ?_
    intro t r hpush
    cases r with
    | ok _ =>
      refine .pure ⟨?_,hpush.bases,hpush.unconfirmed,fun _ => hpush.gitFailed⟩
      rw [hpush.exchange.of_answered,hheads]
      exact hverified.restored
    | error error =>
      have hmoved := hpush.exchange.cases_moved
      rw [hheads,hverified.restored] at hmoved
      refine .bind (classify_gives hitems).attempt ?_
      intro u r hclass
      cases r with
      | error _ =>
        refine .throw ⟨hclass.1.bases.trans hpush.bases,?_⟩
        rintro ⟨hrestored,hanswered⟩
        rcases hclass.2 with hfailed | ⟨item,hitem,hunreadable⟩
        · rw [hanswered] at hfailed
          cases hfailed
        · -- the original heads are full object names
          apply hunreadable
          refine ⟨item.plan.oldHeadOid,?_,(hverified.leased item hitem).valid⟩
          rw [← hclass.1.heads,hrestored]
          exact hverified.atOld item hitem
      | ok state =>
        obtain ⟨hlooked,hanswered,hold,_⟩ := hclass
        have stuck (hstate : state ≠ .allOld) : u.bases = s.bases ∧ ¬(u.heads = before ∧ u.gitFailed = false) := by
          refine ⟨hlooked.bases.trans hpush.bases,?_⟩
          rintro ⟨hrestored,_⟩
          apply hstate
          rw [hold,← hlooked.heads,hrestored]
          exact hverified.atOld
        cases state with
        | allNew => exact .throw (stuck (by simp))
        | mixed => exact .throw (stuck (by simp))
        | allOld =>
          refine .pure ⟨?_,hlooked.bases.trans hpush.bases,hlooked.unconfirmed.trans hpush.unconfirmed,
            fun _ => hanswered⟩
          rw [hlooked.heads]
          rcases hmoved with hmoved | hmoved
          · rw [hmoved]
            exact hverified.moved_atOld (hmoved ▸ hold.mp rfl)
          · exact hmoved

end Atomic

section Membership

variable {s : World} {repository : RepositoryId}

theorem refetch_gives (number : PrNumber) : Gives Step Always (refetch repository number)
    (fun t p => t = { s with unconfirmed := false } ∧ p.number = number) (fun t _ => t = s) s := by
  refine .query trivial ?_ ?_
  · intro a t p ht hp
    cases ht with
    | refetched _ hnumber _ =>
      cases hp
      exact ⟨rfl,hnumber⟩
    | refetchFailed => cases hp
  · intro a t e ht he
    cases ht with
    | refetched => cases he
    | refetchFailed => rfl

/-- The base of one pull request is this one, everything else is as before. -/
structure Edited (s t : World) (number : PrNumber) (base : String) : Prop where
  heads : t.heads = s.heads
  bases : t.bases = Function.update s.bases number base
  gitFailed : t.gitFailed = false

theorem editBase_gives (number : PrNumber) (base : String) :
    Gives Step Always (editBase repository number base)
      (fun t _ => Edited s t number base ∧ t.unconfirmed = true)
      (fun t _ => t = s ∨ Edited s t number base ∧ t.unconfirmed = true) s := by
  refine .query trivial ?_ ?_
  · intro a t output ht houtput
    cases ht with
    | edited => exact ⟨⟨rfl,rfl,rfl⟩,rfl⟩
    | editLost => cases houtput
    | editRefused => cases houtput
  · intro a t e ht he
    cases ht with
    | edited => cases he
    | editLost => exact .inr ⟨⟨rfl,rfl,rfl⟩,rfl⟩
    | editRefused => exact .inl rfl

/-- A completed base edit is applied and read back. A failed one was not applied, or it was
and nothing confirmed it. -/
theorem setBase_gives (expected : PullRequestPrecondition) (base : String) :
    Gives Step Always (setBase repository expected base)
      (fun t receipt => Edited s t expected.number base ∧ t.unconfirmed = false ∧
        receipt.after.number = expected.number)
      (fun t _ => Same s t ∨ Edited s t expected.number base ∧ t.unconfirmed = true) s := by
  unfold setBase verifyPrecondition
  refine .bind (K := fun t _ => t = { s with unconfirmed := false }) ?_ ?_
  · refine .bind ((refetch_gives _).mono (fun _ _ h => h) ?_) ?_
    · rintro t _ rfl
      exact .inl (.refl _)
    · rintro t p ⟨ht,_⟩
      refine .bind (K := fun t _ => t = { s with unconfirmed := false }) (.refuseIf (fun _ => ht) ?_) ?_
      · intro _
        rw [ht]
        exact .inl ⟨rfl,rfl,fun _ => rfl⟩
      · exact fun _ _ ht => .pure ht
  · rintro t _ rfl
    refine .bind ((editBase_gives _ _).mono (fun _ _ h => h) ?_) ?_
    · rintro u _ (rfl | ⟨hedited,hunconfirmed⟩)
      · exact .inl ⟨rfl,rfl,fun _ => rfl⟩
      · exact .inr ⟨⟨hedited.heads,hedited.bases,hedited.gitFailed⟩,hunconfirmed⟩
    · rintro u _ ⟨hedited,hunconfirmed⟩
      refine .bind ((refetch_gives _).mono (fun _ _ h => h) ?_) ?_
      · rintro v _ rfl
        exact .inr ⟨⟨hedited.heads,hedited.bases,hedited.gitFailed⟩,hunconfirmed⟩
      · rintro v p ⟨rfl,hnumber⟩
        exact .pure ⟨⟨hedited.heads,hedited.bases,hedited.gitFailed⟩,rfl,hnumber⟩

end Membership

end Concat
end Cara
