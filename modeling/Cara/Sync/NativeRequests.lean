import Cara.Sync.Checkpoints

/-! Which requests each part of a native landing may make. -/
namespace Cara
namespace Sync

open Github (StackLandCheckpoint StackAsyncMergePlan StackEntryGeneration Wire)
open RequiredRuns (RequiredContextsRead HeadRunLineage)
open Prog (Only Uses)

/-- Reads and the one idempotent comment that a landing writes. -/
def Reading : SyncRequest → Prop
  | .refetchPullRequest .. | .branchRequiredContexts .. | .headRunLineage .. | .nowUnix
  | .ensureMarkedComment .. => True
  | _ => False

section Readings

variable {repository : RepositoryId}

theorem ask_uses {α : Type} {allowed : SyncRequest → Prop} {request : SyncRequest}
    {affectedPr : Option PrNumber} {value : SyncAnswer → Option α} (h : allowed request) :
    Uses allowed (ask request affectedPr value) := Uses.lift (call_only h)

theorem currentOf_uses {allowed : SyncRequest → Prop} (number : PrNumber) :
    Uses allowed (currentOf number) := by
  apply Uses.bind Uses.get
  intro p
  split
  · exact Uses.pure _
  · exact Uses.lift Only.crashed

theorem preconditionOf_uses {allowed : SyncRequest → Prop} (number : PrNumber) :
    Uses allowed (preconditionOf number) :=
  Uses.bind (currentOf_uses number) fun _ => Uses.pure _

theorem ensureMutationCapacity_uses {allowed : SyncRequest → Prop} (reserve : ℕ) :
    Uses allowed (ensureMutationCapacity reserve) := by
  apply Uses.bind Uses.get
  intro p
  split
  · exact Uses.pure _
  · exact Uses.throw _

theorem recordMergeWait_uses {allowed : SyncRequest → Prop} (number : PrNumber)
    (block : RootMergeBlock) (detail : Option String) :
    Uses allowed (recordMergeWait number block detail) := Uses.modify _

theorem refetchCiSnapshot_uses (number : PrNumber) :
    Uses Reading (refetchCiSnapshot repository number) := by
  apply Uses.bind (preconditionOf_uses number)
  intro expected
  apply Uses.bind (ask_uses trivial)
  intro observed
  dsimp only
  split
  · exact Uses.bind (Uses.modify _) fun _ => Uses.pure _
  · exact Uses.throw _

theorem branchRequiredContexts_uses (branch : String) (affectedPr : Option PrNumber) :
    Uses Reading (branchRequiredContexts repository branch affectedPr) :=
  Uses.bind (ask_uses trivial) fun _ => Uses.pure _

theorem assessWithLineage_uses (current : PullRequestSnapshot) (contexts : RequiredContextsRead)
    (lineage : Option HeadRunLineage) :
    Uses Reading (assessWithLineage current contexts lineage) := by
  apply Uses.bind (ask_uses trivial)
  intro now
  exact Uses.bind Uses.get fun _ => Uses.pure _

theorem assessRequiredRuns_uses (current : PullRequestSnapshot) (contexts : RequiredContextsRead) :
    Uses Reading (assessRequiredRuns repository current contexts) := by
  apply Uses.bind Uses.get
  intro p
  dsimp only
  split
  · split
    · exact assessWithLineage_uses _ _ _
    · exact Uses.bind (ask_uses trivial) fun _ => assessWithLineage_uses _ _ _
  · exact assessWithLineage_uses _ _ _

theorem ensureOperationComment_uses (number : PrNumber) (operation marker body : String) :
    Uses Reading (ensureOperationComment repository number operation marker body) := by
  apply Uses.bind (ensureMutationCapacity_uses 1)
  intro _
  apply Uses.bind (preconditionOf_uses number)
  intro expected
  apply Uses.bind (Uses.lift (call_only trivial))
  intro receipt
  split
  · exact Uses.modify _
  · exact Uses.modify _

end Readings

section Landing

variable (w : SyncWire) (status : StatusOutput)

theorem selectedReady_uses (caravanKey : PrNumber) (policy : RequiredContextsRead)
    (held : List PrNumber) (entries : List StackEntryGeneration) :
    Uses Reading (selectedReady status caravanKey policy held entries) := by
  induction entries with
  | nil => exact Uses.pure _
  | cons entry entries ih =>
    apply Uses.bind (refetchCiSnapshot_uses entry.pr)
    intro current
    split
    · apply Uses.bind (assessRequiredRuns_uses current policy)
      intro assessment
      apply Uses.bind (Uses.modify _)
      intro _
      split
      · exact ih
      · exact Uses.pure _
    · exact Uses.pure _

theorem nativeRequiredReady_uses (plan : StackAsyncMergePlan) :
    Uses Reading (nativeRequiredReady status plan) := by
  apply Uses.bind Uses.get
  intro p
  split
  · exact Uses.pure _
  · apply Uses.bind (branchRequiredContexts_uses _ none)
    intro policy
    split
    · exact Uses.pure _
    · apply Uses.bind (selectedReady_uses status _ policy _ plan.selected)
      intro ready
      split
      · exact Uses.bind (branchRequiredContexts_uses _ none) fun _ => Uses.pure _
      · exact Uses.pure _

theorem auditSelected_uses (checkpoint : StackLandCheckpoint) (entries : List StackEntryGeneration) :
    Uses Reading (auditSelected w status checkpoint entries) := by
  induction entries with
  | nil => exact Uses.pure _
  | cons entry entries ih => exact Uses.bind (ensureOperationComment_uses _ _ _ _) fun _ => ih

end Landing

section Reconcile

variable (w : Wire) (status : StatusOutput) {allowed : SyncRequest → Prop}

/-- Requests about one key of the pass: it touches that checkpoint and its retired copies. -/
structure Serves (allowed : SyncRequest → Prop) (key : String) : Prop where
  load : allowed (.load key)
  archive : ∀ operation c,allowed (.archive operation c)
  write : ∀ c,allowed (.write key c)
  retired : ∀ c c',allowed (.write (retiredKey key c) c')
  remove : allowed (.remove key)
  poll : ∀ c,allowed (.nativeStackLandPoll status.repository c)
  release : ∀ c,c.phase = .terminal → allowed (.nativeStackLandRelease status.repository c)
  reobserve : ∀ c,allowed (.nativeStackLandReobserveReleased status.repository c)

variable {status}

theorem landResult_only {α : Type} (r : Except Github.StackLandError α) :
    Only allowed (landResult w r) := Only.ofResult _

theorem advancePending_only {key : String} (h : Serves status allowed key) (c : StackLandCheckpoint) :
    Only allowed (advancePending w status c) := by
  unfold advancePending
  cases hphase : c.phase
  case submitting => exact Only.bind (landResult_only w _) fun _ => Only.pure _
  case submitted => exact Only.bind (call_only (h.poll c)) fun _ => Only.pure _
  case terminal => exact Only.bind (call_only (h.release c hphase)) fun _ => Only.pure _
  all_goals exact Only.pure _

theorem pollAndFinalize_only {key : String} (h : Serves status allowed key) (rounds : ℕ)
    (c : StackLandCheckpoint) : Only allowed (pollAndFinalize w status key rounds c) := by
  induction rounds generalizing c with
  | zero => exact Only.pure _
  | succ rounds ih =>
    apply Only.bind (advancePending_only w h c)
    intro next
    split
    · exact Only.pure _
    case h_2 next =>
      apply Only.bind (saveNative_only (h.archive _ _) (h.write _))
      intro _
      split
      · exact Only.pure _
      · exact ih next

theorem reobserve_only {key : String} (h : Serves status allowed key) (c : StackLandCheckpoint) :
    Only allowed (reobserve status key c) := by
  unfold reobserve
  split
  · apply Only.bind (call_only (h.reobserve c))
    intro observed
    split
    · exact Only.pure _
    · exact Only.bind (saveNative_only (h.archive _ _) (h.write _)) fun _ => Only.pure _
  · exact Only.pure _

theorem retire_only {key : String} (h : Serves status allowed key) (c : StackLandCheckpoint) :
    Only allowed (retire w status key c) := by
  apply Only.bind (reobserve_only h c)
  intro observed
  dsimp only
  split
  · apply Only.bind (saveNative_only (h.archive _ _) (h.retired _ _))
    intro _
    exact Only.bind (call_only h.remove) fun _ => Only.pure _
  · exact Only.bind (saveNative_only (h.archive _ _) (h.write _)) fun _ => Only.pure _

theorem reconcileCheckpoint_only {key : String} (h : Serves status allowed key) :
    Only allowed (reconcileCheckpoint w status key) := by
  apply Only.bind (call_only h.load)
  intro stored
  split
  · exact Only.pure _
  · split
    · exact Only.pure _
    · apply Only.bind (saveNative_only (h.archive _ _) (h.write _))
      intro _
      apply Only.bind (pollAndFinalize_only w h 5 _)
      intro c
      split
      · exact retire_only w h c
      · exact Only.pure _

theorem liveLockNames_only (hload : ∀ key,allowed (.load key)) (keys : List String) :
    Only allowed (liveLockNames keys) := by
  induction keys with
  | nil => exact Only.pure _
  | cons key keys ih =>
    apply Only.bind (call_only (hload key))
    intro c
    exact Only.bind ih fun _ => Only.pure _

theorem deleteOrphans_only {live : List String}
    (hdelete : ∀ lock : Github.StackBranchLockGeneration,lock.name ∉ live →
      allowed (.deleteStackBranchLock status.repository lock))
    (locks : List Github.StackBranchLockGeneration) :
    Only allowed (deleteOrphans status live locks) := by
  induction locks with
  | nil => exact Only.pure _
  | cons lock locks ih =>
    unfold deleteOrphans
    split
    · exact ih
    case isFalse hlive =>
      exact Only.bind (call_only (hdelete lock hlive)) fun _ => Only.bind ih fun _ => Only.pure _

end Reconcile

end Sync
end Cara
