import Cara.Sync.Progress

/-! Native Stack landing across ticks. A tick first advances and retires the durable landing
checkpoints of this checkout and deletes lock rulesets nobody owns; later it lands one
ready prefix, each phase persisted before the next provider write. -/
namespace Cara
namespace Sync

open Github (StackLandCheckpoint StackAsyncMergePlan StackEntryGeneration StackGeneration
  StackMergeStatus Wire)
open Prog (mapError ofResult)

def landKey (stackNumber : ℕ) : String := "land-" ++ toString stackNumber

section Converged

variable (status : StatusOutput) (plan : StackAsyncMergePlan)

def mergedRow (pr : PrNumber) (entry : Github.StackPullRequest) : Bool :=
  decide (entry.number = pr) && entry.mergedAt.isSome &&
    (Text.eqIgnoreAsciiCase entry.state "closed" || Text.eqIgnoreAsciiCase entry.state "merged")

/-- Merged by its own snapshot or by the row of the landed Stack. -/
def mergedFact (pr : PrNumber) : Bool :=
  (status.analysis.pullRequests[pr]?).any (·.isMerged) ||
    (status.stackBackend.nativeStacks.find? fun native =>
      decide (native.stack.number = plan.before.number)).any fun native =>
        native.stack.pullRequests.any (mergedRow pr)

def sameBranch (a b : BranchSnapshot) : Bool := decide (a.repository = b.repository ∧ a.name = b.name)

/-- Open pull requests, each based on the branch of the one before. -/
def linearFrom (parent : BranchSnapshot) : List PullRequestSnapshot → Bool
  | [] => true
  | pull::pulls =>
      decide (pull.state = .open) && sameBranch pull.base parent && linearFrom pull.head pulls

def openRow (entry : Github.StackPullRequest) : Bool := Text.eqIgnoreAsciiCase entry.state "open"

/-- The provider Stack of the surviving suffix is exact; a single survivor needs none. -/
def suffixStackExact (surviving : List PrNumber) : Bool :=
  match surviving with
  | [only] => !status.stackBackend.nativeStacks.any fun native =>
      (native.stack.pullRequests.any fun entry => decide (entry.number = only) && openRow entry) &&
        decide (native.consistency ≠ .exact)
  | _ => status.stackBackend.nativeStacks.any fun native =>
      decide (native.consistency = .exact) && native.ancestry.all (·.linear) &&
        decide ((native.stack.pullRequests.filter openRow).map (·.number) = surviving)

/-- The surviving suffix is rooted at the default branch, linear and one active caravan. -/
def suffixConverged (surviving : List PrNumber) : Bool :=
  surviving.isEmpty ||
    (surviving.mapM fun pr => status.analysis.pullRequests[pr]?).any fun pulls =>
      linearFrom status.analysis.fleet.defaultBranch pulls &&
      (status.analysis.fleet.caravans.any fun c => decide (c.members = surviving) && !c.parked) &&
      suffixStackExact status surviving

def nativeStackLandingConverged (checkpoint : StackLandCheckpoint) : Bool :=
  let plan := checkpoint.plan
  let selected := plan.selected.map (·.pr)
  let merged (entry : StackEntryGeneration) := mergedFact status plan entry.pr
  let landed := plan.before.topology.entries.takeWhile merged
  let rest := plan.before.topology.entries.dropWhile merged
  decide (checkpoint.phase = .released) && checkpoint.lockRelease.isSome &&
    decide (checkpoint.terminalStatus = some .merged ∨ checkpoint.terminalStatus = some .failed) &&
    !landed.isEmpty && !rest.any merged &&
    (landed.all fun entry => decide (entry.pr ∈ selected)) &&
    (decide (checkpoint.terminalStatus ≠ some .merged) || selected.all (mergedFact status plan)) &&
    suffixConverged status (rest.map (·.pr))

end Converged

section Store

def stored? : SyncAnswer → Option (Option StackLandCheckpoint)
  | .stored value => some value
  | _ => none

def keys? : SyncAnswer → Option (List String)
  | .keys value => some value
  | _ => none

def storeCall {α : Type} (request : SyncRequest) (value : SyncAnswer → Option α) : SyncIo α :=
  call request (mutationError · none) value

def nativeKey (operationId : String) : String :=
  "receipt-land-" ++ String.ofList ((Fnv.fnv1a64 (Text.utf8Bytes operationId)).toList.map fun c =>
    if c = ':' then '-' else c)

/-- The operation's evidence is archived before its active cursor advances. -/
def saveNative (key : String) (checkpoint : StackLandCheckpoint) : SyncIo Unit := do
  storeCall (.archive (nativeKey checkpoint.plan.operationId) checkpoint) SyncAnswer.done?
  storeCall (.write key checkpoint) SyncAnswer.done?

end Store

section Reconcile

variable (w : Wire) (status : StatusOutput)

def landResult {α : Type} (r : Except Github.StackLandError α) : SyncIo α :=
  ofResult (r.mapError fun error => nativeSyncError (error.display w))

/-- The next durable phase of a submitted transaction, if it has one. -/
def advancePending (checkpoint : StackLandCheckpoint) : SyncIo (Option StackLandCheckpoint) :=
  match checkpoint.phase with
  | .submitting => do return some (← landResult w
      (Github.nativeStackLandAbandonUncertainSubmission w status.repository checkpoint))
  | .submitted => do return some (← storeCall
      (.nativeStackLandPoll status.repository checkpoint) SyncAnswer.checkpoint?)
  | .terminal => do return some (← storeCall
      (.nativeStackLandRelease status.repository checkpoint) SyncAnswer.checkpoint?)
  | .planned | .locked | .released => return none

/-- Poll and finalize within a bounded number of phases. -/
def pollAndFinalize (key : String) : ℕ → StackLandCheckpoint → SyncIo StackLandCheckpoint
  | 0,checkpoint => return checkpoint
  | rounds + 1,checkpoint => do
      match ← advancePending w status checkpoint with
      | none => return checkpoint
      | some next => do
          saveNative key next
          if next.phase = checkpoint.phase ∨ next.phase = .released then return next
          else pollAndFinalize key rounds next

/-- An indeterminate outcome is observed again; the flag tells whether it changed. -/
def reobserve (key : String) (checkpoint : StackLandCheckpoint) :
    SyncIo (StackLandCheckpoint × Bool) :=
  if checkpoint.terminalStatus = some .indeterminate then do
    let observed ← storeCall (.nativeStackLandReobserveReleased status.repository checkpoint)
      SyncAnswer.checkpoint?
    if observed = checkpoint then return (checkpoint,false)
    else
      saveNative key observed
      return (observed,true)
  else return (checkpoint,false)

def retiredKey (key : String) (checkpoint : StackLandCheckpoint) : String :=
  "retired-" ++ key ++ "-" ++ String.ofList (checkpoint.evidenceHash.toList.map fun c =>
    if c = ':' then '-' else c)

def convergencePending : String := "fresh provider status has not yet proven merged prefix, " ++
  "promoted linear suffix, and exact Stack membership"

/-- A released checkpoint is retired once fresh status proves convergence. -/
def retire (key : String) (checkpoint : StackLandCheckpoint) : SyncIo Bool := do
  let (checkpoint,changed) ← reobserve status key checkpoint
  if nativeStackLandingConverged status checkpoint then
    saveNative (retiredKey key checkpoint) checkpoint
    storeCall (.remove key) SyncAnswer.done?
    return true
  else
    saveNative key (checkpoint.observeConvergencePending w convergencePending)
    return changed

def reconcileCheckpoint (key : String) : SyncIo Bool := do
  match ← storeCall (.load key) stored? with
  | none => return false
  | some checkpoint =>
      if checkpoint.verify w = false ∨ checkpoint.repository ≠ status.repository then return false
      else
        saveNative key checkpoint
        let checkpoint ← pollAndFinalize w status key 5 checkpoint
        if checkpoint.phase = .released then retire w status key checkpoint else return false

/-- Names of the locks that this checkout's checkpoints still own. -/
def liveLockNames : List String → SyncIo (List String)
  | [] => return []
  | key::keys => do
      let checkpoint ← storeCall (.load key) stored?
      let names ← liveLockNames keys
      return (checkpoint.bind (·.outstandingLock)).toList.map (·.name) ++ names

def deleteOrphans (live : List String) : List Github.StackBranchLockGeneration → SyncIo Bool
  | [] => return false
  | lock::locks => do
      if lock.name ∈ live then deleteOrphans live locks
      else
        storeCall (.deleteStackBranchLock status.repository lock) SyncAnswer.done?
        let _ ← deleteOrphans live locks
        return true

def locks? : SyncAnswer → Option (List Github.StackBranchLockGeneration)
  | .locks value => some value
  | _ => none

/-- Delete every listed lock ruleset whose name no checkpoint of this checkout owns. -/
def cleanUpOrphanLocks : SyncIo Bool := do
  let locks ← storeCall (.listActiveStackBranchLocks status.repository) locks?
  let keys ← storeCall .listKeys keys?
  let live ← liveLockNames keys
  deleteOrphans status live locks

def reconcileKeys : List String → SyncIo Bool
  | [] => return false
  | key::keys => do
      let changed ← reconcileCheckpoint w status key
      let rest ← reconcileKeys keys
      return changed || rest

def reconcilePendingNativeStackLandingCheckpoints (config : Config.CaravanConfig) : SyncIo Bool := do
  if config.stackType ≠ .github then return false
  else
    let keys ← storeCall .listKeys keys?
    let changed ← reconcileKeys w status keys
    if config.stackRollout.mutationsOptIn then
      let cleaned ← cleanUpOrphanLocks status
      return changed || cleaned
    else return changed

end Reconcile

end Sync
end Cara
