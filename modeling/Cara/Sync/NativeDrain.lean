import Cara.Sync.NativeLand

/-! The landing of one native Stack by one tick: a fresh plan or the durable one, taken
through its phases while the fresh facts still qualify it. -/
namespace Cara
namespace Sync

open Github (StackLandCheckpoint StackAsyncMergePlan StackEntryGeneration StackGeneration Wire)
open RequiredRuns (RequiredContextsRead)
open Prog (ofResult)

section Ready

variable (status : StatusOutput)

/-- The fresh snapshot still is the generation the plan sealed, and may land. -/
def entryQualifies (held : List PrNumber) (entry : StackEntryGeneration)
    (current : PullRequestSnapshot) : Bool :=
  decide (current.head = entry.head) && decide (current.base = entry.base) &&
    decide (current.state = .open) && !current.draft && current.isActiveCaravanMember &&
    !decide (entry.pr ∈ held) && !current.hasLabel "caravan-force"

/-- Every selected entry is re-read and assessed under one policy, up to the first that fails. -/
def selectedReady (caravanKey : PrNumber) (policy : RequiredContextsRead) (held : List PrNumber) :
    List StackEntryGeneration → SyncM Bool
  | [] => return true
  | entry::entries => do
      let current ← refetchCiSnapshot status.repository entry.pr
      if entryQualifies held entry current then
        let assessment ← assessRequiredRuns status.repository current policy
        modify (·.pushRequiredRuns caravanKey assessment)
        if isGreen assessment.status then selectedReady caravanKey policy held entries
        else return false
      else return false

/-- Fresh policy and checks before an unsubmitted transaction advances. -/
def nativeRequiredReady (plan : StackAsyncMergePlan) : SyncM Bool := do
  let target := plan.before.topology.base.name
  if target ≠ (← get).defaultBranch then return false
  else
    let policy ← branchRequiredContexts status.repository target none
    if policy.complete = false ∨ policy.branch ≠ target then return false
    else
      let caravanKey := (plan.selected.head?.map (·.pr)).getD 0
      if ← selectedReady status caravanKey policy (heldCaravanMembers status) plan.selected then
        let after ← branchRequiredContexts status.repository target none
        return after.complete && decide (after = policy)
      else return false

end Ready

section Drain

variable (w : SyncWire) (status : StatusOutput)

def recordNativeStackWait (caravan : Caravan) (stackNumber : ℕ) (blocked : Github.StackBlockedEntry) :
    SyncM Unit := do
  recordMergeWait caravan.id .checksNotPassing (some ("native Stack prefix waits at PR #" ++
    toString blocked.pr ++ ": [" ++ ", ".intercalate (blocked.blockers.map (·.debug)) ++ "]"))
  modify fun p => { p with nativeStackWaits := p.nativeStackWaits ++ [{
    stackNumber := stackNumber
    caravanId := caravan.id
    blockingPr := blocked.pr
    blockers := blocked.blockers
    deferredMembers := (caravan.members.dropWhile fun pr => decide (pr ≠ blocked.pr)).drop 1 }] }

def generation? : SyncAnswer → Option (Option StackGeneration)
  | .generation value => some value
  | _ => none

def stackMissing : SyncError :=
  validation "github_stack_sync_stack_missing" "mapped native Stack disappeared before landing"

def mergeResult {α : Type} (r : Except Github.StackMergeError α) : SyncM α :=
  StateT.lift (ofResult (r.mapError fun error => nativeSyncError (error.display w.toWire)))

/-- The ready prefix of the current Stack generation, judged by this tick's evidence. -/
def readyPrefix (stack : StackGeneration) : SyncM Github.StackReadyPrefix := do
  let p ← get
  let facts : StackPolicyFacts := {
    pullRequests := p.current
    mergeCandidates := p.mergeCandidate
    compatibility := status.analysis.compatibility
    heldMembers := heldCaravanMembers status }
  mergeResult w (Github.planGithubStackReadyPrefix stack
    (stackMergeEvidence facts stack p.nativeMemberRequiredReady stack.topology.entries none))

def openEntries (stack : StackGeneration) : ℕ :=
  (stack.topology.entries.filter fun entry => decide (entry.pullRequestState = .open)).length

/-- A plan of the longest ready prefix, durable before the lock; none while it must wait. -/
def beginLanding (caravan : Caravan) (stackNumber : ℕ) (reviewedBy : String) :
    SyncM (Option StackLandCheckpoint) := do
  let root := caravan.head.getD caravan.id
  if (← get).nativeMemberRequiredReady root = false then
    recordNativeStackWait caravan stackNumber ⟨root,0,[.requiredChecksNotReady]⟩
    return none
  else
    match ← StateT.lift (storeCall (.nativeStackGeneration status.repository stackNumber) generation?) with
    | none => throw stackMissing
    | some stack =>
        let ready ← readyPrefix w status stack
        match ready.selected,ready.firstBlocked with
        | [],none => return none
        | [],some blocked => do
            recordNativeStackWait caravan stackNumber blocked
            return none
        | _,_ =>
            if nativePrefixWaitsForProviderRegeneration ready (openEntries stack) then
              recordMergeWait root .checksNotPassing (some ("native Stack awaits provider " ++
                "regeneration of the exact merge candidate for PR #" ++
                toString ((ready.firstBlocked.map (·.pr)).getD 0)))
              return none
            else
              let plan ← mergeResult w (ready.directSquashPlan ((← get).operationId ++ ":stack:" ++
                toString stackNumber) reviewedBy)
              let checkpoint := Github.nativeStackLandBegin w.toWire status.repository plan
              StateT.lift (saveNative (landKey stackNumber) checkpoint)
              return some checkpoint

def mergeAuditPrefix : String := "<!-- cara-merge-transition:v1:"

def nativeStackMergeAudit (checkpoint : StackLandCheckpoint) (entry : StackEntryGeneration) :
    String × String :=
  let fingerprint := Fnv.fnv1a64 (w.nativeMergeAudit (status.repository,checkpoint.plan,entry))
  let marker := mergeAuditPrefix ++ "native_stack:" ++ toString entry.pr ++ ":" ++ entry.head.oid ++
    ":" ++ fingerprint ++ " -->"
  (marker,marker ++ "\n### Cara authorized this native Stack merge\n\n- **Exact generation:** PR #" ++
    toString entry.pr ++ " at `" ++ entry.head.oid ++ "`\n- **Stack:** #" ++
    toString checkpoint.plan.before.number ++ " at exact base `" ++
    checkpoint.plan.before.topology.base.oid ++ "`\n- **Why:** the complete provider Stack " ++
    "generation is locked, the selected prefix is fully green, every required context is " ++
    "satisfied, and source refs match the sealed plan.\n- **Operation:** Cara will now submit " ++
    "one atomic squash landing for the exact selected prefix. This audit is posted before " ++
    "submission; exact retries reuse it without duplication.\n- **Evidence fingerprint:** `" ++
    fingerprint ++ "`\n")

/-- Every selected pull request carries its audit before the irreversible submission. -/
def auditSelected (checkpoint : StackLandCheckpoint) : List StackEntryGeneration → SyncM Unit
  | [] => return ()
  | entry::entries => do
      let audit := nativeStackMergeAudit w status checkpoint entry
      ensureOperationComment status.repository entry.pr "native Stack merge" audit.1 audit.2
      auditSelected checkpoint entries

def keepWaiting (caravan : Caravan) (checkpoint : StackLandCheckpoint) (reason : String) :
    SyncM (Option StackLandCheckpoint) := do
  modify fun p => { p with nativeStackLand := p.nativeStackLand ++ [checkpoint] }
  recordMergeWait caravan.id .requiredRunsNotSatisfied (some reason)
  return none

def planUnqualified : String := "fresh landing-target policy/checks no longer qualify the native plan"

def preSubmitChanged : String := "native pre-submit required policy/checks changed; " ++
  "preserved locked checkpoint, no submission"

def landCall (request : SyncRequest) : SyncM StackLandCheckpoint :=
  StateT.lift (storeCall request SyncAnswer.checkpoint?)

/-- The checkpoint after one phase; none when the tick must wait with the checkpoint as it is. -/
def landPhase (caravan : Caravan) (markedNow : Bool) (checkpoint : StackLandCheckpoint) :
    SyncM (Option StackLandCheckpoint) :=
  match checkpoint.phase with
  | .planned => do
      if ← nativeRequiredReady status checkpoint.plan then
        return some (← landCall (.nativeStackLandLock status.repository checkpoint))
      else keepWaiting caravan checkpoint planUnqualified
  | .locked => do
      auditSelected w status checkpoint checkpoint.plan.selected
      if ← nativeRequiredReady status checkpoint.plan then
        return some (← StateT.lift (landResult w.toWire
          (Github.nativeStackLandMarkSubmitting w.toWire status.repository checkpoint)))
      else keepWaiting caravan checkpoint preSubmitChanged
  | .submitting =>
      if markedNow then do
        return some (← landCall (.nativeStackLandSubmit status.repository checkpoint))
      else do
        return some (← StateT.lift (landResult w.toWire
          (Github.nativeStackLandAbandonUncertainSubmission w.toWire status.repository checkpoint)))
  | .submitted => do return some (← landCall (.nativeStackLandPoll status.repository checkpoint))
  | .terminal => do return some (← landCall (.nativeStackLandRelease status.repository checkpoint))
  | .released => return some checkpoint

/-- The phases of one tick. A released checkpoint or an unchanged phase ends them. -/
def landPhases (caravan : Caravan) (stackNumber : ℕ) :
    ℕ → Bool → StackLandCheckpoint → SyncM (Option StackLandCheckpoint)
  | 0,_,checkpoint => return some checkpoint
  | rounds + 1,markedNow,checkpoint => do
      if checkpoint.phase = .released then return some checkpoint
      else
        match ← landPhase w status caravan markedNow checkpoint with
        | none => return none
        | some next => do
            StateT.lift (saveNative (landKey stackNumber) next)
            if next.phase = checkpoint.phase then return some next
            else
              if next.phase = .locked ∨ next.phase = .submitted ∨ next.phase = .released then
                modify fun p => p.push {
                  kind := .nativeStackLand
                  state := .completed
                  pr := caravan.head
                  summary := "native Stack #" ++ toString stackNumber ++ " landing advanced from " ++
                    checkpoint.phase.debug ++ " to " ++ next.phase.debug }
              else pure ()
              landPhases caravan stackNumber rounds
                (markedNow || decide (checkpoint.phase = .locked)) next

def mergeEnded (code message : String) : SyncError :=
  { category := .executionFailure,code := code,message := message }

/-- What the tick reports of the checkpoint it stops at. -/
def concludeLanding (stackNumber : ℕ) (checkpoint : StackLandCheckpoint) : SyncM Unit := do
  modify fun p => { p with nativeStackLand := p.nativeStackLand ++ [checkpoint] }
  if checkpoint.phase ≠ .released then return ()
  else match checkpoint.terminalStatus with
    | some .merged => modify fun p => checkpoint.plan.selected.foldl (fun p entry => p.push {
        kind := .squashMerge
        state := .completed
        pr := some entry.pr
        summary := "native Stack #" ++ toString stackNumber ++
          " atomically merged the selected ready prefix under exact-ref lock" }) p
    | some .failed => throw (mergeEnded "github_stack_merge_failed"
        "GitHub reported terminal native Stack merge failure")
    | some .indeterminate => throw (mergeEnded "github_stack_merge_indeterminate"
        "native Stack merge ended indeterminate; exact receipts require operator inspection")
    | _ => throw (mergeEnded "github_stack_terminal_status_invalid"
        "released native Stack transaction lacks terminal provider proof")

def checkpointStale : SyncError := validation "github_stack_land_checkpoint_stale"
  "persisted Stack landing checkpoint does not match this repository/Stack"

/-- The durable checkpoint of the Stack, or a fresh plan when there is none. -/
def landingCheckpoint (caravan : Caravan) (stackNumber : ℕ) (reviewedBy : String) :
    SyncM (Option StackLandCheckpoint) := do
  match ← StateT.lift (storeCall (.load (landKey stackNumber)) stored?) with
  | some checkpoint =>
      if checkpoint.verify w.toWire = false ∨ checkpoint.repository ≠ status.repository ∨
          checkpoint.plan.before.number ≠ stackNumber then throw checkpointStale
      else return some checkpoint
  | none => beginLanding w status caravan stackNumber reviewedBy

def drainNativeStack (caravan : Caravan) (stackNumber : ℕ) (config : Config.CaravanConfig) :
    SyncM Unit := do
  match ← landingCheckpoint w status caravan stackNumber config.stackRollout.reviewedBy with
  | none => return ()
  | some checkpoint => do
      ensureMutationCapacity 3
      match ← landPhases w status caravan stackNumber 5 false checkpoint with
      | none => return ()
      | some checkpoint => concludeLanding stackNumber checkpoint

end Drain

end Sync
end Cara
