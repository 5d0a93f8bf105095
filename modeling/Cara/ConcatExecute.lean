import Cara.Concat

/-! Execution of a reviewed concatenation: prepare every source member, push all of them or
none, commit the base of the source root, verify, and undo what was done otherwise. -/
namespace Cara
namespace Concat

open PhysicalRebase (PlannedBase PlannedRangeBase PreparedFacts PreparedRebase RebasePlan
  RebaseError AtomicRebaseReceipt AtomicRollbackReceipt AtomicRemoteState HeadMove Lease)
open Sync (MutationError GitHubMutationReceipt)

section Prepare

variable (repository : RepositoryId) (repositoryPath : String) (workflowSource : BranchSnapshot)

def prepareCandidate (candidate : PullRequestSnapshot) (rangeSource : PlannedRangeBase)
    (newBase : PlannedBase) (reason : PhysicalRebase.BranchRewriteReason) : Io PreparedRebase := do
  Prog.ofResult ((PhysicalRebase.preconditions repository candidate rangeSource newBase
    workflowSource).mapError ofFields)
  let facts ← Prog.query (.prepareCandidate candidate rangeSource newBase workflowSource)
    fun answer => match answer with
      | .prepared result => some result
      | _ => none
  return ⟨PhysicalRebase.planOf candidate rangeSource newBase reason facts,repositoryPath⟩

/-- Each member on the planned head of the member before it. -/
def prepareMembers (status : LiveStatus) : PlannedBase → (PullRequestSnapshot → PlannedRangeBase) →
    List (PrNumber × ConcatMemberPlan) → Io (List PreparedRebase)
  | _,_,[] => pure []
  | target,range,(number,planned)::rest => do
      let candidate ← expect status.analysis.pullRequests[number]?
      let item ← prepareCandidate repository repositoryPath workflowSource candidate (range candidate)
        target (.parentAdvanced planned.targetPr)
      let items ← prepareMembers status
        (.simulated ⟨repository,candidate.head.name,item.plan.newHeadOid⟩)
        (fun child => PhysicalRebase.rangeBaseForRewrittenParent child candidate.head) rest
      return item::items

end Prepare

section Atomic

def staleLease (branch : String) (expected : CommitOid) (actual : Option CommitOid) : ConcatError :=
  structured .validation "rebase_stale_lease" "remote branch moved since complete plan preflight"
    (.fields [("branch",branch),("expected_oid",expected),("actual_oid",actual.getD ""),
      ("resumable","true")])

def verifyRemoteHead (branch : String) (expected : CommitOid) : Io Unit := do
  let actual ← remoteHead branch
  Prog.refuseIf (decide (actual ≠ some expected)) (staleLease branch expected actual)

/-- Which reads bind the boundary again before the push. -/
def verifyRange (plan : RebasePlan) : Io Unit :=
  match plan.rangeSource with
  | .remoteBranch branch =>
      if plan.newBase.isSimulated then pure () else verifyRemoteHead branch.name branch.oid
  | rangeSource => retainRange rangeSource

def verifyTarget (plan : RebasePlan) : Io Unit :=
  match plan.newBase with
  | .remote target => verifyRemoteHead target.name target.oid
  | .simulated _ => pure ()

def verifyPrepared (prepared : PreparedRebase) : Io Unit := do
  let retained ← retainedHead prepared
  Prog.refuseIf (decide (retained ≠ prepared.plan.newHeadOid)) (structured .validation
    "rebase_prepared_object_changed" "retained prepared rebase no longer resolves to its planned head"
    (.fields [("pr",toString prepared.plan.pr),("retained_head",retained),("resumable","true")]))
  verifyRemoteHead prepared.plan.branch prepared.plan.oldHeadOid
  verifyRange prepared.plan
  verifyTarget prepared.plan
  pushDryRun prepared.plan.lease

/-- Every plan is verified and names a branch of its own in one repository. -/
def verifyAll (repositoryPath : String) : List String → List PreparedRebase → Io Unit
  | _,[] => pure ()
  | branches,item::rest => do
      Prog.refuseIf (decide (item.repositoryPath ≠ repositoryPath))
        (validation "atomic_rebase_repository_mismatch"
          "every atomic rewrite plan must belong to one repository")
      Prog.refuseIf (decide (item.plan.branch ∈ branches)) (validation "atomic_rebase_duplicate_branch"
        "atomic rewrite plan names one branch more than once")
      verifyPrepared item
      verifyAll repositoryPath (item.plan.branch::branches) rest

def remoteHeadOid (branch : String) : Io CommitOid := do
  let oid := (← remoteHead branch).getD ""
  Prog.ofResult ((PhysicalRebase.validateOid oid).mapError ofFields)
  return oid

/-- Whether every branch is at its old head, and whether every one is at its new head. -/
def compareHeads : List PreparedRebase → Io (Bool × Bool)
  | [] => pure (true,true)
  | item::rest => do
      let actual ← remoteHeadOid item.plan.branch
      let others ← compareHeads rest
      return (decide (actual = item.plan.oldHeadOid) && others.1,
        decide (actual = item.plan.newHeadOid) && others.2)

def classifyAtomicRemoteState (prepared : List PreparedRebase) : Io AtomicRemoteState := do
  let heads ← compareHeads prepared
  return if heads.1 then .allOld else if heads.2 then .allNew else .mixed

def atomicReceipt (prepared : List PreparedRebase) (recovered : Bool) : AtomicRebaseReceipt where
  atomic := true
  receipts := prepared.map fun item => PhysicalRebase.receiptFromPlan item.plan
  oldHeads := prepared.map PhysicalRebase.oldHead
  newHeads := prepared.map PhysicalRebase.newHead
  recoveredAmbiguousSuccess := recovered

def atomicRefused (prepared : List PreparedRebase) (error : ConcatError) : ConcatError :=
  structured .validation "atomic_rebase_refused"
    "atomic push was refused and every branch retained its original head"
    (.atomic (prepared.map PhysicalRebase.oldHead) (prepared.map PhysicalRebase.newHead) error.details none)

def atomicIndeterminate (prepared : List PreparedRebase) (error : ConcatError) : ConcatError :=
  structured .validation "atomic_rebase_indeterminate"
    "atomic push outcome could not be proven all-old or all-new"
    (.atomic (prepared.map PhysicalRebase.oldHead) (prepared.map PhysicalRebase.newHead) error.details
      (some ("inspect every named remote branch; do not retry or mutate membership until all heads " ++
        "are classified")))

def applyPreparedAtomically (prepared : List PreparedRebase) : Io AtomicRebaseReceipt :=
  match prepared with
  | [] => throw (validation "atomic_rebase_empty" "atomic rewrite requires at least one prepared branch")
  | first::_ => do
      verifyAll first.repositoryPath [] prepared
      if (PhysicalRebase.changed prepared).isEmpty then return atomicReceipt prepared false
      else
        match ← Prog.attempt (push ((PhysicalRebase.changed prepared).map PhysicalRebase.headMove)) with
        | .ok () => return atomicReceipt prepared false
        | .error error =>
            match ← Prog.attempt (classifyAtomicRemoteState prepared) with
            | .ok .allNew => return atomicReceipt prepared true
            | .ok .allOld => throw (atomicRefused prepared error)
            | .ok .mixed | .error _ => throw (atomicIndeterminate prepared error)

def rollbackReceipt (prepared : List PreparedRebase) : AtomicRollbackReceipt where
  atomic := true
  restoredHeads := prepared.map PhysicalRebase.oldHead
  replacedHeads := prepared.map PhysicalRebase.newHead

def rollbackIndeterminate (prepared : List PreparedRebase) (error : ConcatError) : ConcatError :=
  structured .validation "atomic_rebase_rollback_indeterminate"
    "atomic rollback could not prove every original branch head restored"
    (.atomic (prepared.map PhysicalRebase.oldHead) (prepared.map PhysicalRebase.newHead) error.details
      (some "inspect every named remote branch and preserve the receipt before any retry"))

def rollbackPreparedAtomically (prepared : List PreparedRebase) : Io AtomicRollbackReceipt := do
  if prepared.isEmpty then
    throw (validation "atomic_rebase_empty" "atomic rollback requires at least one prepared branch")
  else if (PhysicalRebase.changed prepared).isEmpty then return rollbackReceipt prepared
  else
    match ← Prog.attempt (push ((PhysicalRebase.changed prepared).map PhysicalRebase.rollbackMove)) with
    | .ok () => return rollbackReceipt prepared
    | .error error =>
        match ← Prog.attempt (classifyAtomicRemoteState prepared) with
        | .ok .allOld => return rollbackReceipt prepared
        | _ => throw (rollbackIndeterminate prepared error)

end Atomic

section Membership

variable (repository : RepositoryId)

def verifyPrecondition (expected : PullRequestPrecondition) : ProviderIo PullRequestSnapshot := do
  let snapshot ← refetch repository expected.number
  let actual := PullRequestPrecondition.ofSnapshot snapshot
  let fields := Sync.changedPreconditionFields expected actual
  Prog.refuseIf (!fields.isEmpty) (.stalePrecondition expected actual fields)
  return snapshot

/-- The base edit of one pull request, checked before and read back after. -/
def setBase (expected : PullRequestPrecondition) (base : String) : ProviderIo GitHubMutationReceipt := do
  let before ← verifyPrecondition repository expected
  let output ← editBase repository expected.number base
  let after ← refetch repository expected.number
  return { kind := .setBase,before := some before,after := after,providerOutput := output }

def commitSourceRoot (expected : PullRequestPrecondition) (base : String) :
    Io (Except MutationError GitHubMutationReceipt) := Prog.attempt (setBase repository expected base)

def concatMutationError (error : MutationError) (plan : ConcatPlan) (mutated : Bool) : ConcatError :=
  structured .executionFailure "concat_provider_mutation_failed"
    ("concat provider membership commit failed: " ++ error.display) (.provider plan mutated)

end Membership

section Rollback

variable (prepared : List PreparedRebase) (plan : ConcatPlan)

/-- Restore every source head and report the error that stopped the call. -/
def rollbackPhysicalError {α : Type} (source : ConcatError) (code : String) : Io α := do
  match ← Prog.attempt (rollbackPreparedAtomically prepared) with
  | .ok rollback => throw (structured source.category code
      ("concat stopped and restored every original source head: " ++ display source)
      (.rolledBack plan rollback source.details false true))
  | .error rollback => throw (structured .executionFailure "concat_rollback_indeterminate"
      ("concat failed after physical rewrite and original source heads could not be proven restored")
      (.rollbackFailed plan source.details rollback.details true
        "inspect every source branch and preserve both error receipts before any retry"))

def rollbackCompleteTransaction {α : Type} (repository : RepositoryId) (membership : GitHubMutationReceipt)
    (originalBase : String) (source : ConcatError) (code : String) : Io α := do
  match ← commitSourceRoot repository (.ofSnapshot membership.after) originalBase with
  | .error error => throw (structured .executionFailure "concat_membership_rollback_indeterminate"
      "concat could not restore the source-root base after final verification failed"
      (.baseStuck plan membership source.details error.display true ("inspect the source-root base and " ++
        "every source branch; do not retry until all generations are classified")))
  | .ok membershipRollback =>
      match ← Prog.attempt (rollbackPreparedAtomically prepared) with
      | .ok physicalRollback => throw (structured source.category code
          ("concat final verification failed and the complete original topology was restored: " ++
            display source)
          (.restored plan membership membershipRollback physicalRollback source.details false true))
      | .error rollback => throw (structured .executionFailure "concat_physical_rollback_indeterminate"
          ("source-root base was restored but original source branch heads could not be proven restored")
          (.headsStuck plan membership membershipRollback source.details rollback.details true
            ("inspect every source branch; do not retry membership until all heads equal the plan " ++
              "rollback generations")))

end Rollback

section Execute

def staleRewrite : ConcatError := validation "concat_rewrite_head_stale"
  "provider did not expose every exact atomically rewritten head"

def unexpectedTopology (fleet : CaravanFleet) : ConcatError :=
  structured .validation "concat_final_topology_unexpected"
    "provider writes completed but exact concatenated ordering was not observed" (.topology fleet)

def exposes (status : LiveStatus) (physical : AtomicRebaseReceipt) : Bool :=
  physical.receipts.all fun receipt => (status.analysis.pullRequests[receipt.pr]?).any fun p =>
    decide (p.head.oid = receipt.newHeadOid)

def completedReceipt (operationId : String) (plan : ConcatPlan) (input : ConcatInput) : OperationReceipt where
  operationId := operationId
  operation := "concat"
  completedSteps := [{ kind := .setBase,state := .completed,pr := some plan.sourceCaravan
                       summary := "concatenated caravan #" ++ toString plan.sourceCaravan ++
                         " after tail #" ++ toString input.targetTailPr }]
  changed := true

/-- The event and the output of a verified concatenation. -/
def complete (status final : LiveStatus) (plan : ConcatPlan) (input : ConcatInput)
    (physical : AtomicRebaseReceipt) (membership : GitHubMutationReceipt) (concatenated : Caravan) :
    Io ConcatOutput := do
  let operation ← identity .newOperation
  let receipt := completedReceipt operation.1 plan input
  let stamp ← identity .newEvent
  let event : ConcatEvent := {
    version := 1
    eventId := stamp.1
    operationId := operation.1
    kind := .caravansConcatenated
    repository := status.repository
    caravanId := some concatenated.id
    prs := plan.newOrdering
    timestamp := stamp.2
    detail := { fleet := some final.analysis.fleet,reason := some plan.reason
                plan := some (.ok plan),physical := some (.ok physical)
                membership := some (.ok membership),receipt := some (.ok receipt)
                resultingOrdering := some (.ok plan.newOrdering) } }
  let deliveries ← dispatch event
  return { idempotent := false,plan := plan,physical := physical,membership := membership
           resultingOrdering := plan.newOrdering,receipt := receipt,events := [event]
           hookDeliveries := deliveries }

/-- What follows the base edit: the concatenated caravan is observed or everything is undone. -/
def verifyTopology (status : LiveStatus) (plan : ConcatPlan) (input : ConcatInput)
    (prepared : List PreparedRebase) (physical : AtomicRebaseReceipt)
    (membership : GitHubMutationReceipt) (originalBase : String) : Io ConcatOutput := do
  match ← Prog.attempt readStatus with
  | .error error =>
      rollbackCompleteTransaction prepared plan status.repository membership originalBase error
        "concat_final_rediscovery_failed"
  | .ok final =>
      match final.analysis.fleet.caravans.find? fun c => decide (c.members = plan.newOrdering) with
      | none =>
          rollbackCompleteTransaction prepared plan status.repository membership originalBase
            (unexpectedTopology final.analysis.fleet) "concat_final_topology_rollback"
      | some concatenated => complete status final plan input physical membership concatenated

def commitMembership (status : LiveStatus) (plan : ConcatPlan) (input : ConcatInput)
    (first : ConcatMemberPlan) (prepared : List PreparedRebase) (physical : AtomicRebaseReceipt) :
    Io ConcatOutput := do
  match ← Prog.attempt readStatus with
  | .error error => rollbackPhysicalError prepared plan error "concat_post_rewrite_rediscovery_failed"
  | .ok postRewrite =>
      if !exposes postRewrite physical then
        rollbackPhysicalError prepared plan staleRewrite "concat_post_rewrite_rediscovery_failed"
      else
        let sourceRoot ← expect postRewrite.analysis.pullRequests[plan.sourceCaravan]?
        match ← commitSourceRoot status.repository (.ofSnapshot sourceRoot) first.targetBranch with
        | .error error =>
            rollbackPhysicalError prepared plan (concatMutationError error plan false)
              "concat_membership_commit_failed"
        | .ok membership =>
            verifyTopology status plan input prepared physical membership first.oldBase.name

def stalePlan (expected : String) (plan : ConcatPlan) : ConcatError :=
  structured .validation "concat_plan_stale"
    "concat facts changed after the reviewed plan; refusing before mutation" (.stale expected plan false)

variable (w : ConcatWire) (repositoryPath : String)

def prepareConcat (status : LiveStatus) (plan : ConcatPlan) (first : ConcatMemberPlan) :
    Io (List PreparedRebase) := do
  let source ← expect (status.analysis.fleet.caravan plan.sourceCaravan)
  let targetTail ← expect status.analysis.pullRequests[first.targetPr]?
  prepareMembers status.repository repositoryPath status.analysis.fleet.defaultBranch status
    (.remote targetTail.head) (fun root => PhysicalRebase.rangeBaseForRemoteTarget root targetTail.head)
    (source.members.zip plan.members)

def executeReviewed (input : ConcatExecuteInput) : Io ConcatOutput := do
  acquireWriter "concat"
  let status ← readStatus
  let plan ← planFromStatus w status input.intent
  Prog.refuseIf (decide (input.expectedPlanHash ≠ plan.planHash)) (stalePlan input.expectedPlanHash plan)
  let first ← expect plan.members.head?
  let prepared ← prepareConcat repositoryPath status plan first
  let physical ← applyPreparedAtomically prepared
  commitMembership status plan input.intent first prepared physical

def receiptInvalid (message : String) (details : List (String × String)) : ConcatError :=
  structured .executionFailure "concat_receipt_invalid" message (.fields details)

def receiptMetadata {α : Type} (event : ConcatEvent) (key : String) (value : Option (Except String α)) :
    Except ConcatError α :=
  match value with
  | none => .error (receiptInvalid "durable concat event is missing required receipt evidence"
      [("event_id",event.eventId),("missing",key)])
  | some (.error source) => .error (receiptInvalid
      "durable concat event contains unreadable receipt evidence"
      [("event_id",event.eventId),("field",key),("source",source)])
  | some (.ok a) => .ok a

/-- The output of an earlier call with this plan hash, from the newest record on. -/
def recordedOutput (planHash : String) :
    List (Journal.JournalRecord ConcatEvidence) → Except ConcatError (Option ConcatOutput)
  | [] => .ok none
  | .hookDelivery .. :: rest => recordedOutput planHash rest
  | .event _ event :: rest =>
      match event.detail.plan with
      | none => recordedOutput planHash rest
      | some (.error source) => .error (receiptInvalid
          "durable concat event contains an unreadable plan"
          [("event_id",event.eventId),("source",source)])
      | some (.ok plan) =>
          if plan.planHash ≠ planHash then recordedOutput planHash rest
          else do
            let physical ← receiptMetadata event "physical" event.detail.physical
            let membership ← receiptMetadata event "membership" event.detail.membership
            let receipt ← receiptMetadata event "receipt" event.detail.receipt
            let ordering ← receiptMetadata event "resulting_ordering" event.detail.resultingOrdering
            return some { idempotent := true,plan := plan,physical := physical
                          membership := membership,resultingOrdering := ordering,receipt := receipt
                          events := [event] }

def existingReceipt (planHash : String) : Io (Option ConcatOutput) := do
  let log ← journal { limit := 100,kind := some "caravans_concatenated" }
  Prog.ofResult (recordedOutput planHash log.records.reverse)

def execute (input : ConcatExecuteInput) : Io ConcatOutput := do
  match ← existingReceipt input.expectedPlanHash with
  | some output => return output
  | none => executeReviewed w repositoryPath input

end Execute

end Concat
end Cara
