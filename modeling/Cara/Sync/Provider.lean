import Cara.Github.StackLand
import Cara.Lib.Stateful
import Cara.Status

/-! Provider primitives and durable checkpoint storage as the sync policy uses them: one
request for each call, answered by the provider, by the file system or by an error. -/
namespace Cara
namespace Sync

open Generation (CommitRelation)
open Github (StackGeneration StackLandCheckpoint StackBranchLockGeneration)
open RequiredRuns (RequiredContextsRead HeadRunLineage)

abbrev SyncError := AppError (List (String × String))

def validation (code message : String) : SyncError :=
  { category := .validation,code := code,message := message }

/-- Typed failure of an optimistic provider primitive. The variants that only carry their
own message are one. -/
inductive MutationError where
  | outputLimit (message : String)
  | timeout (message : String)
  | provider (message : String)
  | stalePrecondition (expected actual : PullRequestPrecondition) (changedFields : List String)
  | permissionDenied (required actual : String)
  | branchHeadMismatch (branch : String) (expected actual : CommitOid)
  | runNotFailed (runId : ℕ) (conclusion : String)
  | other (message : String)
deriving DecidableEq

def MutationError.display : MutationError → String
  | .outputLimit message | .timeout message | .provider message | .other message => message
  | .stalePrecondition _ _ changedFields =>
      "pull-request precondition changed: " ++ ", ".intercalate changedFields
  | .permissionDenied required actual => "repository permission `" ++ actual ++
      "` cannot perform admin merge; `" ++ required ++ "` required"
  | .branchHeadMismatch branch expected actual =>
      "branch `" ++ branch ++ "` moved from " ++ expected ++ " to " ++ actual ++ " after preflight"
  | .runNotFailed runId conclusion => "workflow run " ++ toString runId ++
      " is not failed (conclusion: " ++ conclusion ++ ")"

def affected (pr : Option PrNumber) : List (String × String) :=
  pr.toList.map fun n => ("affected_pr",toString n)

/-- A moved fact is a resumable decision, everything else a failed execution. -/
def mutationError (error : MutationError) (affectedPr : Option PrNumber) : SyncError :=
  let (category,code) : ErrorCategory × String := match error with
    | .outputLimit _ => (.executionFailure,"command_output_limit")
    | .timeout _ => (.timeout,"github_mutation_timeout")
    | .stalePrecondition .. | .branchHeadMismatch .. => (.validation,"stale_precondition")
    | _ => (.executionFailure,"github_mutation_failed")
  { category := category
    code := code
    message := error.display
    details := some (affected affectedPr) }

def nativeSyncError (message : String) : SyncError where
  category := .executionFailure
  code := "github_stack_sync_incomplete"
  message := message
  details := some [("resumable","true"),("safe_next_action","rerun the same sync; the persisted " ++
    "native Stack checkpoint resumes without repeating a proven lock, submission, merge, or release")]

structure GitHubMutationReceipt where
  kind : MutationKind
  before : Option PullRequestSnapshot := none
  after : PullRequestSnapshot
  providerOutput : Option String := none
deriving DecidableEq

structure WorkflowRunSnapshot where
  databaseId : ℕ
deriving DecidableEq

inductive SyncRequest where
  | nativeStackIntersections (repository : RepositoryId) (members : List PrNumber)
  | nativeStackGeneration (repository : RepositoryId) (stackNumber : ℕ)
  | nativeStackLandLock (repository : RepositoryId) (checkpoint : StackLandCheckpoint)
  | nativeStackLandSubmit (repository : RepositoryId) (checkpoint : StackLandCheckpoint)
  | nativeStackLandPoll (repository : RepositoryId) (checkpoint : StackLandCheckpoint)
  | nativeStackLandReobserveReleased (repository : RepositoryId) (checkpoint : StackLandCheckpoint)
  | nativeStackLandRelease (repository : RepositoryId) (checkpoint : StackLandCheckpoint)
  | listActiveStackBranchLocks (repository : RepositoryId)
  | deleteStackBranchLock (repository : RepositoryId) (lock : StackBranchLockGeneration)
  | verifyPullRequest (repository : RepositoryId) (expected : PullRequestPrecondition)
  | verifyPullRequestWithChecks (repository : RepositoryId) (expected : PullRequestPrecondition)
  | refetchPullRequest (repository : RepositoryId) (number : PrNumber)
  | verifyBranchHead (repository : RepositoryId) (branch : String) (expected : CommitOid)
  | repositoryAllowsAutoMerge (repository : RepositoryId)
  | repositoryAllowsSquashMerge (repository : RepositoryId)
  | branchHeadOid (repository : RepositoryId) (branch : String)
  | compareCommits (repository : RepositoryId) (base head : CommitOid)
  | mergeCommitOid (repository : RepositoryId) (number : PrNumber)
  | squashMerge (repository : RepositoryId) (expected : PullRequestPrecondition)
  | setBase (repository : RepositoryId) (expected : PullRequestPrecondition) (base : String)
  | enableSquashAutoMerge (repository : RepositoryId) (expected : PullRequestPrecondition)
  | disableAutoMerge (repository : RepositoryId) (expected : PullRequestPrecondition)
  | addLabel (repository : RepositoryId) (expected : PullRequestPrecondition) (label : String)
  | removeLabel (repository : RepositoryId) (expected : PullRequestPrecondition) (label : String)
  | ensureMarkedComment (repository : RepositoryId) (expected : PullRequestPrecondition)
      (marker body : String)
  | ensureControlLabelComment (repository : RepositoryId) (expected : PullRequestPrecondition)
      (marker reason : String)
  | failedRunsForPullRequest (repository : RepositoryId) (expected : PullRequestPrecondition)
  | failedRunDiagnostics (repository : RepositoryId) (expected : PullRequestPrecondition)
      (runIds : List ℕ)
  | branchRequiredContexts (repository : RepositoryId) (branch : String)
  | headRunLineage (repository : RepositoryId) (expected : PullRequestPrecondition)
  | rerequestCheckSuite (repository : RepositoryId) (expected : PullRequestPrecondition)
      (checkSuiteId : ℕ)
  | rerunFailedRun (repository : RepositoryId) (expected : PullRequestPrecondition) (runId : ℕ)
  | rerunWorkflowRun (repository : RepositoryId) (expected : PullRequestPrecondition) (runId : ℕ)
  | viewerPermission (repository : RepositoryId)
  | adminSquashMerge (repository : RepositoryId) (expected : PullRequestPrecondition)
  | listKeys
  | load (key : String)
  | write (key : String) (checkpoint : StackLandCheckpoint)
  | archive (key : String) (checkpoint : StackLandCheckpoint)
  | remove (key : String)
  | nowUnix
deriving DecidableEq

inductive SyncAnswer where
  | failed (error : MutationError)
  | refused (error : SyncError)
  | done
  | pullRequest (snapshot : PullRequestSnapshot)
  | receipt (receipt : GitHubMutationReceipt)
  | flag (value : Bool)
  | text (value : String)
  | oid (value : CommitOid)
  | mergeCommit (value : Option CommitOid)
  | relation (value : CommitRelation)
  | contexts (value : RequiredContextsRead)
  | lineage (value : HeadRunLineage)
  | runs (value : List WorkflowRunSnapshot)
  | diagnostics (deferredAdmission : Bool)
  | generations (value : List StackGeneration)
  | generation (value : Option StackGeneration)
  | checkpoint (value : StackLandCheckpoint)
  | stored (value : Option StackLandCheckpoint)
  | locks (value : List StackBranchLockGeneration)
  | keys (value : List String)
  | clock (value : ℕ)
deriving DecidableEq

structure SyncWire extends Github.Wire where
  nativeMergeAudit : RepositoryId × Github.StackAsyncMergePlan × Github.StackEntryGeneration → List UInt8
  squashMergeAudit : RepositoryId × PrNumber × PullRequestSnapshot × BranchSnapshot ×
    Option CumulativeTreeProof → List UInt8

abbrev SyncIo := Prog.Fallible SyncRequest SyncAnswer SyncError

/-- A call whose errors keep their own type until the caller reports them. -/
def attemptCall {α : Type} (request : SyncRequest) (value : SyncAnswer → Option α) :
    SyncIo (Except MutationError α) :=
  Prog.query request fun answer => match answer with
    | .failed error => some (.ok (.error error))
    | .refused error => some (.error error)
    | answer => (value answer).map fun a => .ok (.ok a)

def call {α : Type} (request : SyncRequest) (onError : MutationError → SyncError)
    (value : SyncAnswer → Option α) : SyncIo α :=
  Prog.query request fun answer => match answer with
    | .failed error => some (.error (onError error))
    | .refused error => some (.error error)
    | answer => (value answer).map .ok

end Sync
end Cara
