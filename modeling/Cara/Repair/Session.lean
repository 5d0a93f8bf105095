import Cara.Lib.Fnv
import Cara.Lib.Guard
import Cara.RequiredRuns

/-! Repair sessions: the durable manifest of one managed workspace, its publication policy and the
checks of a manifest that is read back. -/
namespace Cara
namespace Repair

inductive RepairState where
  | preparing
  | resolving
  | committed
  | published
deriving DecidableEq

inductive RepairPhase where
  | preparing
  | seedingObjectCache
  | configuringProvider
  | cloning
  | fetchingHead
  | fetchingTarget
  | checkingOut
  | merging
  | resolving
  | committed
  | published
  | syncPending
  | completed
deriving DecidableEq

structure NonForceGeneration where
  pr : PrNumber
  head : BranchSnapshot
  base : BranchSnapshot
  createdAt : String
  updatedAt : String
  labels : Finset String
  autoMerge : AutoMergeState
deriving DecidableEq

structure NonForceRepair where
  actor : String
  reason : String
  defaultRef : String
  source : NonForceGeneration
  target : Option NonForceGeneration := none
  publicationAttempted : Bool := false
deriving DecidableEq

structure RepairPathGrant where
  path : String
  actor : String
  reason : String
  baselineOid : String
  expectedResultOid : String
  expiresUnixMs : ℕ
  applied : Bool
deriving DecidableEq

structure RepairAgentEditAuthorization where
  session : String
  repository : RepositoryId
  pr : PrNumber
  headOid : CommitOid
  targetOid : CommitOid
  configFingerprint : String
  actor : String
  reason : String
  expiresUnixMs : ℕ
deriving DecidableEq

structure RepairAgentEditReceipt where
  actor : String
  reason : String
  paths : List String
  pathCount : ℕ
  pathFingerprint : String
  diffFingerprint : String
  diffBytes : ℕ
  stagedIndexFingerprint : String
  verifiedUnixMs : ℕ
  freshCiRequired : Bool
deriving DecidableEq

structure RepairValidationReceipt where
  commandHash : String
  order : ℕ
  passed : Bool
deriving DecidableEq

structure RepairSession where
  version : ℕ
  nonForce : Option NonForceRepair := none
  session : String
  repository : RepositoryId
  pr : PrNumber
  head : BranchSnapshot
  oldBase : BranchSnapshot
  target : BranchSnapshot
  targetPr : Option PrNumber := none
  workspace : String
  providerGitUrl : String
  configFingerprint : String
  state : RepairState
  phase : RepairPhase
  conflictingPaths : List String := []
  baselineIndex : List (String × String) := []
  semanticGrants : List RepairPathGrant := []
  agentEditAuthorization : Option RepairAgentEditAuthorization := none
  agentEditReceipt : Option RepairAgentEditReceipt := none
  validation : List RepairValidationReceipt := []
  updatedUnixMs : ℕ := 0
  publishedHead : Option CommitOid := none
deriving DecidableEq

inductive RepairDetail where
  | refusal
  | session (repair : RepairSession)
  | remote (branch : String) (expected actual : CommitOid)
  | path (path : String)
  | grant (grant : RepairPathGrant) (actualOid : Option String)
deriving DecidableEq

abbrev RepairError := AppError RepairDetail

def invalid (code message : String) : RepairError := ⟨.validation,code,message,none⟩

def ofSession (repair : RepairSession) (code message : String) : RepairError :=
  ⟨.validation,code,message,some (.session repair)⟩

end Repair
end Cara
