import Cara.Admission
import Cara.Github.StackModel
import Cara.PauseModel

/-! The live status that every mutating operation starts from. -/
namespace Cara

inductive MergeCandidateFreshness where
  | fresh
  | staleHead
  | staleBase
  | missing
  | unknown
deriving DecidableEq

structure MergeCandidateIdentity where
  pr : PrNumber
  base : BranchSnapshot
  head : BranchSnapshot
  synthetic : Option SyntheticMergeCandidate := none
  freshness : MergeCandidateFreshness
  comparedBase : Option BranchSnapshot := none
  staleBase : Bool := false
  staleHead : Bool := false
deriving DecidableEq

structure InitializationMutationBlocker where
  code : String
  message : String
  next : String
deriving DecidableEq

structure InitializationStatus where
  ready : Bool := true
  missingLabels : List String := []
  mismatchedLabels : List String := []
  mutationBlocker : Option InitializationMutationBlocker := none
deriving DecidableEq

inductive StackConsistency where
  | exact
  | drifted
  | orphaned
  | unknown
deriving DecidableEq

structure StackBackendProblem where
  code : String
  message : String
deriving DecidableEq

structure NativeStackAncestryEdge where
  parentPr : PrNumber
  parentHead : CommitOid
  childPr : PrNumber
  childHead : CommitOid
  relation : Generation.CommitRelation
  linear : Bool
deriving DecidableEq

structure NativeStackStatus where
  stack : Github.StackSnapshot
  caravanId : Option PrNumber := none
  consistency : StackConsistency
  ancestry : List NativeStackAncestryEdge := []
  problems : List StackBackendProblem := []
deriving DecidableEq

inductive StackCapability where
  | notProbed
  | available
  | unavailable
  | unknown
deriving DecidableEq

structure QuarantinedCaravan where
  caravanId : PrNumber
  code : String
  recovery : String
deriving DecidableEq

structure StackBackendStatus where
  configured : Config.StackType := .caravan
  capability : StackCapability := .notProbed
  nativeStacks : List NativeStackStatus := []
  providerStacksTruncated : Bool := false
  problems : List StackBackendProblem := []
  quarantinedCaravans : List QuarantinedCaravan := []
deriving DecidableEq

inductive ExternalAutoMergePolicy where
  | disable
  | refuse
deriving DecidableEq

def noAdmission : Admission.AdmissionStatus where
  priorityLabels := []
  generationIntegrity := ⟨1,"",[],0,false⟩
  candidates := []
  skipped := []
  rejected := []

structure StatusOutput where
  repository : RepositoryId
  defaultBranch : String
  analysis : GraphAnalysis
  admission : Admission.AdmissionStatus := noAdmission
  initialization : InitializationStatus := {}
  mergeCandidates : List MergeCandidateIdentity := []
  headMergeActor : HeadMergeActor := .github
  pauses : List Pause.PauseStatus := []
  externalAutoMergePolicy : ExternalAutoMergePolicy := .disable
  maxRootMergesPerTick : ℕ := 1
  admissionGate : Option Config.CiAdmissionGateConfig := none
  stackBackend : StackBackendStatus := {}
  currentPr : Option PrNumber := none
  currentBranch : Option String := none
  healthy : Bool := true
  rebaseOnJoin : Bool := false

/-- A mutating operation fails before any provider mutation when first-use resources are
absent or incompatible. -/
def InitializationStatus.requireReady (status : InitializationStatus) :
    Except (AppError (List (String × String))) Unit :=
  match status.mutationBlocker with
  | some blocker => .error {
      category := .validation
      code := blocker.code
      message := blocker.message
      details := some [("next",blocker.next)] }
  | none =>
      if status.ready then .ok () else .error {
        category := .validation
        code := "repository_not_initialized"
        message := "Caravan repository initialization must complete before mutation"
        details := some (status.missingLabels.map (fun l => ("missing_labels",l)) ++
          status.mismatchedLabels.map (fun l => ("mismatched_labels",l)) ++ [("next",
          "run `cara init`, reconcile any bounded mismatch, then rerun the same command")]) }

end Cara
