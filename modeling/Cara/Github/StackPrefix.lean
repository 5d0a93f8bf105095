import Cara.Github.StackMerge

/-! The maximal ready prefix of one exact Stack generation and the merge plan made of it. -/
namespace Cara
namespace Github

inductive StackMergeBlocker where
  | stackClosed
  | pullRequestNotOpen
  | draft
  | stackEntryNotOpen
  | graphInexact
  | syntheticCandidateMissing
  | syntheticCandidateStale
  | syntheticCandidateTopologyMismatch
  | held
  | mechanicallyBlocked
  | requiredChecksNotReady
  | forceUnsupported
deriving DecidableEq

def StackMergeBlocker.debug : StackMergeBlocker → String
  | .stackClosed => "StackClosed"
  | .pullRequestNotOpen => "PullRequestNotOpen"
  | .draft => "Draft"
  | .stackEntryNotOpen => "StackEntryNotOpen"
  | .graphInexact => "GraphInexact"
  | .syntheticCandidateMissing => "SyntheticCandidateMissing"
  | .syntheticCandidateStale => "SyntheticCandidateStale"
  | .syntheticCandidateTopologyMismatch => "SyntheticCandidateTopologyMismatch"
  | .held => "Held"
  | .mechanicallyBlocked => "MechanicallyBlocked"
  | .requiredChecksNotReady => "RequiredChecksNotReady"
  | .forceUnsupported => "ForceUnsupported"

structure StackMergeEntryEvidence where
  generation : StackEntryGeneration
  blockers : List StackMergeBlocker
deriving DecidableEq

structure StackBlockedEntry where
  pr : PrNumber
  position : ℕ
  blockers : List StackMergeBlocker
deriving DecidableEq

structure StackReadyPrefix where
  stack : StackGeneration
  selected : List StackEntryGeneration
  firstBlocked : Option StackBlockedEntry := none
deriving DecidableEq

def entryBlockers (stack : StackGeneration) (item : StackMergeEntryEvidence) :
    List StackMergeBlocker :=
  (if stack.isOpen then [] else [.stackClosed]) ++
  (if item.generation.pullRequestState = .open then [] else [.pullRequestNotOpen]) ++
  (if item.generation.draft then [.draft] else []) ++
  (if Text.eqIgnoreAsciiCase item.generation.stackState "open" then [] else [.stackEntryNotOpen]) ++
  item.blockers

def selectPrefix (stack : StackGeneration) :
    List StackMergeEntryEvidence → List StackEntryGeneration × Option StackBlockedEntry
  | [] => ([],none)
  | item::rest =>
      match entryBlockers stack item with
      | [] =>
          let (selected,blocked) := selectPrefix stack rest
          (item.generation::selected,blocked)
      | blockers => ([],some ⟨item.generation.pr,item.generation.position,blockers⟩)

def evidenceMismatch : List StackEntryGeneration → List StackMergeEntryEvidence → ℕ → Option ℕ
  | entry::entries,item::items,index =>
      if entry = item.generation then evidenceMismatch entries items (index + 1) else some index
  | _,_,_ => none

def planGithubStackReadyPrefix (stack : StackGeneration) (evidence : List StackMergeEntryEvidence) :
    Except StackMergeError StackReadyPrefix :=
  if evidence.length ≠ stack.topology.entries.length then
    .error (.invalidPlan "github_stack_merge_evidence_incomplete"
      "merge readiness evidence must cover every Stack entry")
  else match evidenceMismatch stack.topology.entries evidence 0 with
    | some index => .error (.invalidPlan "github_stack_merge_evidence_stale"
        ("merge readiness evidence at position " ++ toString index ++
          " is not the exact Stack generation"))
    | none =>
        let (selected,blocked) :=
          selectPrefix stack (evidence.drop
            ((firstOpen stack.topology.entries).getD stack.topology.entries.length))
        .ok { stack := stack,selected := selected,firstBlocked := blocked }

/-- The only accepted merge mode is one direct squash of the selection. -/
def StackReadyPrefix.directSquashPlan (ready : StackReadyPrefix) (operationId actor : String) :
    Except StackMergeError StackAsyncMergePlan :=
  if ready.selected = [] then
    .error (.invalidPlan "github_stack_no_ready_prefix"
      "native Stack merge requires at least one ready bottom entry")
  else .ok {
    operationId := operationId
    actor := actor
    before := ready.stack
    selected := ready.selected }

end Github
end Cara
