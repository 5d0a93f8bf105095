import Cara.Github.StackPrefix
import Cara.Status

/-! Policy facts turned into the Stack planner's blockers. Nothing here reads the provider. -/
namespace Cara
namespace Sync

open Github (StackGeneration StackEntryGeneration StackMergeBlocker StackMergeEntryEvidence)

def PauseState.isEffective : Pause.PauseState → Bool
  | .active | .expired | .recovering | .recoveryDrift => true
  | .stale | .retired => false

def heldCaravanMembers (status : StatusOutput) : List PrNumber :=
  (status.pauses.filter fun pause => PauseState.isEffective pause.state).flatMap fun pause =>
    (status.analysis.fleet.caravan pause.record.caravanHead).elim [] (·.members)

structure StackPolicyFacts where
  pullRequests : PullRequestMap
  mergeCandidates : PrNumber → Option MergeCandidateIdentity
  compatibility : List CompatibilityReport
  heldMembers : List PrNumber

section Blockers

variable (facts : StackPolicyFacts) (stack : StackGeneration) (entry : StackEntryGeneration)

def mechanicallyBlocked : Bool :=
  facts.compatibility.any fun report => decide (report.candidate = entry.head ∧
    report.target = entry.base ∧ report.outcome ≠ .clean)

/-- The bottom entry is compared with the freshly observed Stack base, every other with its
own; without such a base the candidate is stale. -/
def effectiveBase : Option BranchSnapshot :=
  if entry.position = 0 ∧ stack.topology.entries.head? = some entry then
    if entry.base.repository ≠ stack.topology.base.repository ∨
        entry.base.name ≠ stack.topology.base.name then none
    else some stack.topology.base
  else some entry.base

/-- The merge commit has the current two-parent shape, ordinary or on the predecessor's. -/
def candidateShapeBlocker (candidate : MergeCandidateIdentity) (synthetic : SyntheticMergeCandidate)
    (base : BranchSnapshot) (previousCandidate : Option CommitOid) : Option StackMergeBlocker :=
  let isRoot := decide (entry.position = 0 ∧ stack.topology.entries.head? = some entry)
  let ordinary := decide (synthetic.parents = [base.oid,entry.head.oid])
  let projectionOnly := isRoot && decide (entry.base.oid ≠ base.oid) && candidate.staleBase &&
    decide (candidate.freshness = .staleBase)
  if candidate.staleHead ∨ candidate.comparedBase ≠ some base then some .syntheticCandidateStale
  else if ordinary && decide (candidate.freshness ≠ .fresh) && !projectionOnly then
    some .syntheticCandidateStale
  else if !ordinary && !previousCandidate.any fun parent =>
      decide (synthetic.parents = [parent,entry.head.oid]) then
    some .syntheticCandidateTopologyMismatch
  else none

def syntheticCandidateBlocker (previousCandidate : Option CommitOid) : Option StackMergeBlocker :=
  match facts.mergeCandidates entry.pr with
  | none => some .syntheticCandidateMissing
  | some candidate =>
      if candidate.base ≠ entry.base ∨ candidate.head ≠ entry.head then some .syntheticCandidateStale
      else match candidate.synthetic,effectiveBase stack entry with
        | none,_ => some .syntheticCandidateMissing
        | some _,none => some .syntheticCandidateStale
        | some synthetic,some base =>
            candidateShapeBlocker stack entry candidate synthetic base previousCandidate

def discoveryBlockers : List StackMergeBlocker :=
  match facts.pullRequests[entry.pr]? with
  | none => [.graphInexact]
  | some pull =>
      (if pull.state = .open then [] else [.pullRequestNotOpen]) ++
      (if pull.draft then [.draft] else []) ++
      (if pull.head ≠ entry.head ∨ pull.base ≠ entry.base then [.graphInexact] else []) ++
      (if pull.hasLabel "caravan-force" then [.forceUnsupported] else [])

def policyBlockers (ready : Bool) (previousCandidate : Option CommitOid) : List StackMergeBlocker :=
  (if stack.isOpen then [] else [.stackClosed]) ++
  (if Text.eqIgnoreAsciiCase entry.stackState "open" then [] else [.stackEntryNotOpen]) ++
  discoveryBlockers facts entry ++
  (syntheticCandidateBlocker facts stack entry previousCandidate).toList ++
  (if entry.pr ∈ facts.heldMembers then [.held] else []) ++
  (if mechanicallyBlocked facts entry then [.mechanicallyBlocked] else []) ++
  (if ready then [] else [.requiredChecksNotReady])

end Blockers

def isCandidateBlocker : StackMergeBlocker → Bool
  | .syntheticCandidateMissing | .syntheticCandidateStale | .syntheticCandidateTopologyMismatch => true
  | _ => false

/-- One row of evidence for each entry; an entry with a valid candidate hands it on. -/
def stackMergeEvidence (facts : StackPolicyFacts) (stack : StackGeneration)
    (ready : PrNumber → Bool) :
    List StackEntryGeneration → Option CommitOid → List StackMergeEntryEvidence
  | [],_ => []
  | entry::entries,previousCandidate =>
      let blockers := policyBlockers facts stack entry (ready entry.pr) previousCandidate
      let next := if blockers.any isCandidateBlocker then none
        else ((facts.mergeCandidates entry.pr).bind (·.synthetic)).map (·.oid)
      ⟨entry,blockers⟩::stackMergeEvidence facts stack ready entries next

/-- A shortened prefix blocked only by stale candidates waits for the provider. -/
def nativePrefixWaitsForProviderRegeneration (ready : Github.StackReadyPrefix) (currentOpen : ℕ) :
    Bool :=
  decide (ready.selected.length ≠ currentOpen) && ready.firstBlocked.any fun blocked =>
    !blocked.blockers.isEmpty && blocked.blockers.all fun blocker =>
      decide (blocker = .syntheticCandidateStale)

end Sync
end Cara
