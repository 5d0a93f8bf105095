import Cara.Sync.RootMerge
import Cara.Sync.NativeRequests

/-! Which requests each part of a root landing makes: everything but the promotion and the
merge itself reads, comments or asks for checks again. -/
namespace Cara
namespace Sync

open RequiredRuns (RequiredContextsRead HeadRunLineage RequiredRunsAssessment)
open Prog (Uses)

/-- Neither the base nor the merged state of a pull request is written. -/
def Plain : SyncRequest → Prop
  | .squashMerge .. | .setBase .. => False
  | _ => True

def Unmerging : SyncRequest → Prop
  | .squashMerge .. => False
  | _ => True

theorem Plain.unmerging (q : SyncRequest) (h : Plain q) : Unmerging q := by
  cases q <;> first | exact h.elim | trivial

theorem Reading.plain (q : SyncRequest) (h : Reading q) : Plain q := by
  cases q <;> first | exact h.elim | trivial

section Observation

variable {repository : RepositoryId}

theorem discoverRequiredContexts_uses (branch : String) (number : PrNumber) :
    Uses Reading (discoverRequiredContexts repository branch number) := by
  apply Uses.bind Uses.get
  intro p
  split
  · exact Uses.pure _
  · apply Uses.bind (branchRequiredContexts_uses branch (some number))
    intro read
    exact Uses.bind (Uses.modify _) fun _ => Uses.pure _

theorem reexamine_uses (policy : RequiredContextsRead) (number : PrNumber) (forced : Bool)
    (current : PullRequestSnapshot) :
    Uses Reading (reexamine repository policy number forced current) := by
  apply Uses.bind (assessWithLineage_uses current policy none)
  intro first
  split
  · apply Uses.bind (refetchCiSnapshot_uses number)
    intro again
    apply Uses.bind (assessWithLineage_uses again policy none)
    intro second
    split
    · apply Uses.bind (preconditionOf_uses number)
      intro expected
      exact Uses.bind (ask_uses trivial) fun _ => Uses.pure _
    · exact Uses.pure _
  · exact Uses.pure _

theorem diagnose_uses (policy : RequiredContextsRead) (number : PrNumber)
    (current : PullRequestSnapshot) (disposition : CiDisposition) :
    Uses Plain (diagnose repository policy number current disposition) := by
  unfold diagnose
  split
  · apply Uses.bind (preconditionOf_uses number)
    intro expected
    apply Uses.bind (ask_uses trivial)
    intro runs
    dsimp only
    split
    · exact Uses.pure _
    · apply Uses.bind (preconditionOf_uses number)
      intro expected
      exact Uses.bind (ask_uses trivial) fun _ => Uses.pure _
  · exact Uses.pure _

theorem observeCi_uses (number : PrNumber) : Uses Plain (observeCi repository number) := by
  apply Uses.bind ((refetchCiSnapshot_uses number).weaken Reading.plain)
  intro current
  apply Uses.bind Uses.get
  intro p
  apply Uses.bind ((discoverRequiredContexts_uses _ number).weaken Reading.plain)
  intro policy
  apply Uses.bind ((reexamine_uses policy number _ current).weaken Reading.plain)
  intro examined
  apply Uses.bind ((assessWithLineage_uses _ policy _).weaken Reading.plain)
  intro assessment
  exact Uses.bind (diagnose_uses policy number _ _) fun _ => Uses.pure _

theorem retriggerRequiredRuns_uses (number : PrNumber) (checkSuiteId : ℕ)
    (contexts : RequiredContextsRead) :
    Uses Plain (retriggerRequiredRuns repository number checkSuiteId contexts) := by
  apply Uses.bind (currentOf_uses number)
  intro before
  apply Uses.bind (ensureMutationCapacity_uses 1)
  intro _
  apply Uses.bind (preconditionOf_uses number)
  intro expected
  apply Uses.bind (Uses.lift (Prog.Only.query trivial))
  intro outcome
  split
  · exact Uses.pure _
  · apply Uses.bind (Uses.modify _)
    intro _
    apply Uses.bind (ask_uses trivial)
    intro refreshed
    split
    · exact Uses.pure _
    · apply Uses.bind (Uses.modify _)
      intro _
      apply Uses.bind (ask_uses trivial)
      intro lineage
      apply Uses.bind ((assessWithLineage_uses _ contexts _).weaken Reading.plain)
      intro assessment
      exact Uses.pure _

theorem recoverRequiredRuns_uses (number : PrNumber) (contexts : RequiredContextsRead)
    (assessment : RequiredRunsAssessment) :
    Uses Plain (recoverRequiredRuns repository number contexts assessment) := by
  apply Uses.bind Uses.get
  intro p
  split
  · exact Uses.bind (retriggerRequiredRuns_uses number _ contexts) fun _ => Uses.pure _
  · exact Uses.pure _

theorem verifyRequiredRuns_uses (caravanId number : PrNumber) :
    Uses Plain (verifyRequiredRuns repository caravanId number) := by
  apply Uses.bind (currentOf_uses number)
  intro current
  apply Uses.bind Uses.get
  intro p
  apply Uses.bind ((discoverRequiredContexts_uses _ number).weaken Reading.plain)
  intro contexts
  apply Uses.bind ((assessRequiredRuns_uses current contexts).weaken Reading.plain)
  intro assessment
  exact Uses.bind (recoverRequiredRuns_uses number contexts assessment) fun _ => Uses.modify _

theorem rereadHead_uses (number : PrNumber) (expected : CommitOid) (left : ℕ)
    (observed : PullRequestSnapshot) :
    Uses Reading (rereadHead repository number expected left observed) := by
  induction left generalizing observed with
  | zero => exact Uses.pure _
  | succ left ih =>
    rw [rereadHead]
    split
    · exact Uses.pure _
    · apply Uses.bind (ask_uses trivial)
      intro again
      exact Uses.bind (ih again) fun _ => Uses.pure _

theorem readExactRootGeneration_uses (number : PrNumber) (defaultBranch : String) :
    Uses Reading (readExactRootGeneration repository number defaultBranch) := by
  apply Uses.bind Uses.get
  intro p
  apply Uses.bind (ask_uses trivial)
  intro first
  dsimp only
  split
  · exact Uses.bind (Uses.modify _) fun _ => Uses.pure _
  · apply Uses.bind (rereadHead_uses number _ _ first)
    intro r
    split
    · exact Uses.throw _
    · split
      · exact Uses.throw _
      · exact Uses.bind (Uses.modify _) fun _ => Uses.pure _

theorem rereadUntil_uses (number : PrNumber) (wanted : PullRequestSnapshot → Bool) (left : ℕ)
    (observed : PullRequestSnapshot) :
    Uses Reading (rereadUntil repository number wanted left observed) := by
  induction left generalizing observed with
  | zero => exact Uses.pure _
  | succ left ih =>
    rw [rereadUntil]
    split
    · exact Uses.pure _
    · apply Uses.bind (ask_uses trivial)
      intro again
      apply Uses.bind (Uses.modify _)
      intro _
      exact Uses.bind (ih again) fun _ => Uses.pure _

end Observation

section Landing

variable {w : SyncWire} {status : StatusOutput}

theorem refuteContainment_uses (number : PrNumber) (observed : PullRequestSnapshot)
    (observedDefault : CommitOid) (candidates : List PullRequestSnapshot) :
    Uses Plain (refuteContainment status number observed observedDefault candidates) := by
  induction candidates with
  | nil => exact Uses.pure _
  | cons candidate rest ih =>
    apply Uses.bind (ask_uses trivial)
    intro relationToRoot
    apply Uses.bind (ask_uses trivial)
    intro _
    split
    · exact Uses.throw _
    · exact ih

theorem defaultContains_uses (number : PrNumber) (mergeCommit : Option CommitOid) :
    Uses Plain (defaultContains status number mergeCommit) := by
  apply Uses.bind (ask_uses trivial)
  intro defaultAfter
  cases mergeCommit with
  | none => exact Uses.pure _
  | some commit => exact Uses.bind (ask_uses trivial) fun _ => Uses.pure _

theorem confirmReachable_uses (number : PrNumber) (mergeCommit : Option CommitOid) (left : ℕ) :
    Uses Plain (confirmReachable status number mergeCommit left) := by
  induction left with
  | zero =>
    apply Uses.bind (defaultContains_uses number mergeCommit)
    rintro ⟨defaultAfter,contained⟩
    dsimp only
    split
    · exact Uses.pure _
    · exact Uses.throw _
  | succ left ih =>
    apply Uses.bind (defaultContains_uses number mergeCommit)
    rintro ⟨defaultAfter,contained⟩
    dsimp only
    split
    · exact Uses.pure _
    · exact Uses.bind ih fun _ => Uses.pure _

theorem auditRoot_uses (number : PrNumber) (a : Authorized) :
    Uses Plain (auditRoot w status number a) := by
  apply Uses.bind ((ensureOperationComment_uses number _ _ _).weaken Reading.plain)
  intro _
  apply Uses.bind (ask_uses trivial)
  intro _
  apply Uses.bind (ask_uses trivial)
  intro _
  apply Uses.bind ((branchRequiredContexts_uses _ _).weaken Reading.plain)
  intro finalPolicy
  split
  · exact Uses.bind (recordMergeWait_uses number _ _) fun _ => Uses.pure _
  · exact Uses.pure _

theorem confirmLanding_uses (caravanId number : PrNumber) (remaining : List PrNumber)
    (a : Authorized) : Uses Plain (confirmLanding status caravanId number remaining a) := by
  apply Uses.bind (currentOf_uses number)
  intro current
  apply Uses.bind ((rereadUntil_uses number _ _ current).weaken Reading.plain)
  rintro ⟨observed,more⟩
  dsimp only
  split
  · exact Uses.throw _
  · split
    · exact Uses.throw _
    · apply Uses.bind (ask_uses trivial)
      intro mergeCommit
      apply Uses.bind (confirmReachable_uses number mergeCommit _)
      intro _
      exact Uses.modify _

theorem promoteRoot_uses (number : PrNumber) (predecessorMerged : Bool) :
    Uses Unmerging (promoteRoot status number predecessorMerged) := by
  have hreading (q : SyncRequest) (h : Reading q) : Unmerging q := (h.plain).unmerging
  apply Uses.bind ((readExactRootGeneration_uses number _).weaken hreading)
  intro r
  dsimp only
  split
  · exact Uses.modify _
  · apply Uses.bind (ensureMutationCapacity_uses 1)
    intro _
    apply Uses.bind (preconditionOf_uses number)
    intro expected
    apply Uses.bind (ask_uses trivial)
    intro receipt
    apply Uses.bind (Uses.modify _)
    intro _
    apply Uses.bind (currentOf_uses number)
    intro current
    apply Uses.bind ((rereadUntil_uses number _ _ current).weaken hreading)
    intro observed
    split
    · exact Uses.throw _
    · split
      · exact Uses.throw _
      · exact Uses.pure _

theorem advanceHead_uses (caravanId root next : PrNumber) :
    Uses Unmerging (advanceHead status caravanId root next) := by
  apply Uses.bind (promoteRoot_uses next true)
  intro _
  apply Uses.bind (Uses.modify _)
  intro _
  apply Uses.bind ((observeCi_uses next).weaken Plain.unmerging)
  intro observation
  apply Uses.bind (Uses.modify _)
  intro _
  exact (verifyRequiredRuns_uses caravanId next).weaken Plain.unmerging

end Landing

end Sync
end Cara
