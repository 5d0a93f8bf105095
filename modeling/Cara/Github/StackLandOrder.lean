import Cara.Github.StackLand
import Cara.Github.StackLandCalls

/-! What one landing call keeps: the invariant of a returned checkpoint, how far a call may
move it and which requests it may issue from it. -/
namespace Cara
namespace Github

open Prog (record Holds holds_bind holds_ofResult holds_mapError)

variable (w : Wire) {repository : RepositoryId}

theorem verify_sealed_iff (c : StackLandCheckpoint) :
    (StackLandCheckpoint.sealed w c).verify w = true ↔
      c.schemaVersion = landSchemaVersion ∧ c.providerAtomic = false ∧ phaseShape c = true ∧
        receiptBound w c = true := by
  have hseal : landCheckpointSeal.verify w.landCheckpoint (StackLandCheckpoint.sealed w c) = true :=
    landCheckpointSeal.verify_sealed _ c
  have hshape : phaseShape (StackLandCheckpoint.sealed w c) = phaseShape c := rfl
  have hbound : receiptBound w (StackLandCheckpoint.sealed w c) = receiptBound w c := rfl
  have hschema : (StackLandCheckpoint.sealed w c).schemaVersion = c.schemaVersion := rfl
  have hatomic : (StackLandCheckpoint.sealed w c).providerAtomic = c.providerAtomic := rfl
  unfold StackLandCheckpoint.verify
  rw [hseal,hshape,hbound,hschema,hatomic]
  simp [and_assoc]

structure LandInvariant (c : StackLandCheckpoint) : Prop where
  verified : c.verify w = true
  /-- Terminal evidence does not exist before the terminal phase. -/
  early : c.phase.rank < StackLandPhase.terminal.rank → c.terminalReceipt = none
  merge_plan : ∀ m, c.merge = some m → m.merge.plan = c.plan

namespace LandInvariant

variable {w} {c : StackLandCheckpoint}

theorem schema (h : LandInvariant w c) : c.schemaVersion = landSchemaVersion := by
  have hverify := h.verified
  simp only [StackLandCheckpoint.verify,Bool.and_eq_true,decide_eq_true_eq] at hverify
  exact hverify.1.1.1.1

theorem atomic (h : LandInvariant w c) : c.providerAtomic = false := by
  have hverify := h.verified
  simp only [StackLandCheckpoint.verify,Bool.and_eq_true,Bool.not_eq_true'] at hverify
  exact hverify.1.1.1.2

theorem shape (h : LandInvariant w c) : phaseShape c = true := by
  have hverify := h.verified
  simp only [StackLandCheckpoint.verify,Bool.and_eq_true] at hverify
  exact hverify.1.1.2

theorem bound (h : LandInvariant w c) : receiptBound w c = true := by
  have hverify := h.verified
  simp only [StackLandCheckpoint.verify,Bool.and_eq_true] at hverify
  exact hverify.1.2

end LandInvariant

theorem landInvariant_begin (repository : RepositoryId) (plan : StackAsyncMergePlan) :
    LandInvariant w (nativeStackLandBegin w repository plan) where
  verified := (verify_sealed_iff w _).mpr ⟨rfl,rfl,rfl,rfl⟩
  early _ := rfl
  merge_plan _ hm := by cases hm

/-- A resealed successor of a kept checkpoint keeps the invariant when its own evidence fits
its phase. -/
theorem landInvariant_sealed {c next : StackLandCheckpoint} (h : LandInvariant w c)
    (hschema : next.schemaVersion = c.schemaVersion)
    (hatomic : next.providerAtomic = c.providerAtomic) (hshape : phaseShape next = true)
    (hbound : receiptBound w next = true)
    (hearly : next.phase.rank < StackLandPhase.terminal.rank → next.terminalReceipt = none)
    (hmerge : ∀ m, next.merge = some m → m.merge.plan = next.plan) :
    LandInvariant w (StackLandCheckpoint.sealed w next) where
  verified := (verify_sealed_iff w next).mpr
    ⟨hschema.trans h.schema,hatomic.trans h.atomic,hshape,hbound⟩
  early := hearly
  merge_plan := hmerge

structure LandStep (c c' : StackLandCheckpoint) : Prop where
  phase_le : c.phase.rank ≤ c'.phase.rank
  repository_eq : c'.repository = c.repository
  plan_eq : c'.plan = c.plan
  /-- A released proof of landing or rejection is final. -/
  settled : c.phase = .released →
    c.terminalStatus = some .merged ∨ c.terminalStatus = some .failed →
    c'.terminalStatus = c.terminalStatus

theorem LandStep.refl (c : StackLandCheckpoint) : LandStep c c := ⟨le_rfl,rfl,rfl,fun _ _ => rfl⟩

theorem LandStep.released {c c' : StackLandCheckpoint} (h : LandStep c c')
    (hreleased : c.phase = .released) : c'.phase = .released := by
  have hle := h.phase_le
  rw [hreleased] at hle
  cases hc : c'.phase <;> rw [hc] at hle <;> first | rfl | exact absurd hle (by decide)

theorem LandStep.trans {a b c : StackLandCheckpoint} (h : LandStep a b) (h' : LandStep b c) :
    LandStep a c where
  phase_le := h.phase_le.trans h'.phase_le
  repository_eq := h'.repository_eq.trans h.repository_eq
  plan_eq := h'.plan_eq.trans h.plan_eq
  settled hreleased hstatus := by
    have hkept := h.settled hreleased hstatus
    rw [← hkept] at hstatus
    exact (h'.settled (h.released hreleased) hstatus).trans hkept

/-- The requests a call on a checkpoint may issue after a conversation. -/
def Permitted (c : StackLandCheckpoint) (h : Conversation) : Command → Prop
  | .deleteRuleset repository id => c.phase = .terminal ∧ repository = c.repository ∧
      ∃ lock, c.branchLock = some lock ∧ id = lock.id ∧ LockRead w c.repository lock h
  | .nativeStackMergeSubmit repository _ _ _ _ => c.phase = .submitting ∧
      repository = c.repository ∧
      ∃ lock, c.branchLock = some lock ∧ LockCovers c.plan lock ∧ LockRead w c.repository lock h
  | _ => True

theorem permitted_of_ordinary (c : StackLandCheckpoint) (h : Conversation) (command : Command)
    (hordinary : Ordinary command) : Permitted w c h command := by
  cases command <;> trivial

/-- The rule every landing call satisfies on a kept checkpoint. -/
def LandRule (c : StackLandCheckpoint) (p : Io StackLandError StackLandCheckpoint) : Prop :=
  ∀ h, Holds record (Permitted w c) (fun _ => True) p
    (fun _ r => ∀ c', r = .ok c' → LandInvariant w c' ∧ LandStep c c') h

theorem validateLand_ok {c : StackLandCheckpoint} {r : Unit}
    (h : validateLand w repository c = .ok r) : c.repository = repository := by
  unfold validateLand at h
  split at h
  · cases h
  case isFalse hvalid =>
    simp only [not_or,not_not,ne_eq] at hvalid
    exact hvalid.1

/-- Every call validates first and refuses a checkpoint of another repository. -/
theorem landRule_of_validated {c : StackLandCheckpoint}
    {p : Io StackLandError StackLandCheckpoint}
    (h : c.repository = repository → LandRule w c p) :
    LandRule w c (Prog.ofResult (validateLand w repository c) >>= fun _ => p) := by
  intro t
  rw [holds_bind,holds_ofResult]
  cases hvalid : validateLand w repository c with
  | error e => exact fun c' hc' => by cases hc'
  | ok _ => exact h (validateLand_ok w hvalid) t

theorem landRule_pure {c : StackLandCheckpoint} {c' : StackLandCheckpoint}
    (hinv : LandInvariant w c') (hstep : LandStep c c') : LandRule w c (pure c') := by
  intro _ c'' hc''
  cases hc''
  exact ⟨hinv,hstep⟩

theorem landRule_throw {c : StackLandCheckpoint} (e : StackLandError) : LandRule w c (throw e) :=
  fun _ c' hc' => by cases hc'

/-- An ordinary call, then a rule for what its result is turned into. -/
theorem landRule_bind_calls {c : StackLandCheckpoint} {ε α : Type} {p : Io ε α}
    {f : ε → StackLandError} {post : Except ε α → Prop}
    {g : α → Io StackLandError StackLandCheckpoint} (hp : Prog.Calls Ordinary p post)
    (hg : ∀ a, post (.ok a) → LandRule w c (g a)) : LandRule w c (Prog.mapError f p >>= g) := by
  intro h
  rw [holds_bind,holds_mapError]
  apply (hp.holds (permitted_of_ordinary w c) (fun _ => trivial) h).mono
  intro h' r hr
  cases r with
  | error e => exact fun c' hc' => by cases hc'
  | ok a => exact hg a hr.2 h'

/-- The phases before the marker hold no merge, no terminal evidence and no release. -/
theorem LandInvariant.unsubmitted {c : StackLandCheckpoint} (h : LandInvariant w c)
    (hphase : c.phase.rank < StackLandPhase.submitted.rank) :
    c.merge = none ∧ c.terminalStatus = none ∧ c.terminalReceipt = none ∧ c.lockRelease = none := by
  have hshape := h.shape
  unfold phaseShape at hshape
  have hreceipt : c.terminalReceipt = none := h.early (by
    have : StackLandPhase.submitted.rank < StackLandPhase.terminal.rank := by decide
    omega)
  cases hc : c.phase <;> rw [hc] at hshape hphase <;>
    simp_all [StackLandPhase.rank]

theorem landRule_lock {c : StackLandCheckpoint} (h : LandInvariant w c) :
    LandRule w c (nativeStackLandLock w repository c) := by
  apply landRule_of_validated
  intro _
  split
  · exact landRule_pure w h (.refl c)
  case isFalse hphase =>
    have hlow : c.phase.rank < StackLandPhase.locked.rank := not_le.mp hphase
    have hrank : StackLandPhase.locked.rank < StackLandPhase.submitted.rank := by decide
    obtain ⟨hmerge,hstatus,hreceipt,hrelease⟩ := h.unsubmitted w (hlow.trans hrank)
    apply landRule_bind_calls w (nativeStackBranchLockAcquire_ordinary w _)
    intro receipt _
    split
    · exact landRule_throw w _
    case h_2 lock _ =>
      apply landRule_pure
      · refine landInvariant_sealed w h rfl rfl ?_ ?_ ?_ ?_
        · simp [phaseShape,hmerge,hstatus,hrelease]
        · simp [receiptBound,hreceipt]
        · exact fun _ => hreceipt
        · exact h.merge_plan
      · refine ⟨?_,rfl,rfl,?_⟩
        · show c.phase.rank ≤ StackLandPhase.locked.rank
          omega
        · intro hreleased
          rw [hreleased] at hlow
          exact absurd hlow (by decide)

/-- A call without provider traffic follows the rule when its result does. -/
theorem landRule_ofResult {c : StackLandCheckpoint}
    {r : Except StackLandError StackLandCheckpoint}
    (h : ∀ c', r = .ok c' → LandInvariant w c' ∧ LandStep c c') :
    LandRule w c (Prog.ofResult r) := by
  intro t
  rw [holds_ofResult]
  exact h

theorem validated_ok {c : StackLandCheckpoint} {r : Except StackLandError StackLandCheckpoint}
    {c' : StackLandCheckpoint}
    (h : (validateLand w repository c >>= fun _ => r) = .ok c') : r = .ok c' := by
  cases hvalid : validateLand w repository c with
  | error e =>
    rw [hvalid] at h
    cases h
  | ok _ =>
    rw [hvalid] at h
    exact h

theorem landRule_markSubmitting {c : StackLandCheckpoint} (h : LandInvariant w c) :
    LandRule w c (Prog.ofResult (nativeStackLandMarkSubmitting w repository c)) := by
  apply landRule_ofResult
  intro c' hc'
  have hbody := validated_ok w hc'
  split at hbody
  · cases hbody
    exact ⟨h,.refl c⟩
  case isFalse hphase =>
    have hlow : c.phase.rank < StackLandPhase.submitting.rank := not_le.mp hphase
    have hrank : StackLandPhase.submitting.rank < StackLandPhase.submitted.rank := by decide
    obtain ⟨hmerge,hstatus,hreceipt,hrelease⟩ := h.unsubmitted w (hlow.trans hrank)
    split at hbody
    · cases hbody
    case isFalse hlocked =>
      have hat : c.phase = .locked := not_not.mp hlocked
      have hlock : c.branchLock.isSome = true := by
        have hshape := h.shape
        unfold phaseShape at hshape
        rw [hat] at hshape
        simp_all
      cases hbody
      constructor
      · refine landInvariant_sealed w h rfl rfl ?_ ?_ ?_ ?_
        · simp [phaseShape,hlock,hmerge,hstatus,hrelease]
        · simp [receiptBound,hreceipt]
        · exact fun _ => hreceipt
        · exact h.merge_plan
      · refine ⟨?_,rfl,rfl,?_⟩
        · show c.phase.rank ≤ StackLandPhase.submitting.rank
          omega
        · intro hreleased
          rw [hat] at hreleased
          cases hreleased

theorem LandInvariant.submitting {c : StackLandCheckpoint} (h : LandInvariant w c)
    (hphase : c.phase = .submitting) :
    c.branchLock.isSome = true ∧ c.merge = none ∧ c.terminalReceipt = none ∧
      c.lockRelease = none := by
  have hshape := h.shape
  unfold phaseShape at hshape
  rw [hphase] at hshape
  obtain ⟨hmerge,-,hreceipt,hrelease⟩ := h.unsubmitted w (by rw [hphase]; decide)
  simp_all

theorem landRule_abandon {c : StackLandCheckpoint} (h : LandInvariant w c) :
    LandRule w c (Prog.ofResult (nativeStackLandAbandonUncertainSubmission w repository c)) := by
  apply landRule_ofResult
  intro c' hc'
  have hbody := validated_ok w hc'
  split at hbody
  · cases hbody
  case isFalse hphase =>
    have hat : c.phase = .submitting := not_not.mp hphase
    obtain ⟨hlock,hmerge,hreceipt,hrelease⟩ := h.submitting w hat
    cases hbody
    constructor
    · refine landInvariant_sealed w h rfl rfl ?_ ?_ ?_ ?_
      · simp [phaseShape,hlock,hrelease]
      · simp [receiptBound,hreceipt]
      · exact fun _ => hreceipt
      · exact h.merge_plan
    · refine ⟨?_,rfl,rfl,?_⟩
      · show c.phase.rank ≤ StackLandPhase.terminal.rank
        rw [hat]
        decide
      · intro hreleased
        rw [hat] at hreleased
        cases hreleased

theorem LandInvariant.live {c : StackLandCheckpoint} (h : LandInvariant w c)
    (hphase : c.phase = .submitting ∨ c.phase = .submitted) :
    c.terminalStatus = none ∧ c.terminalReceipt = none ∧ c.lockRelease = none := by
  have hempty : c.terminalReceipt = none := h.early (by
    obtain hat | hat := hphase <;> rw [hat] <;> decide)
  have hshape := h.shape
  unfold phaseShape at hshape
  obtain hat | hat := hphase
  · rw [hat] at hshape
    simp_all
  · rw [hat] at hshape
    simp_all

theorem landInvariant_advance {c : StackLandCheckpoint} (h : LandInvariant w c)
    (hphase : c.phase = .submitting ∨ c.phase = .submitted) {receipt : StackLockedMergeReceipt}
    (hreceipt : LockedReceiptFor w c.repository c.plan receipt) :
    LandInvariant w (advance w c receipt) := by
  obtain ⟨hstatus,hempty,hrelease⟩ := h.live w hphase
  have hrepository := hreceipt.merge.repository_eq
  have hplan := hreceipt.merge.plan_eq
  unfold advance
  refine landInvariant_sealed w h ?_ ?_ ?_ ?_ ?_ ?_
  · split <;> rfl
  · split <;> rfl
  · split
    · simp [phaseShape,hrelease]
    · simp [phaseShape,hrelease]
    · simp [phaseShape,hrelease]
    -- a live status comes with its durable checkpoint
    · simp [phaseShape,hstatus,hrelease,hreceipt.live (.inl ‹_›)]
    · simp [phaseShape,hstatus,hrelease,hreceipt.live (.inr (.inl ‹_›))]
    · simp [phaseShape,hstatus,hrelease,hreceipt.live (.inr (.inr ‹_›))]
  · split <;> simp [receiptBound,hempty,hreceipt.verified,hrepository,hplan]
  · intro hlow
    split at hlow
    · exact absurd hlow (lt_irrefl _)
    · exact absurd hlow (lt_irrefl _)
    · exact absurd hlow (lt_irrefl _)
    all_goals simp_all
  · split <;> exact hreceipt.checkpoint_plan

theorem landStep_advance {c : StackLandCheckpoint}
    (hphase : c.phase = .submitting ∨ c.phase = .submitted) (receipt : StackLockedMergeReceipt) :
    LandStep c (advance w c receipt) where
  phase_le := by
    have hlow : c.phase.rank ≤ StackLandPhase.submitted.rank := by
      obtain hat | hat := hphase
      · rw [hat]
        decide
      · rw [hat]
    have hnext : (advance w c receipt).phase = .terminal ∨
        (advance w c receipt).phase = .submitted := by
      cases hstatus : receipt.merge.status <;> simp only [advance,hstatus]
      · exact .inr rfl
      · exact .inr rfl
      · exact .inr rfl
      · exact .inl rfl
      · exact .inl rfl
      · exact .inl rfl
    obtain hnext | hnext := hnext <;> rw [hnext]
    · exact hlow.trans (by decide)
    · exact hlow
  repository_eq := by
    cases hstatus : receipt.merge.status <;> simp only [advance,hstatus] <;> rfl
  plan_eq := by
    cases hstatus : receipt.merge.status <;> simp only [advance,hstatus] <;> rfl
  settled hreleased := by
    obtain hat | hat := hphase <;> rw [hat] at hreleased <;> cases hreleased

theorem landRule_submit {c : StackLandCheckpoint} (h : LandInvariant w c) :
    LandRule w c (nativeStackLandSubmit w repository c) := by
  apply landRule_of_validated
  intro hrepository
  split
  · exact landRule_pure w h (.refl c)
  · split
    · exact landRule_throw w _
    case isFalse hphase =>
      have hat : c.phase = .submitting := not_not.mp hphase
      split
      · exact fun _ => trivial
      case h_2 lock hlock =>
        intro t
        rw [holds_bind,holds_mapError]
        apply (nativeStackMergeSubmitLocked_holds w (permitted_of_ordinary w c) (fun _ => trivial)
          c.plan lock (fun h' pr sha hcovers hread =>
            ⟨hat,hrepository.symm,lock,hlock,hcovers,hrepository ▸ hread⟩) t).mono
        intro h' r hr
        cases r with
        | error e => exact fun c' hc' => by cases hc'
        | ok receipt =>
          have hreceipt := hr receipt rfl
          rw [← hrepository] at hreceipt
          exact landRule_pure w (landInvariant_advance w h (.inl hat) hreceipt)
            (landStep_advance w (.inl hat) receipt) h'

theorem landRule_poll {c : StackLandCheckpoint} (h : LandInvariant w c) :
    LandRule w c (nativeStackLandPoll w repository c) := by
  apply landRule_of_validated
  intro hrepository
  split
  · exact landRule_pure w h (.refl c)
  · split
    case h_1 merge hat hmerge =>
      apply landRule_bind_calls w (nativeStackMergePollLocked_calls w merge)
      intro receipt hr
      have hreceipt := hr receipt rfl
      rw [h.merge_plan merge hmerge,← hrepository] at hreceipt
      exact landRule_pure w (landInvariant_advance w h (.inr hat) hreceipt)
        (landStep_advance w (.inr hat) receipt)
    · exact landRule_throw w _

theorem landRule_release {c : StackLandCheckpoint} (h : LandInvariant w c) :
    LandRule w c (nativeStackLandRelease w repository c) := by
  apply landRule_of_validated
  intro hrepository
  split
  · exact landRule_pure w h (.refl c)
  · split
    case h_1 lock hat hlock =>
      intro t
      rw [holds_bind,holds_mapError]
      apply (nativeStackBranchLockRelease_holds w (permitted_of_ordinary w c) (fun _ => trivial)
        c.plan.branchLockPlan lock (fun h' hread =>
          ⟨hat,hrepository.symm,lock,hlock,rfl,hrepository ▸ hread⟩) t).mono
      intro h' r _
      cases r with
      | error e => exact fun c' hc' => by cases hc'
      | ok receipt =>
        have hshape := h.shape
        unfold phaseShape at hshape
        rw [hat] at hshape
        simp only [Bool.and_eq_true] at hshape
        apply landRule_pure w
        · refine landInvariant_sealed w h rfl rfl ?_ h.bound ?_ h.merge_plan
          · simp [phaseShape,hshape.1.1,hshape.1.2]
          · intro hlow
            have hlast : StackLandPhase.released.rank < StackLandPhase.terminal.rank := hlow
            exact absurd hlast (by decide)
        · refine ⟨?_,rfl,rfl,fun _ _ => rfl⟩
          show c.phase.rank ≤ StackLandPhase.released.rank
          rw [hat]
          decide
    · exact landRule_throw w _

theorem landInvariant_resolved {c : StackLandCheckpoint} (h : LandInvariant w c)
    (hphase : c.phase = .released) {receipt : StackLockedMergeReceipt}
    (hreceipt : LockedReceiptFor w c.repository c.plan receipt)
    {merge : Option StackLockedMergeCheckpoint}
    (hmerge : ∀ m, merge = some m → m.merge.plan = c.plan) :
    LandInvariant w (StackLandCheckpoint.sealed w { c with
      merge := merge
      terminalStatus := some receipt.merge.status
      terminalReceipt := some receipt }) := by
  have hshape := h.shape
  unfold phaseShape at hshape
  rw [hphase] at hshape
  simp only [Bool.and_eq_true] at hshape
  refine landInvariant_sealed w h rfl rfl ?_ ?_ ?_ hmerge
  · simp [phaseShape,hphase,hshape.1.1,hshape.2]
  · simp [receiptBound,hreceipt.verified,hreceipt.merge.repository_eq,hreceipt.merge.plan_eq]
  · intro hlow
    rw [hphase] at hlow
    exact absurd hlow (by decide)

theorem reobserveMerge_calls {c : StackLandCheckpoint} (h : LandInvariant w c) :
    Prog.Calls Ordinary (reobserveMerge w repository c) fun r =>
      ∀ receipt, r = .ok receipt → LockedReceiptFor w repository c.plan receipt := by
  unfold reobserveMerge
  split
  case h_1 merge hmerge =>
    rw [← h.merge_plan merge hmerge]
    exact nativeStackMergeReobserveReleased_calls w merge
  · exact nativeStackMergeReobserveUnidentified_calls w c.plan _
  · exact trivial

theorem landRule_reobserveReleased {c : StackLandCheckpoint} (h : LandInvariant w c) :
    LandRule w c (nativeStackLandReobserveReleased w repository c) := by
  apply landRule_of_validated
  intro hrepository
  split
  · exact landRule_throw w _
  case isFalse hguard =>
    simp only [not_or,not_not,ne_eq] at hguard
    obtain ⟨hphase,hstatus⟩ := hguard
    have hstep (next : StackLandCheckpoint) (hnext : next.phase = c.phase)
        (hrepo : next.repository = c.repository) (hplan : next.plan = c.plan) :
        LandStep c next := by
      refine ⟨le_of_eq (by rw [hnext]),hrepo,hplan,?_⟩
      intro _ hsettled
      rw [hstatus] at hsettled
      simp at hsettled
    apply landRule_bind_calls w (reobserveMerge_calls w h)
    intro receipt hr
    have hreceipt := hr receipt rfl
    rw [← hrepository] at hreceipt
    split
    · exact landRule_pure w (landInvariant_resolved w h hphase hreceipt hreceipt.checkpoint_plan)
        (hstep _ rfl rfl rfl)
    · exact landRule_pure w (landInvariant_resolved w h hphase hreceipt hreceipt.checkpoint_plan)
        (hstep _ rfl rfl rfl)
    case h_3 hunknown =>
      -- fresh unknown evidence replaces the kept receipt; merge and status stay
      have hkept := landInvariant_resolved w h hphase hreceipt h.merge_plan
      rw [hunknown,← hstatus] at hkept
      exact landRule_pure w hkept (hstep _ rfl rfl rfl)
    · exact landRule_pure w (landInvariant_sealed w h rfl rfl h.shape h.bound h.early h.merge_plan)
        (hstep _ rfl rfl rfl)

end Github
end Cara
