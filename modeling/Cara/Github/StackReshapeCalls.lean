import Cara.Github.StackReshape
import Cara.Lib.Conversation

/-! What each reshape step makes of a checkpoint, read off its conversation. -/
namespace Cara
namespace Github

open Prog (Yields Converses Leaves yields_bind_ok yields_attempt_bind yields_ofResult_bind
  yields_send_bind yields_mapError yields_pure yields_throw ofResult forEach)

section Receipts

variable (w : Wire) (repository : RepositoryId)

structure ReceiptFrom (operation : StackMutationOperation) (operationId : String)
    (receipt : StackMutationReceipt) : Prop where
  verified : receipt.verify w = true
  repository_eq : receipt.repository = repository
  operation_eq : receipt.operation = operation
  operationId_eq : receipt.operationId = operationId

/-- A judged write that succeeds met its postcondition in the Stack read back. -/
theorem judgeWrite_yields {input : StackReceiptInput} {expected : Option StackTopology}
    {postcondition : Option StackGeneration → Bool} {response : Response}
    {rediscovered : Except StackMutationError (Option StackGeneration)} {t : Conversation}
    {receipt : StackMutationReceipt}
    (h : Yields (judgeWrite w input expected postcondition response rediscovered) t (.ok receipt)) :
    rediscovered = .ok receipt.after ∧ postcondition receipt.after = true ∧
      ReceiptFrom w input.repository input.operation input.operationId receipt := by
  unfold judgeWrite at h
  dsimp only at h
  split at h
  · cases ((yields_throw _ _).mp h).2
  case h_2 after =>
    split at h
    case isTrue hpost =>
      cases ((yields_pure _ _).mp h).2
      exact ⟨rfl,hpost,Sealing.verify_sealed _ _ _,rfl,rfl,rfl⟩
    · split at h
      · cases ((yields_throw _ _).mp h).2
      · cases ((yields_throw _ _).mp h).2

theorem nativeStackUnstack_yields {plan : StackUnstackPlan} {t : Conversation}
    {receipt : StackMutationReceipt}
    (h : Yields (nativeStackUnstack w repository plan) t (.ok receipt)) :
    ReceiptFrom w repository .unstack plan.operationId receipt ∧
      unstackSatisfied plan receipt.after = true := by
  obtain ⟨_,_,h⟩ := (yields_ofResult_bind _ _ _).mp h
  obtain ⟨_,_,h⟩ := (yields_ofResult_bind _ _ _).mp h
  obtain ⟨_,_,h⟩ := (yields_ofResult_bind _ _ _).mp h
  obtain ⟨_,_,h⟩ := (yields_ofResult_bind _ _ _).mp h
  obtain ⟨actual,_,_,_,_,h⟩ := (yields_bind_ok _ _ _).mp h
  dsimp only at h
  split at h
  case isTrue hsatisfied =>
    cases ((yields_pure _ _).mp h).2
    exact ⟨⟨Sealing.verify_sealed _ _ _,rfl,rfl,rfl⟩,hsatisfied⟩
  · split at h
    · cases ((yields_throw _ _).mp h).2
    · split at h
      · cases ((yields_throw _ _).mp h).2
      · obtain ⟨_,_,_,h⟩ := (yields_send_bind _ _ _).mp h
        obtain ⟨_,_,_,_,_,h⟩ := (yields_attempt_bind _ _ _).mp h
        obtain ⟨_,hpost,hreceipt⟩ := judgeWrite_yields w h
        exact ⟨hreceipt,hpost⟩

/-- An inventory read within the conversation shows a Stack on the wanted members, and its
own reads give this generation. -/
def ObservedIn (desired : StackTopology) (t : Conversation) (g : StackGeneration) : Prop :=
  ∃ before u after, t = before ++ (u ++ after) ∧
    Yields (rediscoverTopology w repository desired) u (.ok (some g))

theorem ObservedIn.append {desired : StackTopology} {t : Conversation} {g : StackGeneration}
    (h : ObservedIn w repository desired t g) (before after : Conversation) :
    ObservedIn w repository desired (before ++ (t ++ after)) g := by
  obtain ⟨before',u,after',ht,hread⟩ := h
  refine ⟨before ++ before',u,after' ++ after,?_,hread⟩
  rw [ht]
  simp only [List.append_assoc]

/-- A create receipt names a Stack that was read in the call and converged to the plan. -/
theorem nativeStackCreate_yields {plan : StackCreatePlan} {t : Conversation}
    {receipt : StackMutationReceipt}
    (h : Yields (nativeStackCreate w repository plan) t (.ok receipt)) :
    ReceiptFrom w repository .create plan.operationId receipt ∧
      ∃ g, receipt.after = some g ∧ ObservedIn w repository plan.desired t g ∧
        providerConvergedCreateTopology plan.desired g.topology = true := by
  obtain ⟨_,_,h⟩ := (yields_ofResult_bind _ _ _).mp h
  obtain ⟨_,_,h⟩ := (yields_ofResult_bind _ _ _).mp h
  obtain ⟨_,_,h⟩ := (yields_ofResult_bind _ _ _).mp h
  obtain ⟨inventory,t₁,t₂,ht,hinventory,h⟩ := (yields_bind_ok _ _ _).mp h
  dsimp only at h
  obtain ⟨existing,t₃,t₄,ht₂,hfind,h⟩ := (yields_bind_ok _ _ _).mp h
  split at h
  case h_1 existing =>
    split at h
    case isTrue hconverged =>
      cases ((yields_pure _ _).mp h).2
      have hread : Yields (rediscoverTopology w repository plan.desired) (t₁ ++ t₃)
          (.ok (some existing)) :=
        (yields_bind_ok _ _ _).mpr ⟨inventory,t₁,t₃,rfl,hinventory,hfind⟩
      refine ⟨⟨Sealing.verify_sealed _ _ _,rfl,rfl,rfl⟩,existing,rfl,⟨[],_,t₄,?_,hread⟩,hconverged⟩
      rw [ht,ht₂,List.append_assoc,List.nil_append]
    · cases ((yields_throw _ _).mp h).2
  case h_2 =>
    obtain ⟨_,t₅,t₆,ht₄,_,h⟩ := (yields_bind_ok _ _ _).mp h
    obtain ⟨response,t₇,ht₆,h⟩ := (yields_send_bind _ _ _).mp h
    obtain ⟨rediscovered,t₈,t₉,ht₇,hread,h⟩ := (yields_attempt_bind _ _ _).mp h
    obtain ⟨hafter,hpost,hreceipt⟩ := judgeWrite_yields w h
    obtain ⟨g,hg,hconverged⟩ := (Option.any_eq_true _ _).mp hpost
    rw [hafter,hg] at hread
    refine ⟨hreceipt,g,hg,⟨t₁ ++ t₃ ++ t₅ ++ [(.nativeStackCreate repository
      (plan.desired.entries.map StackEntryGeneration.pr),response)],t₈,t₉,?_,hread⟩,hconverged⟩
    rw [ht,ht₂,ht₄,ht₆,ht₇]
    simp

end Receipts

section Sound

variable (w : ReshapeWire)

structure ReshapeSound (c : StackReshapeCheckpoint) : Prop where
  schema : c.schemaVersion = reshapeSchemaVersion
  atomic : c.providerAtomic = false
  repository_eq : c.repository = c.plan.repository
  planned : c.plan.verify w = true
  bounded : c.replacementReceipts.length ≤ (providerReplacementChains c.plan).length
  unstack : ∀ receipt, c.unstackReceipt = some receipt → unstackReceiptExact w c receipt = true
  replacements : ∀ row ∈ (c.replacementReceipts.zip (providerReplacementChains c.plan)).zipIdx,
    replacementReceiptExact w c row = true
  existing : ∀ receipt, c.reshapeReceipt = some receipt →
    validateExistingReceipt c.plan receipt = .ok ()
  fields : fieldsMatchPhase c = true

theorem validateCheckpointShape_iff (c : StackReshapeCheckpoint) :
    (validateCheckpointShape w c).isOk = true ↔
      c.replacementReceipts.length ≤ (providerReplacementChains c.plan).length ∧
      (∀ receipt, c.unstackReceipt = some receipt → unstackReceiptExact w c receipt = true) ∧
      (∀ row ∈ (c.replacementReceipts.zip (providerReplacementChains c.plan)).zipIdx,
        replacementReceiptExact w c row = true) ∧
      (∀ receipt, c.reshapeReceipt = some receipt →
        validateExistingReceipt c.plan receipt = .ok ()) ∧ fieldsMatchPhase c = true := by
  have hunstack : c.unstackReceipt.all (unstackReceiptExact w c) = true ↔
      ∀ receipt, c.unstackReceipt = some receipt → unstackReceiptExact w c receipt = true := by
    cases c.unstackReceipt <;> simp
  have hexisting : c.reshapeReceipt.elim (.ok ()) (validateExistingReceipt c.plan) = .ok () ↔
      ∀ receipt, c.reshapeReceipt = some receipt →
        validateExistingReceipt c.plan receipt = .ok () := by
    cases c.reshapeReceipt <;> simp
  rw [Guard.isOk_iff,← hunstack,← hexisting]
  simp [validateCheckpointShape,Guard.unit_bind_eq_ok]

theorem reshapeSound_of_verify {c : StackReshapeCheckpoint} (h : c.verify w = true) :
    ReshapeSound w c := by
  unfold StackReshapeCheckpoint.verify at h
  simp only [Bool.and_eq_true,decide_eq_true_eq,Bool.not_eq_true'] at h
  obtain ⟨⟨⟨⟨⟨hschema,hatomic⟩,hrepository⟩,hplan⟩,_⟩,hshape⟩ := h
  obtain ⟨hbounded,hunstack,hreplacements,hexisting,hfields⟩ :=
    (validateCheckpointShape_iff w c).mp hshape
  exact ⟨hschema,hatomic,hrepository,hplan,hbounded,hunstack,hreplacements,hexisting,hfields⟩

/-- Sealing a checkpoint whose evidence is in order makes it verify. -/
theorem ReshapeSound.verify_sealed {c : StackReshapeCheckpoint} (h : ReshapeSound w c) :
    (c.sealed w).verify w = true := by
  have hshape := (validateCheckpointShape_iff w c).mpr
    ⟨h.bounded,h.unstack,h.replacements,h.existing,h.fields⟩
  have hseal : reshapeCheckpointSeal.verify w.reshapeCheckpoint (c.sealed w) = true :=
    Sealing.verify_sealed _ _ _
  unfold StackReshapeCheckpoint.verify
  rw [hseal]
  simp only [Bool.and_eq_true,decide_eq_true_eq,Bool.not_eq_true',and_true]
  exact ⟨⟨⟨⟨h.schema,h.atomic⟩,h.repository_eq⟩,h.planned⟩,hshape⟩

theorem validateReshapeCheckpoint_ok {repository : RepositoryId} {c : StackReshapeCheckpoint}
    (u : Unit) : validateReshapeCheckpoint w repository c = .ok u ↔
      c.repository = repository ∧ c.verify w = true := by
  unfold validateReshapeCheckpoint
  rw [Guard.refuse_eq_ok]
  simp

theorem replacementReceiptExact_concat {c : StackReshapeCheckpoint}
    {receipt : StackMutationReceipt} {chain : StackTopology}
    (h : ∀ row ∈ (c.replacementReceipts.zip (providerReplacementChains c.plan)).zipIdx,
      replacementReceiptExact w c row = true)
    (hchain : (providerReplacementChains c.plan)[c.replacementReceipts.length]? = some chain)
    (hlast : replacementReceiptExact w c ((receipt,chain),c.replacementReceipts.length) = true) :
    ∀ row ∈ ((c.replacementReceipts ++ [receipt]).zip (providerReplacementChains c.plan)).zipIdx,
      replacementReceiptExact w c row = true := by
  have hlt := (List.getElem?_eq_some_iff.mp hchain).1
  have hlength : (c.replacementReceipts.zip (providerReplacementChains c.plan)).length =
      c.replacementReceipts.length := by
    rw [List.length_zip]
    omega
  rw [Vec.zip_concat _ _ hchain,List.zipIdx_append,hlength]
  intro row hrow
  obtain hrow | hrow := List.mem_append.mp hrow
  · exact h row hrow
  · rw [List.zipIdx_singleton,List.mem_singleton] at hrow
    rw [hrow]
    simpa using hlast

end Sound

section Steps

variable (w : ReshapeWire)

/-- The receipts after a rebuild: complete already, or one exact receipt longer. -/
inductive ReceiptsExtend (c : StackReshapeCheckpoint) : List StackMutationReceipt → Prop
  | complete : (providerReplacementChains c.plan)[c.replacementReceipts.length]? = none →
      ReceiptsExtend c c.replacementReceipts
  | created {chain : StackTopology} {receipt : StackMutationReceipt} :
      (providerReplacementChains c.plan)[c.replacementReceipts.length]? = some chain →
      replacementReceiptExact w c ((receipt,chain),c.replacementReceipts.length) = true →
      ReceiptsExtend c (c.replacementReceipts ++ [receipt])

inductive ReshapeStep (c : StackReshapeCheckpoint) : StackReshapeCheckpoint → Prop
  | kept : ReshapeStep c c
  | unstacked {receipt : StackMutationReceipt} : c.phase = .preflighted →
      unstackReceiptExact w c receipt = true →
      ReshapeStep c (StackReshapeCheckpoint.sealed w
        { c with phase := .unstacked,unstackReceipt := some receipt })
  | recorded {receipt : OperationReceipt} : c.phase = .unstacked →
      validateExistingReceipt c.plan receipt = .ok () →
      ReshapeStep c (StackReshapeCheckpoint.sealed w
        { c with phase := .reshapeApplied,reshapeReceipt := some receipt })
  | rebuilt {receipts : List StackMutationReceipt} :
      c.phase = .reshapeApplied ∨ c.phase = .rebuilding → ReceiptsExtend w c receipts →
      ReshapeStep c (StackReshapeCheckpoint.sealed w { c with
        replacementReceipts := receipts
        phase := if receipts.length = (providerReplacementChains c.plan).length then .rebuilt
          else .rebuilding })
  | verified {finalStacks : List StackGeneration} : c.phase = .rebuilt →
      finalStacks.map StackGeneration.topology = providerReplacementChains c.plan →
      ReshapeStep c (StackReshapeCheckpoint.sealed w
        { c with phase := .verified,finalStacks := finalStacks })

theorem ReceiptsExtend.length_le {c : StackReshapeCheckpoint} {receipts : List StackMutationReceipt}
    (h : ReceiptsExtend w c receipts) (hc : ReshapeSound w c) :
    receipts.length ≤ (providerReplacementChains c.plan).length := by
  cases h with
  | complete _ => exact hc.bounded
  | created hchain _ =>
    have hlt := (List.getElem?_eq_some_iff.mp hchain).1
    rw [List.length_append,List.length_singleton]
    omega

theorem ReceiptsExtend.ne_nil {c : StackReshapeCheckpoint} {receipts : List StackMutationReceipt}
    (h : ReceiptsExtend w c receipts) (hc : ReshapeSound w c)
    (hshort : receipts.length ≠ (providerReplacementChains c.plan).length) : receipts ≠ [] := by
  cases h with
  | complete hnone =>
    have hge := List.getElem?_eq_none_iff.mp hnone
    exact absurd (le_antisymm hc.bounded hge) hshort
  | created _ _ => simp

theorem ReceiptsExtend.exact {c : StackReshapeCheckpoint} {receipts : List StackMutationReceipt}
    (h : ReceiptsExtend w c receipts) (hc : ReshapeSound w c) :
    ∀ row ∈ (receipts.zip (providerReplacementChains c.plan)).zipIdx,
      replacementReceiptExact w c row = true := by
  cases h with
  | complete _ => exact hc.replacements
  | created hchain hlast => exact replacementReceiptExact_concat w hc.replacements hchain hlast

theorem ReshapeStep.verify {c c' : StackReshapeCheckpoint} (h : ReshapeStep w c c')
    (hc : c.verify w = true) : c'.verify w = true := by
  have hsound := reshapeSound_of_verify w hc
  have hfields := hsound.fields
  unfold fieldsMatchPhase at hfields
  cases h with
  | kept => exact hc
  | unstacked hphase hreceipt =>
    apply ReshapeSound.verify_sealed
    simp only [hphase,Bool.and_eq_true] at hfields
    refine { hsound with unstack := ?_,fields := ?_ }
    · intro receipt' heq
      cases heq
      exact hreceipt
    · simp [fieldsMatchPhase,hfields]
  | recorded hphase hreceipt =>
    apply ReshapeSound.verify_sealed
    simp only [hphase,Bool.and_eq_true] at hfields
    refine { hsound with existing := ?_,fields := ?_ }
    · intro receipt' heq
      cases heq
      exact hreceipt
    · simp [fieldsMatchPhase,hfields]
  | rebuilt hphase hreceipts =>
    apply ReshapeSound.verify_sealed
    have hevidence : c.unstackReceipt.isSome = true ∧ c.reshapeReceipt.isSome = true ∧
        c.finalStacks.isEmpty = true := by
      obtain hphase | hphase := hphase
      · simp only [hphase,Bool.and_eq_true] at hfields
        tauto
      · simp only [hphase,Bool.and_eq_true] at hfields
        tauto
    refine { hsound with
      bounded := hreceipts.length_le w hsound
      replacements := hreceipts.exact w hsound
      fields := ?_ }
    have hle := hreceipts.length_le w hsound
    unfold fieldsMatchPhase
    split_ifs with hcomplete
    · simp [hevidence,hcomplete]
    · have hne := hreceipts.ne_nil w hsound hcomplete
      have hlt := lt_of_le_of_ne hle hcomplete
      simp [hevidence,hne,hlt]
  | verified hphase hfinal =>
    apply ReshapeSound.verify_sealed
    simp only [hphase,Bool.and_eq_true] at hfields
    refine { hsound with fields := ?_ }
    simp [fieldsMatchPhase,hfields,hfinal]

end Steps

section Calls

variable (w : ReshapeWire)

inductive ReshapeCall where
  | unstack
  | recordExisting (receipt : OperationReceipt)
  | rebuildNext
  | verifyFinal
deriving DecidableEq

def ReshapeCall.prog (repository : RepositoryId) (c : StackReshapeCheckpoint) :
    ReshapeCall → Io StackReshapeError StackReshapeCheckpoint
  | .unstack => nativeStackReshapeUnstack w repository c
  | .recordExisting receipt => nativeStackReshapeRecordExisting w repository c receipt
  | .rebuildNext => nativeStackReshapeRebuildNext w repository c
  | .verifyFinal => nativeStackReshapeVerifyFinal w repository c

def ReshapeCall.Done (c : StackReshapeCheckpoint) : ReshapeCall → Prop
  | .unstack => StackReshapePhase.unstacked.rank ≤ c.phase.rank
  | .recordExisting receipt =>
      StackReshapePhase.reshapeApplied.rank ≤ c.phase.rank ∧ c.reshapeReceipt = some receipt
  | .rebuildNext => StackReshapePhase.rebuilding.rank ≤ c.phase.rank
  | .verifyFinal => c.phase = .verified

/-- Whenever the answers show a Stack that converges to the next chain, it is that chain. -/
def ExactStacks (repository : RepositoryId) (c : StackReshapeCheckpoint) (t : Conversation) :
    Prop :=
  ∀ chain g, (providerReplacementChains c.plan)[c.replacementReceipts.length]? = some chain →
    ObservedIn w.toWire repository chain t g →
    providerConvergedCreateTopology chain g.topology = true → g.topology = chain

variable {repository : RepositoryId} {c c' : StackReshapeCheckpoint} {t : Conversation}

theorem preflight_yields {repository : RepositoryId} {plan : StackReshapePlan} {t : Conversation}
    {c : StackReshapeCheckpoint}
    (h : Yields (nativeStackReshapePreflight w repository plan) t (.ok c)) : c.verify w = true := by
  obtain ⟨_,hvalid,h⟩ := (yields_ofResult_bind _ _ _).mp h
  obtain ⟨actual,_,_,_,_,h⟩ := (yields_bind_ok _ _ _).mp h
  split at h
  · cases ((yields_throw _ _).mp h).2
  · cases ((yields_pure _ _).mp h).2
    have hplan : plan.repository = repository ∧ plan.verify w = true := by
      unfold validateReshapePlan at hvalid
      rw [Guard.refuse_eq_ok] at hvalid
      simpa using hvalid
    apply ReshapeSound.verify_sealed
    exact {
      schema := rfl
      atomic := rfl
      repository_eq := rfl
      planned := hplan.2
      bounded := Nat.zero_le _
      unstack := fun _ h => absurd h (by simp)
      replacements := fun _ h => absurd h (by simp)
      existing := fun _ h => absurd h (by simp)
      fields := rfl }

theorem unstack_yields (h : Yields (nativeStackReshapeUnstack w repository c) t (.ok c')) :
    c.repository = repository ∧ c.verify w = true ∧ ReshapeStep w c c' ∧
      ReshapeCall.unstack.Done c' := by
  obtain ⟨_,hvalid,h⟩ := (yields_ofResult_bind _ _ _).mp h
  obtain ⟨hrepository,hverify⟩ := (validateReshapeCheckpoint_ok w _).mp hvalid
  refine ⟨hrepository,hverify,?_⟩
  split at h
  case isTrue hlater =>
    cases ((yields_pure _ _).mp h).2
    exact ⟨.kept,hlater⟩
  case isFalse hphase =>
    obtain ⟨receipt,t₁,t₂,_,hreceipt,hpure⟩ := (yields_bind_ok _ _ _).mp h
    cases ((yields_pure _ _).mp hpure).2
    obtain ⟨hfrom,hsatisfied⟩ :=
      nativeStackUnstack_yields w.toWire repository ((yields_mapError _ _ _).mp hreceipt)
    have habsent : receipt.after = none := by
      cases hafter : receipt.after with
      | none => rfl
      | some g =>
        rw [hafter] at hsatisfied
        cases hsatisfied
    refine ⟨.unstacked ?_ ?_,le_refl 1⟩
    · cases hp : c.phase with
      | preflighted => rfl
      | unstacked | reshapeApplied | rebuilding | rebuilt | verified =>
        rw [hp] at hphase
        exact absurd (by decide) hphase
    · unfold unstackReceiptExact
      rw [hfrom.verified,hfrom.repository_eq,hfrom.operation_eq,hfrom.operationId_eq,habsent,
        hrepository]
      simp

theorem recordExisting_yields {receipt : OperationReceipt}
    (h : Yields (nativeStackReshapeRecordExisting w repository c receipt) t (.ok c')) :
    c.repository = repository ∧ c.verify w = true ∧ ReshapeStep w c c' ∧
      (ReshapeCall.recordExisting receipt).Done c' := by
  obtain ⟨_,hvalid,h⟩ := (yields_ofResult_bind _ _ _).mp h
  obtain ⟨hrepository,hverify⟩ := (validateReshapeCheckpoint_ok w _).mp hvalid
  refine ⟨hrepository,hverify,?_⟩
  split at h
  case isTrue hlater =>
    split at h
    case isTrue hsame =>
      cases ((yields_pure _ _).mp h).2
      exact ⟨.kept,hlater,hsame⟩
    · cases ((yields_throw _ _).mp h).2
  · split at h
    · cases ((yields_throw _ _).mp h).2
    case isFalse hphase =>
      obtain ⟨_,hreceipt,h⟩ := (yields_ofResult_bind _ _ _).mp h
      obtain ⟨_,t₁,t₂,_,_,hpure⟩ := (yields_bind_ok _ _ _).mp h
      cases ((yields_pure _ _).mp hpure).2
      exact ⟨.recorded (not_not.mp hphase) hreceipt,le_refl 2,rfl⟩

/-- The receipts a rebuild records extend the ones it found, when converged Stacks are the
planned ones. -/
theorem createReplacement_yields {receipts : List StackMutationReceipt}
    (hrepository : c.repository = repository)
    (h : Yields (createReplacement w repository c) t (.ok receipts))
    (hexact : ExactStacks w repository c t) : ReceiptsExtend w c receipts := by
  unfold createReplacement at h
  split at h
  case h_1 hnone =>
    cases ((yields_pure _ _).mp h).2
    exact .complete hnone
  case h_2 chain hchain =>
    obtain ⟨receipt,t₁,t₂,ht,hreceipt,hpure⟩ := (yields_bind_ok _ _ _).mp h
    obtain ⟨ht₂,hreceipts⟩ := (yields_pure _ _).mp hpure
    cases hreceipts
    obtain ⟨hfrom,g,hg,hobserved,hconverged⟩ :=
      nativeStackCreate_yields w.toWire repository ((yields_mapError _ _ _).mp hreceipt)
    rw [ht₂,List.append_nil] at ht
    rw [← ht] at hobserved
    have htopology := hexact chain g hchain hobserved hconverged
    refine .created hchain ?_
    unfold replacementReceiptExact
    dsimp only
    rw [hfrom.verified,hfrom.repository_eq,hfrom.operation_eq,hfrom.operationId_eq,hg,hrepository]
    simp [htopology]

theorem rebuildNext_yields
    (h : Yields (nativeStackReshapeRebuildNext w repository c) t (.ok c'))
    (hexact : ExactStacks w repository c t) :
    c.repository = repository ∧ c.verify w = true ∧ ReshapeStep w c c' ∧
      ReshapeCall.rebuildNext.Done c' := by
  obtain ⟨_,hvalid,h⟩ := (yields_ofResult_bind _ _ _).mp h
  obtain ⟨hrepository,hverify⟩ := (validateReshapeCheckpoint_ok w _).mp hvalid
  refine ⟨hrepository,hverify,?_⟩
  split at h
  case isTrue hlater =>
    cases ((yields_pure _ _).mp h).2
    exact ⟨.kept,Nat.le_of_succ_le hlater⟩
  · split at h
    · cases ((yields_throw _ _).mp h).2
    case isFalse hphase =>
      obtain ⟨_,t₁,t₂,ht,_,h⟩ := (yields_bind_ok _ _ _).mp h
      obtain ⟨receipts,t₃,t₄,ht₂,hcreate,hpure⟩ := (yields_bind_ok _ _ _).mp h
      obtain ⟨ht₄,hresult⟩ := (yields_pure _ _).mp hpure
      cases hresult
      have hshare : ExactStacks w repository c t₃ := by
        intro chain g hchain hobserved hconverged
        have hall := hobserved.append w.toWire repository t₁ t₄
        rw [← ht₂,← ht] at hall
        exact hexact chain g hchain hall hconverged
      refine ⟨.rebuilt (by tauto) (createReplacement_yields w hrepository hcreate hshare),?_⟩
      show 3 ≤ StackReshapePhase.rank (if _ then _ else _)
      split <;> decide

theorem matchReplacement_ok {observed : List StackGeneration} {expected : StackTopology}
    {g : StackGeneration} (h : matchReplacement observed expected = .ok g) :
    g.topology = expected := by
  unfold matchReplacement at h
  split at h
  case h_1 g' hfilter =>
    cases h
    have hmem : g ∈ observed.filter fun generation => decide (generation.topology = expected) := by
      rw [hfilter]
      simp
    exact of_decide_eq_true (List.mem_filter.mp hmem).2
  · cases h

theorem matchReplacements_ok {observed : List StackGeneration} {chains : List StackTopology}
    {finalStacks : List StackGeneration}
    (h : List.Forall₂ (fun chain g => matchReplacement observed chain = .ok g) chains finalStacks) :
    finalStacks.map StackGeneration.topology = chains := by
  induction h with
  | nil => rfl
  | cons hhead _ ih => rw [List.map_cons,matchReplacement_ok hhead,ih]

theorem verifyFinalStackTopology_yields {plan : StackReshapePlan}
    {finalStacks : List StackGeneration}
    (h : Yields (verifyFinalStackTopology w repository plan) t (.ok finalStacks)) :
    finalStacks.map StackGeneration.topology = providerReplacementChains plan := by
  obtain ⟨inventory,_,_,_,_,h⟩ := (yields_bind_ok _ _ _).mp h
  split at h
  · cases ((yields_throw _ _).mp h).2
  · dsimp only at h
    split at h
    · cases ((yields_throw _ _).mp h).2
    · obtain ⟨observed,_,_,_,_,h⟩ := (yields_bind_ok _ _ _).mp h
      obtain ⟨_,hmatches⟩ := (Prog.yields_ofResult _ _).mp h
      exact matchReplacements_ok (Guard.mapM_eq_ok hmatches.symm)

theorem verifyFinal_yields
    (h : Yields (nativeStackReshapeVerifyFinal w repository c) t (.ok c')) :
    c.repository = repository ∧ c.verify w = true ∧ ReshapeStep w c c' ∧
      ReshapeCall.verifyFinal.Done c' := by
  obtain ⟨_,hvalid,h⟩ := (yields_ofResult_bind _ _ _).mp h
  obtain ⟨hrepository,hverify⟩ := (validateReshapeCheckpoint_ok w _).mp hvalid
  refine ⟨hrepository,hverify,?_⟩
  split at h
  case isTrue hlater =>
    cases ((yields_pure _ _).mp h).2
    exact ⟨.kept,hlater⟩
  · split at h
    · cases ((yields_throw _ _).mp h).2
    case isFalse hphase =>
      obtain ⟨_,_,_,_,_,h⟩ := (yields_bind_ok _ _ _).mp h
      obtain ⟨finalStacks,_,_,_,hfinal,hpure⟩ := (yields_bind_ok _ _ _).mp h
      cases ((yields_pure _ _).mp hpure).2
      exact ⟨.verified (not_not.mp hphase) (verifyFinalStackTopology_yields w hfinal),rfl⟩

theorem ReshapeCall.yields {call : ReshapeCall} {repository : RepositoryId}
    {c c' : StackReshapeCheckpoint} {t : Conversation}
    (h : Yields (call.prog w repository c) t (.ok c'))
    (hexact : call = .rebuildNext → ExactStacks w repository c t) :
    c.repository = repository ∧ c.verify w = true ∧ ReshapeStep w c c' ∧ call.Done c' := by
  cases call with
  | unstack => exact unstack_yields w h
  | recordExisting receipt => exact recordExisting_yields w h
  | rebuildNext => exact rebuildNext_yields w h (hexact rfl)
  | verifyFinal => exact verifyFinal_yields w h

end Calls

section Order

variable (w : ReshapeWire)

def StackReshapePhase.next : StackReshapePhase → List StackReshapePhase
  | .preflighted => [.unstacked]
  | .unstacked => [.reshapeApplied]
  | .reshapeApplied => [.rebuilding,.rebuilt]
  | .rebuilding => [.rebuilding,.rebuilt]
  | .rebuilt => [.verified]
  | .verified => []

structure ReceiptsInOrder (c : StackReshapeCheckpoint) : Prop where
  each : ∀ i receipt, c.replacementReceipts[i]? = some receipt →
    ∃ chain, (providerReplacementChains c.plan)[i]? = some chain ∧ receipt.operation = .create ∧
      receipt.operationId = replacementOperationId c.plan i ∧
      receipt.after.map StackGeneration.topology = some chain
  all : StackReshapePhase.rebuilt.rank ≤ c.phase.rank →
    c.replacementReceipts.length = (providerReplacementChains c.plan).length

theorem ReshapeStep.ordered {c c' : StackReshapeCheckpoint} (h : ReshapeStep w c c') :
    c' = c ∨ c'.phase ∈ c.phase.next ∧ c'.plan = c.plan ∧
      c.replacementReceipts <+: c'.replacementReceipts := by
  cases h with
  | kept => exact .inl rfl
  | unstacked hphase _ =>
    rw [hphase]
    exact .inr ⟨List.mem_singleton.mpr rfl,rfl,List.prefix_rfl⟩
  | recorded hphase _ =>
    rw [hphase]
    exact .inr ⟨List.mem_singleton.mpr rfl,rfl,List.prefix_rfl⟩
  | rebuilt hphase hreceipts =>
    refine .inr ⟨?_,rfl,?_⟩
    · show (if _ then StackReshapePhase.rebuilt else .rebuilding) ∈ _
      obtain hphase | hphase := hphase
      · rw [hphase]
        split <;> decide
      · rw [hphase]
        split <;> decide
    · cases hreceipts with
      | complete _ => exact List.prefix_rfl
      | created _ _ => exact List.prefix_append _ _
  | verified hphase _ =>
    rw [hphase]
    exact .inr ⟨List.mem_singleton.mpr rfl,rfl,List.prefix_rfl⟩

theorem ReshapeStep.rank_le {c c' : StackReshapeCheckpoint} (h : ReshapeStep w c c') :
    c.phase.rank ≤ c'.phase.rank := by
  obtain heq | ⟨hnext,_,_⟩ := h.ordered
  · rw [heq]
  · generalize c.phase = p at hnext ⊢
    generalize c'.phase = p' at hnext ⊢
    revert hnext
    cases p <;> cases p' <;> decide

theorem ReshapeStep.repository_eq {c c' : StackReshapeCheckpoint} (h : ReshapeStep w c c') :
    c'.repository = c.repository := by
  cases h <;> rfl

theorem ReshapeStep.reshapeReceipt_eq {c c' : StackReshapeCheckpoint} (h : ReshapeStep w c c')
    (hphase : StackReshapePhase.reshapeApplied.rank ≤ c.phase.rank) :
    c'.reshapeReceipt = c.reshapeReceipt := by
  cases h with
  | kept => rfl
  | unstacked _ _ => rfl
  | recorded hunstacked _ =>
    rw [hunstacked] at hphase
    exact absurd hphase (by decide)
  | rebuilt _ _ => rfl
  | verified _ _ => rfl

theorem ReshapeStep.done {c c' : StackReshapeCheckpoint} (h : ReshapeStep w c c')
    {call : ReshapeCall} (hc : call.Done c) : call.Done c' := by
  have hrank := h.rank_le
  cases call with
  | unstack => exact le_trans hc hrank
  | recordExisting receipt =>
    refine ⟨le_trans hc.1 hrank,?_⟩
    rw [h.reshapeReceipt_eq w hc.1]
    exact hc.2
  | rebuildNext => exact le_trans hc hrank
  | verifyFinal =>
    obtain heq | ⟨hnext,_,_⟩ := h.ordered
    · rw [heq]
      exact hc
    · have hphase : c.phase = .verified := hc
      rw [hphase] at hnext
      cases hnext

theorem ReshapeCall.Done.prog_eq {call : ReshapeCall} {c : StackReshapeCheckpoint}
    (h : call.Done c) (hverify : c.verify w = true)
    (hlast : call = .rebuildNext → c.phase ≠ .rebuilding) :
    call.prog w c.repository c = pure c := by
  have hvalid : validateReshapeCheckpoint w c.repository c = .ok () :=
    (validateReshapeCheckpoint_ok w _).mpr ⟨rfl,hverify⟩
  cases call with
  | unstack =>
    have hlater : StackReshapePhase.preflighted.rank < c.phase.rank := h
    show nativeStackReshapeUnstack w c.repository c = pure c
    unfold nativeStackReshapeUnstack
    rw [hvalid,if_pos hlater]
    rfl
  | recordExisting receipt =>
    show nativeStackReshapeRecordExisting w c.repository c receipt = pure c
    unfold nativeStackReshapeRecordExisting
    rw [hvalid,if_pos h.1,if_pos h.2]
    rfl
  | rebuildNext =>
    have hlater : StackReshapePhase.rebuilt.rank ≤ c.phase.rank := by
      have hne := hlast rfl
      have hrank : StackReshapePhase.rebuilding.rank ≤ c.phase.rank := h
      generalize c.phase = p at hne hrank ⊢
      revert hne hrank
      cases p <;> decide
    show nativeStackReshapeRebuildNext w c.repository c = pure c
    unfold nativeStackReshapeRebuildNext
    rw [hvalid,if_pos hlater]
    rfl
  | verifyFinal =>
    have hphase : c.phase = .verified := h
    show nativeStackReshapeVerifyFinal w c.repository c = pure c
    unfold nativeStackReshapeVerifyFinal
    rw [hvalid,if_pos hphase]
    rfl

theorem ReshapeSound.receiptsInOrder {c : StackReshapeCheckpoint} (h : ReshapeSound w c) :
    ReceiptsInOrder c where
  each i receipt hreceipt := by
    obtain ⟨hi,hget⟩ := List.getElem?_eq_some_iff.mp hreceipt
    have hchains : i < (providerReplacementChains c.plan).length := lt_of_lt_of_le hi h.bounded
    have hrow : ((receipt,(providerReplacementChains c.plan)[i]),i) ∈
        (c.replacementReceipts.zip (providerReplacementChains c.plan)).zipIdx := by
      rw [List.mem_zipIdx_iff_getElem?,List.getElem?_zip_eq_some]
      exact ⟨hreceipt,List.getElem?_eq_getElem hchains⟩
    have hexact := h.replacements _ hrow
    unfold replacementReceiptExact at hexact
    simp only [Bool.and_eq_true,decide_eq_true_eq] at hexact
    obtain ⟨_,_,hoperation,hid,hafter⟩ := hexact
    exact ⟨_,List.getElem?_eq_getElem hchains,hoperation,hid,hafter⟩
  all hphase := by
    have hfields := h.fields
    unfold fieldsMatchPhase at hfields
    cases hp : c.phase with
    | preflighted | unstacked | reshapeApplied | rebuilding =>
      rw [hp] at hphase
      exact absurd hphase (by decide)
    | rebuilt | verified =>
      simp only [hp,Bool.and_eq_true,decide_eq_true_eq] at hfields
      tauto

end Order

section Writes

variable (w : ReshapeWire)

theorem verifyReshapePrPostconditions_readOnly (repository : RepositoryId)
    (plan : StackReshapePlan) : ReadOnly (verifyReshapePrPostconditions w repository plan) := by
  apply Prog.Only.forEach
  intro expected _
  apply Prog.Only.bind (Prog.Only.mapError (refetchPullRequest_readOnly w.toWire repository _))
  intro actual
  split
  · exact Prog.Only.throw _
  · exact Prog.Only.pure _

theorem verifyFinalStackTopology_readOnly (repository : RepositoryId) (plan : StackReshapePlan) :
    ReadOnly (verifyFinalStackTopology w repository plan) := by
  apply Prog.Only.bind (Prog.Only.mapError (nativeStackInventory_readOnly w.toWire repository))
  intro inventory
  split
  · exact Prog.Only.throw _
  · dsimp only
    split
    · exact Prog.Only.throw _
    · refine Prog.Only.bind (Prog.Only.forEach _ fun summary _ => ?_) ?_
      · apply Prog.Only.bind (Prog.Only.mapError
          (nativeStackGeneration_readOnly w.toWire repository _))
        intro generation
        split
        · exact Prog.Only.pure _
        · exact Prog.Only.throw _
      · intro observed
        exact Prog.Only.ofResult _

def ReshapeCall.Writes (repository : RepositoryId) (c : StackReshapeCheckpoint)
    (call : ReshapeCall) (command : Command) : Prop :=
  command.isRead = true ∨
    (call = .unstack ∧ c.phase = .preflighted ∧
      command = .nativeStackUnstack repository c.plan.before.number) ∨
    (call = .rebuildNext ∧ ∃ chain,
      (providerReplacementChains c.plan)[c.replacementReceipts.length]? = some chain ∧
      command = .nativeStackCreate repository (chain.entries.map StackEntryGeneration.pr))

theorem ReadOnly.reshapeWrites {ε α : Type} {p : Io ε α} (h : ReadOnly p)
    (repository : RepositoryId) (c : StackReshapeCheckpoint) (call : ReshapeCall) :
    Prog.Only (call.Writes repository c) p := h.weaken fun _ => .inl

theorem ReshapeCall.prog_writes (repository : RepositoryId) (c : StackReshapeCheckpoint)
    (call : ReshapeCall) :
    Prog.Only (call.Writes repository c) (call.prog w repository c) := by
  cases call with
  | unstack =>
    apply Prog.Only.bind (Prog.Only.ofResult _)
    intro _
    split
    · exact Prog.Only.pure _
    case isFalse hphase =>
      have hpreflighted : c.phase = .preflighted := by
        generalize c.phase = p at hphase ⊢
        revert hphase
        cases p <;> decide
      refine Prog.Only.bind (Prog.Only.mapError
        ((nativeStackUnstack_writesOnly w.toWire repository _).weaken ?_)) fun _ => Prog.Only.pure _
      intro command hcommand
      obtain hread | hwrite := hcommand
      · exact .inl hread
      · exact .inr (.inl ⟨rfl,hpreflighted,hwrite⟩)
  | recordExisting receipt =>
    apply Prog.Only.bind (Prog.Only.ofResult _)
    intro _
    split
    · split
      · exact Prog.Only.pure _
      · exact Prog.Only.throw _
    · split
      · exact Prog.Only.throw _
      · apply Prog.Only.bind (Prog.Only.ofResult _)
        intro _
        apply Prog.Only.bind
          ((verifyReshapePrPostconditions_readOnly w repository _).reshapeWrites _ _ _)
        exact fun _ => Prog.Only.pure _
  | rebuildNext =>
    apply Prog.Only.bind (Prog.Only.ofResult _)
    intro _
    split
    · exact Prog.Only.pure _
    · split
      · exact Prog.Only.throw _
      · apply Prog.Only.bind
          ((verifyReshapePrPostconditions_readOnly w repository _).reshapeWrites _ _ _)
        intro _
        refine Prog.Only.bind ?_ fun _ => Prog.Only.pure _
        unfold createReplacement
        split
        · exact Prog.Only.pure _
        case h_2 chain hchain =>
          refine Prog.Only.bind (Prog.Only.mapError
            ((nativeStackCreate_writesOnly w.toWire repository _).weaken ?_))
            fun _ => Prog.Only.pure _
          intro command hcommand
          obtain hread | hwrite := hcommand
          · exact .inl hread
          · exact .inr (.inr ⟨rfl,chain,hchain,hwrite⟩)
  | verifyFinal =>
    apply Prog.Only.bind (Prog.Only.ofResult _)
    intro _
    split
    · exact Prog.Only.pure _
    · split
      · exact Prog.Only.throw _
      · apply Prog.Only.bind
          ((verifyReshapePrPostconditions_readOnly w repository _).reshapeWrites _ _ _)
        intro _
        apply Prog.Only.bind
          ((verifyFinalStackTopology_readOnly w repository _).reshapeWrites _ _ _)
        exact fun _ => Prog.Only.pure _

end Writes

end Github
end Cara
