import Cara.Sync.Progress

/-! Classification of a successful tick for external schedulers: what still waits, what the
front of each queue is stuck at, and whether anybody has to be woken for it. -/
namespace Cara
namespace Sync

inductive SchedulerDisposition where
  | healthy
  | waitingCi
  | held
  | retryTick
  | externalDecision
  | operatorAction
deriving DecidableEq

inductive SchedulerWakeClass where
  | none
  | retryTick
  | externalDecision
  | operatorAction
deriving DecidableEq

structure SyncMemberGeneration where
  pr : PrNumber
  head : BranchSnapshot
  base : BranchSnapshot
  candidate : Option MergeCandidateIdentity
  ci : Option CiDisposition
deriving DecidableEq

structure SyncCaravanGeneration where
  caravanId : PrNumber
  root : PrNumber
  tail : PrNumber
  members : List SyncMemberGeneration
deriving DecidableEq

inductive HeadOfLineBlockKind where
  | conflict
  | ciFailure
  | missingRequiredRuns
  | invalidGraph
  | admissionRejected
deriving DecidableEq

structure HeadOfLineStall where
  kind : HeadOfLineBlockKind
  caravanId : Option PrNumber
  blockingPr : PrNumber
  position : ℕ
  blockedPrs : List PrNumber
  evidence : String
  remedies : List String
  fingerprint : String
deriving DecidableEq

inductive MissingRequiredRunsKind where
  | missingRequiredRuns
  | cancelledSupersededRequiredRuns
  | unknownProviderState
deriving DecidableEq

structure MissingRequiredRunsProblem where
  kind : MissingRequiredRunsKind
  caravanId : PrNumber
  pr : PrNumber
  head : BranchSnapshot
  base : BranchSnapshot
  contexts : List String := []
  operatorActionRequired : Bool
  message : String
  next : String
  fingerprint : String
deriving DecidableEq

structure SyncSchedulerStatus where
  schemaVersion : ℕ := 1
  disposition : SchedulerDisposition
  wakeClass : SchedulerWakeClass
  rebaseOnJoin : Bool
  defaultBranch : BranchSnapshot
  caravans : List SyncCaravanGeneration
  waitingPrs : List PrNumber
  nativeStackWaits : List NativeStackWait := []
  heldCaravans : List PrNumber
  missingRequiredRuns : List MissingRequiredRunsProblem
  headOfLine : List HeadOfLineStall
  quarantinedCaravans : List QuarantinedCaravan
  reason : String
deriving DecidableEq

/-- Bytes of the JSON that identifies a stall. -/
abbrev StallBytes := RepositoryId × Option PrNumber × PrNumber × HeadOfLineBlockKind ×
  Option CommitOid → List UInt8

section Stalls

variable (bytes : StallBytes) (status : StatusOutput) (ci : List CiObservation)
  (missing : List MissingRequiredRunsProblem)

def stallFingerprint (caravanId : Option PrNumber) (blockingPr : PrNumber)
    (kind : HeadOfLineBlockKind) (headOid : Option CommitOid) : String :=
  Fnv.fnv1a64 (bytes (status.repository,caravanId,blockingPr,kind,headOid))

def memberRemedies (kind : HeadOfLineBlockKind) (pr : PrNumber) : List String :=
  match kind with
  | .conflict => ["`cara repair start --pr " ++ toString pr ++ "` and resolve the exact typed conflict",
      "or release the front: `cara evict --pr " ++ toString pr ++ " --reason <text>`"]
  | .ciFailure => ["inspect the bounded run/job/step evidence for PR #" ++ toString pr ++
        " and repair the source",
      "or rerun only listed current-generation infrastructure runs with `cara sync --rerun-failed`",
      "or release the front: `cara evict --pr " ++ toString pr ++ " --reason <text>`"]
  | .missingRequiredRuns => ["trigger a fresh exact-head run for PR #" ++ toString pr ++
        "; waiting alone never resolves it",
      "or release the front: `cara evict --pr " ++ toString pr ++ " --reason <text>`"]
  | .invalidGraph => ["repair the reported structural graph problem before any further mutation",
      "or reshape with `cara split --pr " ++ toString pr ++ "` / `cara evict --pr " ++ toString pr ++
        " --reason <text>`"]
  | .admissionRejected => []

def problemOf (pr : PrNumber) : Option GraphProblem :=
  status.analysis.fleet.problems.find? fun problem => decide (pr ∈ problem.prs)

/-- Why a member cannot proceed, the most specific evidence first. -/
def blockKind (pr : PrNumber) : Option HeadOfLineBlockKind :=
  if missing.any fun problem => decide (problem.pr = pr) then some .missingRequiredRuns
  else if ci.any fun o => decide (o.disposition = .failed) && decide (o.pr = pr) then some .ciFailure
  else (problemOf status pr).map fun problem =>
    if problem.kind = .incompatible then .conflict else .invalidGraph

def stallEvidence (kind : HeadOfLineBlockKind) (pr : PrNumber) : String :=
  ((problemOf status pr).map (·.message)).getD (match kind with
    | .ciFailure => "PR #" ++ toString pr ++ " has terminal or unknown CI on its exact current head"
    | .missingRequiredRuns => "PR #" ++ toString pr ++
        " has required contexts with no reporting run on its exact head"
    | _ => "PR #" ++ toString pr ++ " cannot proceed")

/-- The stall at the first blocked member, counted from the position of the list's head. -/
def memberStall (caravanId : PrNumber) : ℕ → List PrNumber → Option HeadOfLineStall
  | _,[] => none
  | position,pr::behind =>
      match blockKind status ci missing pr with
      | some kind => some {
          kind := kind
          caravanId := some caravanId
          blockingPr := pr
          position := position
          blockedPrs := behind
          evidence := stallEvidence status kind pr
          remedies := memberRemedies kind pr
          fingerprint := stallFingerprint bytes status (some caravanId) pr kind
            ((status.analysis.pullRequests[pr]?).map (·.head.oid)) }
      | none => memberStall caravanId (position + 1) behind

/-- An order-blocking rejection that is itself the canonical attempt. -/
def admissionStall : Option HeadOfLineStall :=
  match status.admission.rejected.find? (·.blocksOrder) with
  | some rejected =>
      if status.admission.nextCandidate = some rejected.pr then some {
        kind := .admissionRejected
        caravanId := none
        blockingPr := rejected.pr
        position := 1
        blockedPrs := status.admission.candidates.map (·.pr)
        evidence := rejected.reason
        remedies := ["resolve the exact reported condition on PR #" ++ toString rejected.pr ++
            "; ordering never leapfrogs an eligible attempt",
          "or make it ineligible on purpose: `cara priority clear --pr " ++ toString rejected.pr ++
            " --actor A --reason R`, close it, or repair its metadata"]
        fingerprint := stallFingerprint bytes status none rejected.pr .admissionRejected none }
      else none
  | none => none

/-- The exact members and candidates that block everything behind them. -/
def headOfLineStalls : List HeadOfLineStall :=
  (status.analysis.fleet.caravans.filterMap fun caravan =>
    memberStall bytes status ci missing caravan.id 1 caravan.members) ++
  (admissionStall bytes status).toList

end Stalls

section Successful

variable (bytes : StallBytes) (status : StatusOutput) (ci : List CiObservation)

/-- The last observation of a pull request is the one kept. -/
def ciOf (pr : PrNumber) : Option CiDisposition :=
  (ci.reverse.find? fun o => decide (o.pr = pr)).map (·.disposition)

def candidateOf (pr : PrNumber) : Option MergeCandidateIdentity :=
  status.mergeCandidates.reverse.find? fun candidate => decide (candidate.pr = pr)

def memberGeneration (pr : PrNumber) : Option SyncMemberGeneration :=
  (status.analysis.pullRequests[pr]?).map fun pull => {
    pr := pr
    head := pull.head
    base := pull.base
    candidate := candidateOf status pr
    ci := ciOf ci pr }

/-- A caravan without members has no generation, and the classification panics. -/
def caravanGeneration (caravan : Caravan) : Option SyncCaravanGeneration := do
  let root ← caravan.head
  let tail ← caravan.tail
  return {
    caravanId := caravan.id
    root := root
    tail := tail
    members := caravan.members.filterMap (memberGeneration status ci) }

/-- Members with pending CI, and those within the grace period for missing runs. -/
def waitingPrs (requiredRuns : List RequiredRunsReceipt) : List PrNumber :=
  let pending := (ci.filter fun o => decide (o.disposition = .waiting)).map (·.pr)
  let graced := (requiredRuns.filter fun receipt =>
    decide (receipt.assessment.status = .awaitingGrace)).map (·.pr)
  ((pending ++ graced).toFinset).sort (· ≤ ·)

/-- The ladder of dispositions, each with whom it wakes and why. -/
def classification (missing : List MissingRequiredRunsProblem) (waiting held : List PrNumber)
    (headOfLine : List HeadOfLineStall) : SchedulerDisposition × SchedulerWakeClass × String :=
  let operatorAction := missing.any (·.operatorActionRequired)
  if operatorAction then (.operatorAction,.operatorAction,"one or more caravan members have " ++
    "required contexts with no reporting run on their exact current head; this never resolves by waiting")
  else if status.stackBackend.quarantinedCaravans ≠ [] then (.externalDecision,.externalDecision,
    "one or more caravans are quarantined: their native Stack needs repair automatic sync will not " ++
    "perform; other caravans and admission continue, and quarantined_caravans names the exact " ++
    "recovery command")
  else if missing ≠ [] then (.retryTick,.retryTick,"required-run coverage could not be proven from a " ++
    "partial provider read; rerun the same bounded tick")
  else if waiting ≠ [] then (.waitingCi,.none,"fresh or pending CI is the only incomplete condition; " ++
    "do not wake a repair actor")
  else if headOfLine ≠ [] then (.externalDecision,.externalDecision,"the front of a queue cannot " ++
    "proceed; repair, reshape, or evict the exact blocking member named in head_of_line")
  else if held ≠ [] then (.held,.none,"one or more caravans are intentionally held; only explicit " ++
    "resume may release them")
  else (.healthy,.none,"the exact provider graph and selected root-to-tail generations are converged")

def successfulSchedulerStatus (paused : List Pause.PauseStatus) (rebaseOnJoin : Bool)
    (requiredRuns : List RequiredRunsReceipt) (missing : List MissingRequiredRunsProblem) :
    Option SyncSchedulerStatus := do
  let caravans ← status.analysis.fleet.caravans.mapM (caravanGeneration status ci)
  let waiting := waitingPrs ci requiredRuns
  let held := paused.map (·.record.caravanHead)
  let headOfLine := headOfLineStalls bytes status ci missing
  let (disposition,wakeClass,reason) := classification status missing waiting held headOfLine
  return {
    disposition := disposition
    wakeClass := wakeClass
    rebaseOnJoin := rebaseOnJoin
    defaultBranch := status.analysis.fleet.defaultBranch
    caravans := caravans
    waitingPrs := waiting
    heldCaravans := held
    missingRequiredRuns := missing
    headOfLine := headOfLine
    quarantinedCaravans := status.stackBackend.quarantinedCaravans
    reason := reason }

end Successful

section WakeSoundness

variable (bytes : StallBytes) (status : StatusOutput) (ci : List CiObservation)
  (requiredRuns : List RequiredRunsReceipt) (missing : List MissingRequiredRunsProblem)

/-- CI waits are reported only where nothing is stuck, and nobody is left asleep otherwise. -/
structure WakeSound (out : SyncSchedulerStatus) : Prop where
  waitingCi : out.disposition = .waitingCi → out.headOfLine = []
  asleep : out.wakeClass = .none →
    out.headOfLine = [] ∧ out.missingRequiredRuns = [] ∧ out.quarantinedCaravans = []

/-- Some member waits for CI or is within its grace period. -/
def Waits : Prop :=
  (∃ o ∈ ci,o.disposition = .waiting) ∨ ∃ receipt ∈ requiredRuns,receipt.assessment.status = .awaitingGrace

/-- A caravan member failed CI or is named by a problem, or a rejection is the canonical attempt. -/
def Stuck : Prop :=
  (∃ caravan ∈ status.analysis.fleet.caravans,∃ pr ∈ caravan.members,
    (∃ o ∈ ci,o.disposition = .failed ∧ o.pr = pr) ∨
      ∃ problem ∈ status.analysis.fleet.problems,pr ∈ problem.prs) ∨
  ∃ rejected,status.admission.rejected.find? (·.blocksOrder) = some rejected ∧
    status.admission.nextCandidate = some rejected.pr

theorem blockKind_isSome (pr : PrNumber) : (blockKind status ci missing pr).isSome = true ↔
    (∃ problem ∈ missing,problem.pr = pr) ∨ (∃ o ∈ ci,o.disposition = .failed ∧ o.pr = pr) ∨
      ∃ problem ∈ status.analysis.fleet.problems,pr ∈ problem.prs := by
  have hmissing : (missing.any fun problem => decide (problem.pr = pr)) = true ↔
      ∃ problem ∈ missing,problem.pr = pr := by simp
  have hfailed : (ci.any fun o => decide (o.disposition = .failed) && decide (o.pr = pr)) = true ↔
      ∃ o ∈ ci,o.disposition = .failed ∧ o.pr = pr := by simp
  have hproblem : (problemOf status pr).isSome = true ↔
      ∃ problem ∈ status.analysis.fleet.problems,pr ∈ problem.prs := by
    unfold problemOf
    simp [List.find?_isSome]
  unfold blockKind
  rw [← hmissing,← hfailed,← hproblem]
  split_ifs with h h'
  · simp [h]
  · simp [h,h']
  · simp [h,h']

theorem memberStall_isSome (caravanId : PrNumber) (position : ℕ) (members : List PrNumber) :
    (memberStall bytes status ci missing caravanId position members).isSome = true ↔
      ∃ pr ∈ members,(blockKind status ci missing pr).isSome = true := by
  induction members generalizing position with
  | nil => simp [memberStall]
  | cons pr behind ih =>
    unfold memberStall
    cases hkind : blockKind status ci missing pr with
    | some kind => simp [hkind]
    | none =>
      simp only [List.exists_mem_cons_iff,hkind,Option.isSome_none,Bool.false_eq_true,false_or]
      exact ih (position + 1)

theorem headOfLineStalls_nil : headOfLineStalls bytes status ci [] = [] ↔ ¬ Stuck status ci := by
  have hadmission : (admissionStall bytes status).isSome = true ↔ ∃ rejected,
      status.admission.rejected.find? (·.blocksOrder) = some rejected ∧
        status.admission.nextCandidate = some rejected.pr := by
    unfold admissionStall
    cases status.admission.rejected.find? (·.blocksOrder) with
    | none => simp
    | some rejected =>
      dsimp only
      split_ifs with h <;> simp [h]
  have hmembers : (status.analysis.fleet.caravans.filterMap fun caravan =>
      memberStall bytes status ci [] caravan.id 1 caravan.members) = [] ↔
      ¬ ∃ caravan ∈ status.analysis.fleet.caravans,∃ pr ∈ caravan.members,
        (∃ o ∈ ci,o.disposition = .failed ∧ o.pr = pr) ∨
          ∃ problem ∈ status.analysis.fleet.problems,pr ∈ problem.prs := by
    rw [List.filterMap_eq_nil_iff]
    have hstall (caravan : Caravan) : memberStall bytes status ci [] caravan.id 1 caravan.members = none ↔
        ¬ ∃ pr ∈ caravan.members,(∃ o ∈ ci,o.disposition = .failed ∧ o.pr = pr) ∨
          ∃ problem ∈ status.analysis.fleet.problems,pr ∈ problem.prs := by
      rw [← Option.not_isSome_iff_eq_none,memberStall_isSome]
      simp only [blockKind_isSome,List.not_mem_nil,false_and,exists_false,false_or]
    simp only [hstall,not_exists,not_and]
  unfold headOfLineStalls Stuck
  rw [List.append_eq_nil_iff,hmembers,not_or,← hadmission,Option.toList_eq_nil_iff,
    Option.not_isSome_iff_eq_none]

theorem waitingPrs_nil : waitingPrs ci requiredRuns = [] ↔ ¬ Waits ci requiredRuns := by
  unfold waitingPrs Waits
  rw [List.eq_nil_iff_forall_not_mem]
  simp only [Finset.mem_sort,List.mem_toFinset,List.mem_append,List.mem_map,List.mem_filter,
    decide_eq_true_eq,not_or,not_exists,not_and]
  constructor
  · intro h
    exact ⟨fun o ho hwaiting => (h o.pr).1 o ⟨ho,hwaiting⟩ rfl,
      fun receipt hreceipt hgrace => (h receipt.pr).2 receipt ⟨hreceipt,hgrace⟩ rfl⟩
  · intro h pr
    exact ⟨fun o ho _ => h.1 o ho.1 ho.2,fun receipt hreceipt _ => h.2 receipt hreceipt.1 hreceipt.2⟩

/-- The ladder goes to sleep over a stuck queue on the rung for pending CI only. -/
theorem classification_sound (waiting held : List PrNumber) (headOfLine : List HeadOfLineStall) :
    let ladder := classification status missing waiting held headOfLine
    ((ladder.1 = .waitingCi → headOfLine = []) ∧ (ladder.2.1 = .none →
      headOfLine = [] ∧ missing = [] ∧ status.stackBackend.quarantinedCaravans = [])) ↔
    ¬ (missing = [] ∧ status.stackBackend.quarantinedCaravans = [] ∧ waiting ≠ [] ∧ headOfLine ≠ []) := by
  unfold classification
  dsimp only
  split_ifs with hoperator hquarantine hmissing hwaiting hstuck hheld
  · have hsome : missing ≠ [] := by
      intro hnone
      rw [hnone] at hoperator
      cases hoperator
    exact ⟨fun _ hall => hsome hall.1,fun _ => ⟨nofun,nofun⟩⟩
  · exact ⟨fun _ hall => hquarantine hall.2.1,fun _ => ⟨nofun,nofun⟩⟩
  · exact ⟨fun _ hall => hmissing hall.1,fun _ => ⟨nofun,nofun⟩⟩
  · rw [not_not] at hquarantine hmissing
    simp [hquarantine,hmissing,hwaiting]
  · exact ⟨fun _ hall => hwaiting hall.2.2.1,fun _ => ⟨nofun,nofun⟩⟩
  all_goals
    rw [not_not] at hquarantine hmissing hstuck
    exact ⟨fun _ hall => hwaiting hall.2.2.1,fun _ => ⟨nofun,fun _ => ⟨hstuck,hmissing,hquarantine⟩⟩⟩

/-- The classification is sound unless pending CI hides a stuck queue. -/
theorem successfulSchedulerStatus_wakeSound {paused : List Pause.PauseStatus} {rebaseOnJoin : Bool}
    {out : SyncSchedulerStatus}
    (h : successfulSchedulerStatus bytes status ci paused rebaseOnJoin requiredRuns missing = some out) :
    WakeSound out ↔ ¬ (missing = [] ∧ status.stackBackend.quarantinedCaravans = [] ∧
      Waits ci requiredRuns ∧ Stuck status ci) := by
  obtain ⟨caravans,_,hout⟩ := Option.bind_eq_some_iff.mp h
  have hladder := classification_sound status missing (waitingPrs ci requiredRuns)
    (paused.map (·.record.caravanHead)) (headOfLineStalls bytes status ci missing)
  have hsound : WakeSound out ↔ ¬ (missing = [] ∧ status.stackBackend.quarantinedCaravans = [] ∧
      waitingPrs ci requiredRuns ≠ [] ∧ headOfLineStalls bytes status ci missing ≠ []) := by
    refine Iff.trans ?_ hladder
    rw [← Option.some_inj.mp hout]
    exact ⟨fun hsound => ⟨hsound.waitingCi,hsound.asleep⟩,fun hsound => ⟨hsound.1,hsound.2⟩⟩
  rw [hsound,not_iff_not]
  apply and_congr_right
  intro hmissing
  apply and_congr_right
  intro _
  rw [hmissing,Ne,Ne,waitingPrs_nil,headOfLineStalls_nil,not_not,not_not]

end WakeSoundness

section Example

/-- One caravan with a failed member, another with pending CI. -/
def maskedStatus : StatusOutput where
  repository := ⟨"octo","repo"⟩
  defaultBranch := "main"
  analysis := {
    fleet := {
      repository := ⟨"octo","repo"⟩
      defaultBranch := ⟨⟨"octo","repo"⟩,"main","c0"⟩
      caravans := [⟨1,[1],false⟩,⟨2,[2],false⟩] }
    pullRequests := ∅ }

def maskedCi : List CiObservation := [⟨1,.failed,[],none⟩,⟨2,.waiting,[],none⟩]

/-- Pending CI in one caravan lets a failed one sleep. -/
theorem maskedStatus_not_wakeSound : ∃ out,
    successfulSchedulerStatus (fun _ => []) maskedStatus maskedCi [] false [] [] = some out ∧
    ¬ WakeSound out := by
  have hmasked : (successfulSchedulerStatus (fun _ => []) maskedStatus maskedCi [] false [] []).any
      (fun out => decide (out.disposition = .waitingCi) && decide (out.headOfLine ≠ [])) = true := by
    decide +kernel
  obtain ⟨out,hout,hfacts⟩ := (Option.any_eq_true _ _).mp hmasked
  rw [Bool.and_eq_true,decide_eq_true_eq,decide_eq_true_eq] at hfacts
  exact ⟨out,hout,fun hsound => hfacts.2 (hsound.waitingCi hfacts.1)⟩

theorem successfulSchedulerStatus_wakeSound_failed : ∃ out,
    successfulSchedulerStatus (fun _ => []) maskedStatus [⟨1,.failed,[],none⟩] [] false [] [] = some out ∧
    WakeSound out := by
  have hruns : (successfulSchedulerStatus (fun _ => []) maskedStatus [⟨1,.failed,[],none⟩] [] false []
      []).isSome = true := by
    decide +kernel
  obtain ⟨out,hout⟩ := Option.isSome_iff_exists.mp hruns
  refine ⟨out,hout,(successfulSchedulerStatus_wakeSound _ _ _ _ _ hout).mpr ?_⟩
  intro hall
  obtain ⟨o,ho,hwaits⟩ | ⟨receipt,hreceipt,_⟩ := hall.2.2.1
  · rw [List.mem_singleton.mp ho] at hwaits
    cases hwaits
  · cases hreceipt

end Example

end Sync
end Cara
