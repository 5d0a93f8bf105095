import Cara.Status
import Cara.Lib.Guard
import Cara.Lib.Fnv
import Cara.CheckRecord
import Cara.Lib.StableSort

/-! Evidence of a reviewed force intent: the exact membership generation and the fingerprint
of the current check decision, and how both depend on the order of the provider's rows. -/
namespace Cara
namespace ForceIntent

open JsonValue (optionalField)
open StableSort (sortByKey TiesAgree)

abbrev ForceError := AppError (List (String × String))

structure ReviewedForceIntentInput where
  pr : PrNumber
  head : String
  membershipGeneration : String
  failureFingerprint : String
  reason : String
  expiresAtMs : ℕ
deriving DecidableEq

structure MemberEvidence where
  pr : PrNumber
  head : BranchSnapshot
  base : BranchSnapshot
deriving DecidableEq

structure MembershipEvidence where
  generation : String
  caravanId : PrNumber
  defaultBranch : BranchSnapshot
  members : List MemberEvidence
deriving DecidableEq

structure RequiredChecksEvidence where
  checks : List CheckSnapshot
  state : String
  failureFingerprint : String
deriving DecidableEq

structure DecisionEvidence where
  kind : String
  state : String
  pr : PrNumber
  head : String
  failureFingerprint : String
deriving DecidableEq

structure CurrentEvidence where
  pull : PullRequestSnapshot
  membership : MembershipEvidence
  checks : RequiredChecksEvidence
  decision : DecisionEvidence
  failureFingerprint : String
deriving DecidableEq

section Documents

/-- Keys of a generic JSON document are written in alphabetical order. -/
def checkFields (c : CheckSnapshot) : List (String × JsonValue) :=
  optionalField "app_id" c.appId .num ++
  (optionalField "check_suite_id" c.checkSuiteId .num ++
  (optionalField "completed_at" c.completedAt .str ++
  (optionalField "details_url" c.detailsUrl .str ++
  (optionalField "head_oid" c.headOid .str ++
  (("name",.str c.name)::
  (optionalField "provider_kind" c.providerKind .str ++
  (optionalField "provider_state" c.providerState .str ++
  (optionalField "started_at" c.startedAt .str ++
  (("state",.str (Pause.checkStateName c.state))::
  (optionalField "superseded" (if c.superseded then some true else none) .bool ++
  optionalField "workflow_name" c.workflowName .str))))))))))

def checkValue (c : CheckSnapshot) : JsonValue := .obj (checkFields c)

def repositoryValue (r : RepositoryId) : JsonValue :=
  .obj [("name",.str r.name),("owner",.str r.owner)]

def branchValue (b : BranchSnapshot) : JsonValue :=
  .obj [("name",.str b.name),("oid",.str b.oid),("repository",repositoryValue b.repository)]

def memberValue (m : MemberEvidence) : JsonValue :=
  .obj [("base",branchValue m.base),("head",branchValue m.head),("pr",.num m.pr)]

def membershipMaterial (repository : RepositoryId) (caravan : PrNumber)
    (defaultBranch : BranchSnapshot) (members : List MemberEvidence) : JsonValue :=
  .obj [("caravan_id",.num caravan),("default_branch",branchValue defaultBranch),
    ("members",.arr (members.map memberValue)),("repository",repositoryValue repository),
    ("schema_version",.num 1)]

def fingerprintMaterial (pr : PrNumber) (head : CommitOid) (generation : String)
    (checks : List CheckSnapshot) (state : String) : JsonValue :=
  .obj [("current_decision",.str state),("head",.str head),
    ("membership_generation",.str generation),("pr",.num pr),
    ("required_checks",.arr (checks.map checkValue)),("schema_version",.num 1)]

def digest (text : List Char) : String := Fnv.fnv1a64 (text.flatMap String.utf8EncodeChar)

def documentText (v : JsonValue) : List Char := v.text none

end Documents

section Evidence

def forceValidation (code message : String) : ForceError :=
  { category := .validation,code := code,message := message }

/-- Absent provider states and URLs sort as empty ones; no other field of a row counts. -/
def canonicalCheckKey (c : CheckSnapshot) : List String :=
  [c.name,"\"" ++ Pause.checkStateName c.state ++ "\"",c.providerState.getD "",
    c.detailsUrl.getD ""]

def isWaiting (c : CheckSnapshot) : Bool :=
  decide (c.state ∈ ([.expected,.queued,.inProgress] : List CheckState))

def isFailing (c : CheckSnapshot) : Bool :=
  decide (c.state ∈ ([.failure,.cancelled,.timedOut,.actionRequired,.unknown] : List CheckState))

def decisionState (checks : List CheckSnapshot) : String :=
  if checks.isEmpty || checks.any isWaiting then "waiting"
  else if checks.any isFailing then "failure"
  else "passing"

def decisionKind (state : String) : String :=
  if state = "failure" then "ci_failure"
  else if state = "waiting" then "ci_waiting"
  else "ci_passing"

def ineligible (status : StatusOutput) (pull : PullRequestSnapshot) : Bool :=
  decide (pull.state ≠ .open) || pull.draft || pull.crossRepository ||
    decide (pull.head.repository ≠ status.repository) || !pull.hasLabel "caravan" ||
    pull.hasLabel "caravan-evicted"

def memberEvidence (status : StatusOutput) (number : PrNumber) :
    Except ForceError MemberEvidence :=
  match status.analysis.pullRequests[number]? with
  | none => .error (forceValidation "force_intent_membership_incomplete"
      "fresh membership is missing exact member provider facts")
  | some member => .ok ⟨number,member.head,member.base⟩

/-- The membership that contains the selected pull request. -/
def currentMembership (status : StatusOutput) (pr : PrNumber) :
    Except ForceError MembershipEvidence :=
  match status.analysis.fleet.containing pr with
  | none => .error (forceValidation "force_intent_membership_missing"
      "selected PR is not in the current Caravan fleet")
  | some caravan => do
      let members ← caravan.members.mapM (memberEvidence status)
      return {
        generation := digest (documentText (membershipMaterial status.repository caravan.id
          status.analysis.fleet.defaultBranch members))
        caravanId := caravan.id
        defaultBranch := status.analysis.fleet.defaultBranch
        members := members }

def evidenceOf (pr : PrNumber) (pull : PullRequestSnapshot) (membership : MembershipEvidence)
    (checks : List CheckSnapshot) : CurrentEvidence :=
  let state := decisionState checks
  let fingerprint := digest (documentText (fingerprintMaterial pr pull.head.oid
    membership.generation checks state))
  { pull := pull
    membership := membership
    checks := ⟨checks,state,fingerprint⟩
    decision := ⟨decisionKind state,state,pr,pull.head.oid,fingerprint⟩
    failureFingerprint := fingerprint }

def currentEvidence (status : StatusOutput) (input : ReviewedForceIntentInput) :
    Except ForceError CurrentEvidence :=
  match status.analysis.pullRequests[input.pr]? with
  | none => .error (forceValidation "force_intent_pr_not_found"
      "selected PR is absent from fresh provider discovery")
  | some pull => do
      Guard.refuse (ineligible status pull) (forceValidation "force_intent_pr_ineligible"
        "reviewed force intent requires an open, non-draft, owned active Caravan PR")
      let membership ← currentMembership status input.pr
      return evidenceOf input.pr pull membership (sortByKey canonicalCheckKey pull.checks)

def driftedFields (input : ReviewedForceIntentInput) (evidence : CurrentEvidence) : List String :=
  (if evidence.pull.head.oid = input.head then [] else ["head"]) ++
  (if evidence.membership.generation = input.membershipGeneration then []
    else ["membership_generation"]) ++
  (if evidence.failureFingerprint = input.failureFingerprint then [] else ["failure_fingerprint"])

/-- Supplied authority is refused as soon as one of its three values is not the current one. -/
def validateSuppliedEvidence (input : ReviewedForceIntentInput) (evidence : CurrentEvidence) :
    Except ForceError Unit :=
  Guard.refuse (decide (driftedFields input evidence ≠ [])) (forceValidation
    "force_intent_evidence_drift"
    ("reviewed force evidence drifted: " ++ String.intercalate ", " (driftedFields input evidence)))

end Evidence

section Rows

theorem checkOf_checkValue (c : CheckSnapshot) : checkOf (checkValue c) = some c := by
  apply HoldsCheck.read
  constructor <;> simp [checkFields]

theorem checkValue_injective : Function.Injective checkValue := by
  intro c d h
  have hc := checkOf_checkValue c
  rw [h,checkOf_checkValue] at hc
  exact (Option.some.inj hc).symm

end Rows

section Order

/-- The status with another list of check rows for one pull request. -/
def withRows (status : StatusOutput) (pr : PrNumber) (pull : PullRequestSnapshot)
    (rows : List CheckSnapshot) : StatusOutput :=
  { status with analysis := { status.analysis with
      pullRequests := status.analysis.pullRequests.insert pr { pull with checks := rows } } }

def reviewed (e : CurrentEvidence) : String × String × String :=
  (e.membership.generation,e.decision.state,e.failureFingerprint)

def applying (input : ReviewedForceIntentInput) (e : CurrentEvidence) : ReviewedForceIntentInput :=
  { input with
    head := e.pull.head.oid
    membershipGeneration := e.membership.generation
    failureFingerprint := e.failureFingerprint }

/-- No order of the selected rows changes the evidence or refuses what was previewed. -/
structure OrderFree (status : StatusOutput) (input : ReviewedForceIntentInput)
    (pull : PullRequestSnapshot) : Prop where
  same : ∀ rows : List CheckSnapshot, rows.Perm pull.checks →
    (currentEvidence (withRows status input.pr pull rows) input).map reviewed =
      (currentEvidence status input).map reviewed
  applies : ∀ rows : List CheckSnapshot, rows.Perm pull.checks → ∀ e e',
    currentEvidence status input = .ok e →
    currentEvidence (withRows status input.pr pull rows) input = .ok e' →
    validateSuppliedEvidence (applying input e) e' = .ok ()

def fingerprintText (e : CurrentEvidence) : List Char :=
  documentText (fingerprintMaterial e.decision.pr e.pull.head.oid e.membership.generation
    e.checks.checks e.checks.state)

/-- The 64-bit digest tells the texts of the reordered rows apart from the current one. -/
def DigestsApart (status : StatusOutput) (input : ReviewedForceIntentInput)
    (pull : PullRequestSnapshot) (e : CurrentEvidence) : Prop :=
  ∀ rows : List CheckSnapshot, rows.Perm pull.checks → ∀ e',
    currentEvidence (withRows status input.pr pull rows) input = .ok e' →
    digest (fingerprintText e') = digest (fingerprintText e) →
    fingerprintText e' = fingerprintText e

variable {status : StatusOutput} {input : ReviewedForceIntentInput} {pull : PullRequestSnapshot}
  {rows : List CheckSnapshot}

theorem memberEvidence_withRows
    (hpull : status.analysis.pullRequests[input.pr]? = some pull) (number : PrNumber) :
    memberEvidence (withRows status input.pr pull rows) number = memberEvidence status number := by
  unfold memberEvidence withRows
  dsimp only
  rw [Std.ExtTreeMap.getElem?_insert]
  by_cases hnumber : input.pr = number
  · subst hnumber
    simp [hpull]
  · simp [hnumber]

theorem currentMembership_withRows
    (hpull : status.analysis.pullRequests[input.pr]? = some pull) :
    currentMembership (withRows status input.pr pull rows) input.pr =
      currentMembership status input.pr := by
  have hmembers : memberEvidence (withRows status input.pr pull rows) = memberEvidence status :=
    funext fun number => memberEvidence_withRows hpull number
  unfold currentMembership
  rw [hmembers]
  rfl

/-- Evidence over reordered rows is the evidence over their own sorted list. -/
theorem currentEvidence_withRows
    (hpull : status.analysis.pullRequests[input.pr]? = some pull) :
    currentEvidence (withRows status input.pr pull rows) input =
      (currentEvidence status input).map fun e => evidenceOf input.pr { pull with checks := rows }
        e.membership (sortByKey canonicalCheckKey rows) := by
  have hrows : (withRows status input.pr pull rows).analysis.pullRequests[input.pr]? =
      some { pull with checks := rows } := by
    simp [withRows]
  unfold currentEvidence
  rw [hrows,hpull]
  dsimp only
  rw [currentMembership_withRows hpull]
  show (Guard.refuse (ineligible status pull) _ >>= fun _ => _) = _
  cases hineligible : ineligible status pull with
  | true => rfl
  | false =>
    cases currentMembership status input.pr with
    | error e => rfl
    | ok membership => rfl

theorem evidence_of_ok (hpull : status.analysis.pullRequests[input.pr]? = some pull)
    {e : CurrentEvidence} (he : currentEvidence status input = .ok e) :
    e = evidenceOf input.pr pull e.membership (sortByKey canonicalCheckKey pull.checks) := by
  unfold currentEvidence at he
  rw [hpull] at he
  dsimp only at he
  obtain ⟨_,-,he⟩ := Guard.bind_eq_ok.mp he
  obtain ⟨membership,-,he⟩ := Guard.bind_eq_ok.mp he
  cases he
  rfl

theorem validateSuppliedEvidence_applying {e e' : CurrentEvidence}
    (hhead : e'.pull.head.oid = e.pull.head.oid)
    (hreviewed : reviewed e' = reviewed e) :
    validateSuppliedEvidence (applying input e) e' = .ok () := by
  simp only [reviewed,Prod.mk.injEq] at hreviewed
  obtain ⟨hgeneration,-,hfingerprint⟩ := hreviewed
  have hnone : driftedFields (applying input e) e' = [] := by
    simp [driftedFields,applying,hhead,hgeneration,hfingerprint]
  simp [validateSuppliedEvidence,hnone]

theorem orderFree_of_ties (hpull : status.analysis.pullRequests[input.pr]? = some pull)
    (hties : TiesAgree canonicalCheckKey pull.checks) : OrderFree status input pull := by
  have hsame : ∀ rows : List CheckSnapshot, rows.Perm pull.checks → ∀ e,
      currentEvidence status input = .ok e →
      reviewed (evidenceOf input.pr { pull with checks := rows } e.membership
        (sortByKey canonicalCheckKey rows)) = reviewed e := by
    intro rows hrows e he
    rw [StableSort.sortByKey_eq_of_perm hties hrows,evidence_of_ok hpull he]
    rfl
  constructor
  · intro rows hrows
    rw [currentEvidence_withRows hpull]
    cases he : currentEvidence status input with
    | error err => rfl
    | ok e => exact congrArg Except.ok (hsame rows hrows e he)
  · intro rows hrows e e' he he'
    rw [currentEvidence_withRows hpull,he] at he'
    cases he'
    refine validateSuppliedEvidence_applying ?_ (hsame rows hrows e he)
    rw [evidence_of_ok hpull he]
    rfl

theorem fingerprintMaterial_checks {pr : PrNumber} {head : CommitOid} {generation state state' :
    String} {checks checks' : List CheckSnapshot}
    (h : documentText (fingerprintMaterial pr head generation checks state) =
      documentText (fingerprintMaterial pr head generation checks' state')) : checks = checks' := by
  have hvalue := JsonValue.text_injective none h
  simp only [fingerprintMaterial,JsonValue.obj.injEq,List.cons.injEq,Prod.mk.injEq,
    JsonValue.arr.injEq] at hvalue
  exact checkValue_injective.list_map hvalue.2.2.2.2.1.2

theorem ties_of_orderFree (hpull : status.analysis.pullRequests[input.pr]? = some pull)
    {e : CurrentEvidence} (he : currentEvidence status input = .ok e)
    (hapart : DigestsApart status input pull e) (hfree : OrderFree status input pull) :
    TiesAgree canonicalCheckKey pull.checks := by
  by_contra hties
  obtain ⟨rows,hrows,hne⟩ := StableSort.exists_sortByKey_ne hties
  have hevidence := evidence_of_ok hpull he
  have he' : currentEvidence (withRows status input.pr pull rows) input = _ :=
    currentEvidence_withRows hpull
  rw [he] at he'
  have hsame := hfree.same rows hrows
  rw [he',he] at hsame
  have hreviewed := Except.ok.inj hsame
  simp only [reviewed,Prod.mk.injEq] at hreviewed
  have hdigest := hreviewed.2.2
  rw [hevidence] at hdigest
  have htext := hapart rows hrows _ he' (by rw [hevidence]; exact hdigest)
  rw [hevidence] at htext
  exact hne (fingerprintMaterial_checks htext)

/-- Rows that share name, state, provider state and URL must be equal for the evidence not to
depend on their order; up to collisions of the digest that is also necessary. -/
theorem currentEvidence_orderFree (hpull : status.analysis.pullRequests[input.pr]? = some pull)
    {e : CurrentEvidence} (he : currentEvidence status input = .ok e) :
    (TiesAgree canonicalCheckKey pull.checks → OrderFree status input pull) ∧
      (DigestsApart status input pull e → OrderFree status input pull →
        TiesAgree canonicalCheckKey pull.checks) :=
  ⟨orderFree_of_ties hpull,ties_of_orderFree hpull he⟩

end Order

section Example

def failedRun (workflow : String) : CheckSnapshot where
  name := "build"
  state := .failure
  providerState := some "FAILURE"
  providerKind := some "CheckRun"
  workflowName := some workflow

def failedPull (rows : List CheckSnapshot) : PullRequestSnapshot where
  number := 11
  state := .open
  head := ⟨⟨"octo","repo"⟩,"feature","c1"⟩
  base := ⟨⟨"octo","repo"⟩,"main","c0"⟩
  labels := {"caravan"}
  autoMerge := { enabled := false }
  checks := rows

def failedStatus (rows : List CheckSnapshot) : StatusOutput where
  repository := ⟨"octo","repo"⟩
  defaultBranch := "main"
  analysis := {
    fleet := {
      repository := ⟨"octo","repo"⟩
      defaultBranch := ⟨⟨"octo","repo"⟩,"main","c0"⟩
      caravans := [⟨11,[11],false⟩] }
    pullRequests := (∅ : PullRequestMap).insert 11 (failedPull rows) }

def failedInput : ReviewedForceIntentInput where
  pr := 11
  head := "c1"
  membershipGeneration := ""
  failureFingerprint := ""
  reason := "infrastructure failure"
  expiresAtMs := 1

/-- Two failed runs of different names, which their key tells apart in either order. -/
def failedRuns : List CheckSnapshot := [failedRun "ci",{ failedRun "nightly" with name := "lint" }]

theorem currentEvidence_orderFree_one : failedRuns.reverse ≠ failedRuns ∧ ∃ e,
    currentEvidence (failedStatus failedRuns) failedInput = .ok e ∧
      OrderFree (failedStatus failedRuns) failedInput (failedPull failedRuns) := by
  have hpull : (failedStatus failedRuns).analysis.pullRequests[failedInput.pr]? =
      some (failedPull failedRuns) := by decide +kernel
  have hok : (currentEvidence (failedStatus failedRuns) failedInput).toOption.isSome = true := by
    decide +kernel
  have hties : ∀ a ∈ failedRuns,∀ b ∈ failedRuns,canonicalCheckKey a = canonicalCheckKey b → a = b := by
    decide +kernel
  refine ⟨by decide +kernel,?_⟩
  cases hevidence : currentEvidence (failedStatus failedRuns) failedInput with
  | error err =>
    rw [hevidence] at hok
    cases hok
  | ok e => exact ⟨e,rfl,(currentEvidence_orderFree hpull hevidence).1 hties⟩

/-- Two failed runs of one name in different workflows: the fingerprint follows the order in
which the provider lists them, and the previewed one is refused. -/
theorem currentEvidence_not_orderFree :
    (currentEvidence (failedStatus [failedRun "ci",failedRun "nightly"]) failedInput).map
        CurrentEvidence.failureFingerprint ≠
      (currentEvidence (failedStatus [failedRun "nightly",failedRun "ci"]) failedInput).map
        CurrentEvidence.failureFingerprint ∧
    ¬ OrderFree (failedStatus [failedRun "ci",failedRun "nightly"]) failedInput
      (failedPull [failedRun "ci",failedRun "nightly"]) := by
  refine ⟨by decide +kernel,?_⟩
  intro hfree
  have hsame := hfree.same [failedRun "nightly",failedRun "ci"] (List.Perm.swap _ _ [])
  exact absurd hsame (by decide +kernel)

end Example

end ForceIntent
end Cara
