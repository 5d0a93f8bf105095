import Cara.Membership.Execution
import Cara.Status

/-! Audited priority control of an unenrolled pull request: the labels are changed, the transition is told
in a comment, and a comment that already tells it is not repeated. -/
namespace Cara
namespace Priority

open Cara.Membership (ControlLabelAudit ProviderAnswer ProviderRequest PullEdit controlLabelComment
  controlLabelMarker mutatePullRequest sortedLabels)
open Sync (GitHubMutationReceipt MutationError)
open Prog (Fallible mapError ofResult)

section Execute

inductive PriorityOperation where
  | set (label : String)
  | clear
deriving DecidableEq

namespace PriorityOperation

def selectedLabel : PriorityOperation → Option String
  | set label => some label
  | clear => none

def name : PriorityOperation → String
  | set _ => "priority_set"
  | clear => "priority_clear"

end PriorityOperation

inductive PriorityDetail where
  | fields (fields : List (String × String))
  | notConfigured (requested : String) (configured : List String)
  | ineligible (pr : PrNumber) (state : PullRequestState) (draft : Bool)
  | membership (pr : PrNumber) (labels : Finset String)
  | metadata (pr : PrNumber) (priorityLabels unknownLabels : List String)
  | missingLabels (labels : List String) (next : String)
  | permission (required actual : String)
  | provider (receipts : List GitHubMutationReceipt) (mutated : Bool) (next : String)

abbrev PriorityError := AppError PriorityDetail

abbrev PriorityIo (α : Type) := Fallible ProviderRequest ProviderAnswer PriorityError α

structure PriorityInput where
  status : StatusOutput
  configuredPriorities : List String
  configFingerprint : String
  actor : String
  reason : String
  operation : PriorityOperation

structure PriorityOutput where
  schemaVersion : ℕ
  repository : RepositoryId
  pr : PrNumber
  head : BranchSnapshot
  base : BranchSnapshot
  defaultBranch : BranchSnapshot
  configFingerprint : String
  actor : String
  reason : String
  permission : String
  selectedLabel : Option String
  selectedRank : Option ℕ
  beforeLabels : Finset String
  afterLabels : Finset String
  labelsChanged : Bool
  mutated : Bool
  auditDurable : Bool
  providerReceipts : List GitHubMutationReceipt

def invalid (code message : String) (details : Option PriorityDetail) : PriorityError :=
  ⟨.validation,code,message,details⟩

def isStale : MutationError → Bool
  | .stalePrecondition .. => true
  | _ => false

def mutationError (code : String) (receipts : List GitHubMutationReceipt) (error : MutationError) :
    PriorityError where
  category := if isStale error then .validation else .executionFailure
  code := if isStale error then "priority_stale_precondition" else code
  message := error.display
  details := some (.provider receipts (!receipts.isEmpty)
    "rediscover the exact PR/config and retry the same idempotent priority command")

def validateRequestedLabel (label : String) (configured : List String) : Except PriorityError Unit :=
  Guard.refuse (decide (label ∉ configured)) (invalid "priority_label_not_configured"
    "priority label must exactly match one configured agent_priority_labels entry"
    (some (.notConfigured label configured)))

variable (input : PriorityInput)

def validateCandidate (candidate : PullRequestSnapshot) : Except PriorityError Unit := do
  Guard.refuse (decide (candidate.state ≠ .open) || candidate.draft) (invalid "priority_pr_ineligible"
    "priority control requires an open non-draft pull request"
    (some (.ineligible candidate.number candidate.state candidate.draft)))
  Guard.refuse (candidate.crossRepository || decide (candidate.head.repository ≠ input.status.repository) ||
      decide (candidate.base.repository ≠ input.status.repository))
    (invalid "priority_fork_unsupported" "priority control requires a same-repository PR head" none)
  Guard.refuse (candidate.hasLabel "caravan" || candidate.hasLabel "caravan-evicted")
    (invalid "priority_membership_ineligible"
      "priority control applies only to unenrolled, non-evicted PRs"
      (some (.membership candidate.number candidate.labels)))
  let namespaced := (sortedLabels candidate.labels).filter fun label =>
    Text.startsWith label "caravan-priority:"
  let unknown := namespaced.filter fun label => decide (label ∉ input.configuredPriorities)
  Guard.refuse (!unknown.isEmpty || decide (1 < namespaced.length - unknown.length))
    (invalid "priority_metadata_invalid"
      "existing priority metadata is unknown or conflicting; inspect before mutation"
      (some (.metadata candidate.number namespaced unknown)))

/-- The candidate that the status shows, when a command may change its priority. -/
def admitted : Except PriorityError PullRequestSnapshot := do
  (input.status.initialization.requireReady).mapError fun e =>
    ⟨e.category,e.code,e.message,e.details.map .fields⟩
  match input.operation with
  | .set label => validateRequestedLabel label input.configuredPriorities
  | .clear => .ok ()
  match input.status.currentPr with
  | none => .error (invalid "priority_pr_not_found" "exact priority PR was not discovered" none)
  | some number =>
      match input.status.analysis.pullRequests[number]? with
      | none => .error (invalid "priority_pr_not_found"
          ("PR #" ++ toString number ++ " is absent from the exact provider snapshot") none)
      | some candidate => do
          validateCandidate input candidate
          return candidate

def permissionOf : ProviderAnswer → Option String
  | .text value => some value
  | _ => none

def verifyBranchHead (branch : BranchSnapshot) : Membership.ProviderIo Unit := do
  let actual ← Membership.ask (.branchHeadOid branch.name) permissionOf
  Prog.refuseIf (decide (actual ≠ branch.oid)) (.branchHeadMismatch branch.name branch.oid actual)

/-- The configured labels exist, the viewer may write, and the default branch has not moved. -/
def authorized : PriorityIo String := do
  let labels ← mapError (mutationError "priority_label_inventory_failed" [])
    (Membership.ask .repositoryLabels Membership.labelsOf)
  let missing := input.configuredPriorities.filter fun label => decide (label ∉ labels)
  Prog.refuseIf (!missing.isEmpty) (invalid "required_priority_labels_missing"
    "configured priority labels must exist before priority mutation"
    (some (.missingLabels missing "run \x60cara init\x60, then retry")))
  let permission ← mapError (mutationError "priority_permission_check_failed" [])
    (Membership.ask .viewerPermission permissionOf)
  Prog.refuseIf (decide (permission ∉ ["ADMIN","MAINTAIN","WRITE"])) (invalid "priority_permission_denied"
    "priority mutation requires repository write permission" (some (.permission "WRITE" permission)))
  mapError (mutationError "priority_default_moved" [])
    (verifyBranchHead input.status.analysis.fleet.defaultBranch)
  return permission

structure Relabelled where
  current : PullRequestSnapshot
  receipts : List GitHubMutationReceipt := []

def relabel (code : String) (edit : PullEdit) (made : Relabelled) : PriorityIo Relabelled := do
  let receipt ← mapError (mutationError code made.receipts)
    (mutatePullRequest (.ofSnapshot made.current) edit)
  return ⟨receipt.after,made.receipts ++ [receipt]⟩

/-- Every other configured label that the pull request still has is removed. -/
def removeOthers (selected : Option String) : List String → Relabelled → PriorityIo Relabelled
  | [],made => pure made
  | label::rest,made =>
      if some label = selected ∨ made.current.hasLabel label = false then removeOthers selected rest made
      else do
        let removed ← relabel "priority_remove_failed" (.removeLabel label) made
        removeOthers selected rest removed

def addSelected (selected : Option String) (made : Relabelled) : PriorityIo Relabelled :=
  match selected with
  | none => pure made
  | some label =>
      if made.current.hasLabel label then pure made
      else relabel "priority_add_failed" (.addLabel label) made

def selectedRank : Option ℕ :=
  input.operation.selectedLabel.bind fun label =>
    (input.configuredPriorities.findIdx? fun configured => decide (configured = label)).map (· + 1)

structure Transition where
  permission : String
  candidate : PullRequestSnapshot
  made : Relabelled

def transition : PriorityIo Transition := do
  let candidate ← ofResult (admitted input)
  let permission ← authorized input
  let removed ← removeOthers input.operation.selectedLabel input.configuredPriorities ⟨candidate,[]⟩
  let made ← addSelected input.operation.selectedLabel removed
  return ⟨permission,candidate,made⟩

def priorityAudit (change : Transition) : ControlLabelAudit where
  operation := input.operation.name
  marker := controlLabelMarker input.operation.name change.made.current.number change.made.current.head.oid
    change.candidate.labels change.made.current.labels
  beforeLabels := change.candidate.labels
  afterLabels := change.made.current.labels
  actor := input.actor
  reason := input.reason
  reasonSource := "explicit cara priority command"
  compatibilityEvidence :=
    "not applicable: priority metadata changes ordering, never compatibility authority"
  cleanSquashEvidence := "not applicable: priority control performs no merge or membership mutation"
  admissionPriorityBasis := input.operation.selectedLabel.elim
    "FIFO (all configured automatic-admission priority labels cleared)"
    fun label => "explicit configured priority \x60" ++ label ++ "\x60 rank " ++
      toString ((selectedRank input).getD 0) ++ " (1 highest)"

def auditMutated (comment : GitHubMutationReceipt) : Bool :=
  !(comment.providerOutput.any fun output => Text.startsWith output "existing GitHub comment")

def priorityOutput (change : Transition) (comment : GitHubMutationReceipt) : PriorityOutput where
  schemaVersion := 1
  repository := input.status.repository
  pr := comment.after.number
  head := comment.after.head
  base := comment.after.base
  defaultBranch := input.status.analysis.fleet.defaultBranch
  configFingerprint := input.configFingerprint
  actor := input.actor
  reason := input.reason
  permission := change.permission
  selectedLabel := input.operation.selectedLabel
  selectedRank := selectedRank input
  beforeLabels := change.candidate.labels
  afterLabels := comment.after.labels
  labelsChanged := decide (change.candidate.labels ≠ comment.after.labels)
  mutated := decide (change.candidate.labels ≠ comment.after.labels) || auditMutated comment
  auditDurable := true
  providerReceipts := change.made.receipts ++ [comment]

/-- The comment is posted unless the latest audit already tells this transition. -/
def execute : PriorityIo PriorityOutput := do
  let change ← transition input
  let comment ← mapError (mutationError "priority_comment_failed" change.made.receipts)
    (controlLabelComment (.ofSnapshot change.made.current) (priorityAudit input change))
  return priorityOutput input change comment

end Execute

section System

structure PrState where
  pull : PullRequestSnapshot
  comments : List String

structure Foreign (s t : PrState) : Prop where
  head : t.pull.head = s.pull.head
  comments : s.comments <+: t.comments

def labelled (p : PullRequestSnapshot) : PullEdit → PullRequestSnapshot
  | .addLabel label => { p with labels := insert label p.labels }
  | .removeLabel label => { p with labels := p.labels.erase label }
  | _ => p

def PrState.edited (s : PrState) (edit : PullEdit) : PrState := { s with pull := labelled s.pull edit }

def PrState.told (s : PrState) (body : String) : PrState := { s with comments := s.comments ++ [body] }

inductive Answered : PrState → ProviderRequest → ProviderAnswer → PrState → Prop
  | refetch (s : PrState) (number : PrNumber) : Answered s (.refetch number) (.pull s.pull) s
  | commentBodies (s : PrState) (number : PrNumber) :
      Answered s (.commentBodies number) (.bodies s.comments) s
  | edit (s : PrState) (number : PrNumber) (edit : PullEdit) (stdout : Option String) :
      Answered s (.edit number edit) (.output stdout) (s.edited edit)
  | comment (s : PrState) (number : PrNumber) (body : String) (stdout : Option String) :
      Answered s (.comment number body) (.output stdout) (s.told body)
  | repositoryLabels (s : PrState) (labels : Finset String) : Answered s .repositoryLabels (.labels labels) s
  | viewerPermission (s : PrState) (permission : String) : Answered s .viewerPermission (.text permission) s
  | branchHeadOid (s : PrState) (branch : String) (oid : CommitOid) :
      Answered s (.branchHeadOid branch) (.text oid) s
  | failed (s : PrState) (request : ProviderRequest) (error : MutationError) :
      Answered s request (.failed error) s
  | editLost (s : PrState) (number : PrNumber) (edit : PullEdit) (error : MutationError) :
      Answered s (.edit number edit) (.failed error) (s.edited edit)
  | commentLost (s : PrState) (number : PrNumber) (body : String) (error : MutationError) :
      Answered s (.comment number body) (.failed error) (s.told body)

def Moves (s : PrState) (request : ProviderRequest) (answer : ProviderAnswer) (t : PrState) : Prop :=
  ∃ mid,Foreign s mid ∧ Answered mid request answer t

structure Execution where
  input : PriorityInput
  talk : List (ProviderRequest × ProviderAnswer)
  result : Option (Except PriorityError PriorityOutput)

inductive History (s₀ : PrState) : List Execution → PrState → Prop
  | start : History s₀ [] s₀
  | foreign {past : List Execution} {s t : PrState} : History s₀ past s → Foreign s t → History s₀ past t
  | execute {past : List Execution} {s t : PrState} {e : Execution} : History s₀ past s →
      Prog.Leaves (execute e.input) e.talk e.result → Prog.Steps Moves s e.talk t →
        History s₀ (past ++ [e]) t

end System

section Spec

/-- The comment is an audit of exactly this transition by this actor for this reason. -/
def Names (body : String) (out : PriorityOutput) : Prop :=
  ∃ audit : ControlLabelAudit,body = audit.body ∧ audit.beforeLabels = out.beforeLabels ∧
    audit.afterLabels = out.afterLabels ∧ audit.actor = out.actor ∧ audit.reason = out.reason

structure Counts (e : Execution) (out : PriorityOutput) : Prop where
  returned : e.result = some (.ok out)
  changed : out.labelsChanged = true
  durable : out.auditDurable = true

/-- Every such command has a comment of its own that names it. -/
def Audited (past : List Execution) (s : PrState) : Prop :=
  ∃ own : ℕ → ℕ,
    (∀ i e out,past[i]? = some e → Counts e out → ∃ body,s.comments[own i]? = some body ∧ Names body out) ∧
    ∀ i j e e' out out',past[i]? = some e → past[j]? = some e' → Counts e out → Counts e' out' →
      own i = own j → i = j

/-- What a command reads at its end: the pull request, its comments and, when these tell the transition or
it is told in one more, the pull request again. -/
structure Looks (e : Execution) (candidate before : PullRequestSnapshot) (bodies : List String)
    (after : PullRequestSnapshot) : Prop where
  candidate : admitted e.input = .ok candidate
  reads : ∃ changes told,
    e.talk = changes ++ (.refetch before.number,.pull before)::
      (.commentBodies before.number,.bodies bodies)::told ++ [(.refetch before.number,.pull after)]

/-- The audit of a command that reads this pull request before it tells of it. -/
def auditOf (input : PriorityInput) (candidate before : PullRequestSnapshot) : ControlLabelAudit :=
  priorityAudit input ⟨"",candidate,⟨before,[]⟩⟩

/-- Nobody edits the labels while the command tells of them, and the latest audit does not match, unless
the very audit of this command is there and no command before it is named by it. -/
structure Undisturbed (past : List Execution) (e : Execution) (candidate before : PullRequestSnapshot)
    (bodies : List String) (after : PullRequestSnapshot) : Prop where
  labels : after.labels = before.labels
  unmatched : (auditOf e.input candidate before).isVisible (.ofSnapshot before) bodies = false ∨
    ((auditOf e.input candidate before).body ∈ bodies ∧
      ∀ earlier ∈ past,∀ out,Counts earlier out → ¬Names (auditOf e.input candidate before).body out)

def Faithful (past : List Execution) (e : Execution) : Prop :=
  ∀ out,Counts e out → ∀ candidate before bodies after,Looks e candidate before bodies after →
    Undisturbed past e candidate before bodies after

end Spec

section Calls

variable {s t : PrState} {talk : List (ProviderRequest × ProviderAnswer)} {request : ProviderRequest}
  {answer : ProviderAnswer} {expected : PullRequestPrecondition} {audit : ControlLabelAudit}
  {receipt : GitHubMutationReceipt} {input : PriorityInput} {out : PriorityOutput}

theorem Answered.moves (h : Answered s request answer t) : Moves s request answer t :=
  ⟨s,⟨rfl,List.prefix_rfl⟩,h⟩

theorem Moves.comments (h : Moves s request answer t) : s.comments <+: t.comments := by
  obtain ⟨mid,hforeign,hanswered⟩ := h
  apply hforeign.comments.trans
  cases hanswered with
  | comment => exact List.prefix_append _ _
  | commentLost => exact List.prefix_append _ _
  | _ => exact List.prefix_rfl

theorem steps_comments (h : Prog.Steps Moves s talk t) : s.comments <+: t.comments := by
  induction h with
  | nil s => exact List.prefix_rfl
  | cons hstep _ ih => exact hstep.comments.trans ih

theorem steps_mem (h : Prog.Steps Moves s talk t) (hmem : (request,answer) ∈ talk) :
    ∃ mid next,s.comments <+: mid.comments ∧ Answered mid request answer next ∧
      next.comments <+: t.comments := by
  induction h with
  | nil s => cases hmem
  | cons hstep hrest ih =>
    rcases List.mem_cons.mp hmem with heq | hmem
    · cases heq
      obtain ⟨mid,hforeign,hanswered⟩ := hstep
      exact ⟨mid,_,hforeign.comments,hanswered,steps_comments hrest⟩
    · obtain ⟨mid,next,hbefore,hanswered,hafter⟩ := ih hmem
      exact ⟨mid,next,hstep.comments.trans hbefore,hanswered,hafter⟩

theorem ask_ok {α : Type} {value : ProviderAnswer → Option α} {a : α}
    (h : Prog.Yields (Membership.ask request value) talk (.ok a)) :
    ∃ answer,talk = [(request,answer)] ∧ value answer = some a := by
  obtain ⟨answer,htalk,hdecode⟩ := (Prog.yields_query _ _ _).mp h
  refine ⟨answer,htalk,?_⟩
  cases answer with
  | failed e => cases hdecode
  | _ =>
    obtain ⟨a',ha',heq⟩ := Option.map_eq_some_iff.mp hdecode
    cases heq
    exact ha'

theorem refetch_ok {number : PrNumber} {p : PullRequestSnapshot}
    (h : Prog.Yields (Membership.refetchPullRequest number) talk (.ok p)) :
    talk = [(.refetch number,.pull p)] := by
  obtain ⟨answer,htalk,hvalue⟩ := ask_ok h
  cases answer with
  | pull found =>
    cases hvalue
    exact htalk
  | _ => cases hvalue

/-- A precondition that holds is that of the pull request that was read. -/
theorem verifyPrecondition_ok {before : PullRequestSnapshot}
    (h : Prog.Yields (Membership.verifyPrecondition expected) talk (.ok before)) :
    talk = [(.refetch before.number,.pull before)] ∧ expected.number = before.number ∧
      expected.headOid = before.head.oid ∧ expected.labels = before.labels := by
  unfold Membership.verifyPrecondition at h
  obtain ⟨found,u,v,rfl,hfound,hrest⟩ := (Prog.yields_bind_ok _ _ _).mp h
  obtain ⟨_,hrefuse,hrest⟩ := (Prog.yields_ofResult_bind _ _ _).mp hrest
  obtain ⟨rfl,heq⟩ := (Prog.yields_pure _ _).mp hrest
  cases heq
  have hunchanged := (Guard.refuse_eq_ok _ _ _).mp hrefuse
  obtain ⟨hnumber,hhead,hlabels⟩ := Sync.eq_of_changedPreconditionFields hunchanged
  refine ⟨?_,hnumber,hhead,hlabels⟩
  rw [refetch_ok hfound,List.append_nil]
  have hsame : expected.number = before.number := hnumber
  rw [hsame]

theorem controlLabelComment_ok (h : Prog.Yields (controlLabelComment expected audit) talk (.ok receipt)) :
    ∃ before bodies told,talk = (.refetch before.number,.pull before)::
        (.commentBodies before.number,.bodies bodies)::told ++
          [(.refetch before.number,.pull receipt.after)] ∧
      expected.number = before.number ∧ expected.headOid = before.head.oid ∧ expected.labels = before.labels ∧
      (audit.isVisible expected bodies = false → ∃ stdout,
        told = [(.comment before.number audit.body,.output stdout)]) := by
  unfold controlLabelComment at h
  obtain ⟨before,t₁,t₂,rfl,hbefore,h⟩ := (Prog.yields_bind_ok _ _ _).mp h
  obtain ⟨bodies,t₃,t₄,rfl,hbodies,h⟩ := (Prog.yields_bind_ok _ _ _).mp h
  obtain ⟨output,told,t₅,rfl,htold,h⟩ := (Prog.yields_bind_ok _ _ _).mp h
  obtain ⟨after,t₆,t₇,rfl,hafter,h⟩ := (Prog.yields_bind_ok _ _ _).mp h
  obtain ⟨rfl,hreceipt⟩ := (Prog.yields_pure _ _).mp h
  cases hreceipt
  obtain ⟨hverified,hnumber,hhead,hlabels⟩ := verifyPrecondition_ok hbefore
  have hread : t₃ = [(.commentBodies expected.number,.bodies bodies)] := by
    obtain ⟨answer,htalk,hvalue⟩ := ask_ok hbodies
    cases answer with
    | bodies found =>
      cases hvalue
      exact htalk
    | _ => cases hvalue
  refine ⟨before,bodies,told,?_,hnumber,hhead,hlabels,?_⟩
  · rw [hverified,hread,refetch_ok hafter,hnumber]
    simp
  · intro hvisible
    unfold Membership.postAudit at htold
    rw [hvisible] at htold
    obtain ⟨stdout,u,v,rfl,hask,hrest⟩ := (Prog.yields_bind_ok _ _ _).mp htold
    obtain ⟨rfl,_⟩ := (Prog.yields_pure _ _).mp hrest
    obtain ⟨answer,htalk,hvalue⟩ := ask_ok hask
    cases answer with
    | output found =>
      cases hvalue
      refine ⟨stdout,?_⟩
      rw [htalk,hnumber]
      rfl
    | _ => cases hvalue

theorem transition_ok {change : Transition} (h : Prog.Yields (transition input) talk (.ok change)) :
    admitted input = .ok change.candidate := by
  unfold transition at h
  obtain ⟨candidate,hadmitted,h⟩ := (Prog.yields_ofResult_bind _ _ _).mp h
  obtain ⟨permission,t₁,t₂,rfl,_,h⟩ := (Prog.yields_bind_ok _ _ _).mp h
  obtain ⟨removed,t₃,t₄,rfl,_,h⟩ := (Prog.yields_bind_ok _ _ _).mp h
  obtain ⟨made,t₅,t₆,rfl,_,h⟩ := (Prog.yields_bind_ok _ _ _).mp h
  obtain ⟨_,hchange⟩ := (Prog.yields_pure _ _).mp h
  cases hchange
  exact hadmitted

/-- The audit depends on the pull request through its number, head and labels. -/
theorem priorityAudit_eq_auditOf {change : Transition} {before : PullRequestSnapshot}
    (hnumber : change.made.current.number = before.number)
    (hhead : change.made.current.head.oid = before.head.oid)
    (hlabels : change.made.current.labels = before.labels) :
    priorityAudit input change = auditOf input change.candidate before := by
  unfold auditOf priorityAudit
  rw [hnumber,hhead,hlabels]

theorem isVisible_congr {expected' : PullRequestPrecondition} (hnumber : expected.number = expected'.number)
    (hhead : expected.headOid = expected'.headOid) (bodies : List String) :
    audit.isVisible expected bodies = audit.isVisible expected' bodies := by
  unfold ControlLabelAudit.isVisible
  rw [hnumber,hhead]

theorem execute_ok {e : Execution} (h : Prog.Yields (execute e.input) e.talk (.ok out)) :
    ∃ candidate before bodies after,Looks e candidate before bodies after ∧
      out.beforeLabels = candidate.labels ∧ out.afterLabels = after.labels ∧ out.actor = e.input.actor ∧
      out.reason = e.input.reason ∧ (.commentBodies before.number,.bodies bodies) ∈ e.talk ∧
      ((auditOf e.input candidate before).isVisible (.ofSnapshot before) bodies = false → ∃ stdout,
        (.comment before.number (auditOf e.input candidate before).body,.output stdout) ∈ e.talk) := by
  unfold execute at h
  obtain ⟨change,t₁,t₂,htalk,hchange,h⟩ := (Prog.yields_bind_ok _ _ _).mp h
  obtain ⟨receipt,t₃,t₄,rfl,hcomment,h⟩ := (Prog.yields_bind_ok _ _ _).mp h
  obtain ⟨rfl,hout⟩ := (Prog.yields_pure _ _).mp h
  cases hout
  rw [Prog.yields_mapError] at hcomment
  obtain ⟨before,bodies,told,rfl,hnumber,hhead,hlabels,htold⟩ := controlLabelComment_ok hcomment
  have haudit : priorityAudit e.input change = auditOf e.input change.candidate before :=
    priorityAudit_eq_auditOf hnumber hhead hlabels
  refine ⟨change.candidate,before,bodies,receipt.after,⟨transition_ok hchange,t₁,told,?_⟩,rfl,rfl,rfl,rfl,
    ?_,?_⟩
  · rw [htalk]
    simp
  · rw [htalk]
    simp
  · intro hvisible
    rw [← isVisible_congr hnumber hhead,← haudit] at hvisible
    obtain ⟨stdout,rfl⟩ := htold hvisible
    refine ⟨stdout,?_⟩
    rw [htalk,haudit]
    simp

end Calls

section Runs

variable {s₀ s t : PrState} {past : List Execution} {e : Execution} {out : PriorityOutput}

theorem getElem?_extends {l l' : List String} {i : ℕ} {body : String} (h : l <+: l')
    (hbody : l[i]? = some body) : l'[i]? = some body := by
  obtain ⟨rest,rfl⟩ := h
  rw [List.getElem?_append_left (List.getElem?_eq_some_iff.mp hbody).1]
  exact hbody

theorem names_auditOf {candidate before : PullRequestSnapshot} (hbefore : out.beforeLabels = candidate.labels)
    (hafter : out.afterLabels = before.labels) (hactor : out.actor = e.input.actor)
    (hreason : out.reason = e.input.reason) : Names (auditOf e.input candidate before).body out :=
  ⟨auditOf e.input candidate before,rfl,hbefore.symm,hafter.symm,hactor.symm,hreason.symm⟩

/-- A faithful command leaves a comment that names it and that no earlier command has. -/
theorem Faithful.comment (h : Faithful past e) (hcounts : Counts e out)
    (hleaves : Prog.Leaves (execute e.input) e.talk e.result) (hsteps : Prog.Steps Moves s e.talk t) :
    ∃ i body,t.comments[i]? = some body ∧ Names body out ∧
      (i < s.comments.length → ∀ earlier ∈ past,∀ out',Counts earlier out' → ¬Names body out') := by
  rw [hcounts.returned] at hleaves
  obtain ⟨candidate,before,bodies,after,hlooks,hbefore,hafter,hactor,hreason,hread,htold⟩ :=
    execute_ok hleaves.yields
  have hundisturbed := h out hcounts candidate before bodies after hlooks
  rw [hundisturbed.labels] at hafter
  have hnames := names_auditOf hbefore hafter hactor hreason
  cases hundisturbed.unmatched with
  | inl hvisible =>
    obtain ⟨stdout,hmem⟩ := htold hvisible
    obtain ⟨mid,next,hlong,hanswered,hrest⟩ := steps_mem hsteps hmem
    cases hanswered
    refine ⟨mid.comments.length,_,?_,hnames,?_⟩
    · exact getElem?_extends hrest List.getElem?_concat_length
    · intro hlt
      exact absurd hlt (not_lt.mpr hlong.length_le)
  | inr hown =>
    obtain ⟨mid,next,_,hanswered,hrest⟩ := steps_mem hsteps hread
    cases hanswered
    obtain ⟨i,hi⟩ := List.mem_iff_getElem?.mp hown.1
    exact ⟨i,_,getElem?_extends hrest hi,hnames,fun _ => hown.2⟩

theorem Audited.extends (h : Audited past s) (hcomments : s.comments <+: t.comments) : Audited past t := by
  obtain ⟨own,hnamed,hown⟩ := h
  refine ⟨own,?_,hown⟩
  intro i e out hget hcounts
  obtain ⟨body,hbody,hnames⟩ := hnamed i e out hget hcounts
  exact ⟨body,getElem?_extends hcomments hbody,hnames⟩

theorem getElem?_snoc {i : ℕ} {e e' : Execution} (h : (past ++ [e])[i]? = some e') :
    past[i]? = some e' ∨ i = past.length ∧ e' = e := by
  rcases Nat.lt_trichotomy i past.length with hlt | heq | hgt
  · rw [List.getElem?_append_left hlt] at h
    exact .inl h
  · rw [heq,List.getElem?_concat_length] at h
    exact .inr ⟨heq,(Option.some_inj.mp h).symm⟩
  · rw [List.getElem?_eq_none (by rw [List.length_append,List.length_singleton]; omega)] at h
    cases h

/-- One more command: nothing to add when it does not count, and a comment of its own when it does. -/
theorem Audited.execute (h : Audited past s) (hfaithful : Faithful past e)
    (hleaves : Prog.Leaves (execute e.input) e.talk e.result) (hsteps : Prog.Steps Moves s e.talk t) :
    Audited (past ++ [e]) t := by
  have hkept := h.extends (steps_comments hsteps)
  by_cases hcounts : ∃ out,Counts e out
  · obtain ⟨out,hcounts⟩ := hcounts
    obtain ⟨fresh,body,hbody,hnames,hunowned⟩ := hfaithful.comment hcounts hleaves hsteps
    obtain ⟨own,hnamed,hown⟩ := h
    -- An earlier command has its comment among those that were there before.
    have hfree : ∀ i earlier out',past[i]? = some earlier → Counts earlier out' → own i ≠ fresh := by
      intro i earlier out' hget hearlier heq
      obtain ⟨told,htold,hnamesEarlier⟩ := hnamed i earlier out' hget hearlier
      rw [heq] at htold
      have hlt := (List.getElem?_eq_some_iff.mp htold).1
      have hsame := getElem?_extends (steps_comments hsteps) htold
      rw [hbody] at hsame
      cases hsame
      exact hunowned hlt earlier (List.mem_of_getElem? hget) out' hearlier hnamesEarlier
    have hold : ∀ i earlier,past[i]? = some earlier → i ≠ past.length := by
      intro i earlier hget heq
      have hlt := (List.getElem?_eq_some_iff.mp hget).1
      omega
    refine ⟨fun i => if i = past.length then fresh else own i,?_,?_⟩
    · intro i e' out' hget hcounts'
      rcases getElem?_snoc hget with hget | ⟨rfl,rfl⟩
      · obtain ⟨told,htold,hnamed⟩ := hnamed i e' out' hget hcounts'
        refine ⟨told,?_,hnamed⟩
        dsimp only
        rw [if_neg (hold i e' hget)]
        exact getElem?_extends (steps_comments hsteps) htold
      · have heq : out' = out := by
          have hreturned := hcounts'.returned.symm.trans hcounts.returned
          cases hreturned
          rfl
        dsimp only
        rw [if_pos rfl,heq]
        exact ⟨body,hbody,hnames⟩
    · intro i j e₁ e₂ out₁ out₂ hget₁ hget₂ hcounts₁ hcounts₂ heq
      dsimp only at heq
      rcases getElem?_snoc hget₁ with hget₁ | ⟨hi,he₁⟩
      · rcases getElem?_snoc hget₂ with hget₂ | ⟨hj,he₂⟩
        · rw [if_neg (hold i e₁ hget₁),if_neg (hold j e₂ hget₂)] at heq
          exact hown i j e₁ e₂ out₁ out₂ hget₁ hget₂ hcounts₁ hcounts₂ heq
        · rw [if_neg (hold i e₁ hget₁),if_pos hj] at heq
          exact absurd heq (hfree i e₁ out₁ hget₁ hcounts₁)
      · rcases getElem?_snoc hget₂ with hget₂ | ⟨hj,he₂⟩
        · rw [if_pos hi,if_neg (hold j e₂ hget₂)] at heq
          exact absurd heq.symm (hfree j e₂ out₂ hget₂ hcounts₂)
        · rw [hi,hj]
  · obtain ⟨own,hnamed,hown⟩ := hkept
    have hlast : ∀ (i : ℕ) (e' : Execution) (out' : PriorityOutput),(past ++ [e])[i]? = some e' →
        Counts e' out' → past[i]? = some e' := by
      intro i e' out' hget hcounts'
      rcases getElem?_snoc hget with hget | ⟨_,rfl⟩
      · exact hget
      · exact absurd ⟨out',hcounts'⟩ hcounts
    refine ⟨own,?_,?_⟩
    · intro i e' out' hget hcounts'
      exact hnamed i e' out' (hlast i e' out' hget hcounts') hcounts'
    · intro i j e₁ e₂ out₁ out₂ hget₁ hget₂ hcounts₁ hcounts₂ heq
      exact hown i j e₁ e₂ out₁ out₂ (hlast i e₁ out₁ hget₁ hcounts₁) (hlast j e₂ out₂ hget₂ hcounts₂)
        hcounts₁ hcounts₂ heq

/-- In every history of faithful commands, each that returned changed labels has an audit of its own. -/
theorem history_audited (h : History s₀ past s)
    (hfaithful : ∀ before e behind,past = before ++ e::behind → Faithful before e) : Audited past s := by
  induction h with
  | start => exact ⟨id,by simp,by simp⟩
  | foreign _ hforeign ih => exact (ih hfaithful).extends hforeign.comments
  | @execute past s t e _ hleaves hsteps ih =>
    have hearlier : Audited past s := by
      apply ih
      intro before e' behind hsplit
      exact hfaithful before e' (behind ++ [e]) (by rw [hsplit,List.append_assoc]; rfl)
    exact hearlier.execute (hfaithful past e [] rfl) hleaves hsteps

end Runs

section Dedup

variable {expected : PullRequestPrecondition} {audit told : ControlLabelAudit}

theorem body_eq (audit : ControlLabelAudit) : ∃ rest,audit.body = audit.visibleMarker ++ rest := by
  unfold ControlLabelAudit.body
  simp only [String.append_assoc]
  exact ⟨_,rfl⟩

/-- The latest comment is taken for the audit when it has its marker, whoever posted it. -/
theorem isVisible_of_marker (bodies : List String) (h : audit.marker = told.marker) :
    audit.isVisible expected (bodies ++ [told.body]) = true := by
  have hmarker : audit.visibleMarker = told.visibleMarker := by
    unfold ControlLabelAudit.visibleMarker
    rw [h]
  obtain ⟨rest,hbody⟩ := body_eq told
  have haudit : Text.contains told.body "<!-- caravan-control-label-audit:" = true := by
    rw [hbody]
    unfold ControlLabelAudit.visibleMarker
    rw [String.append_assoc,String.append_assoc]
    exact Text.contains_append _ _
  have hcontains : Text.contains told.body audit.visibleMarker = true := by
    rw [hbody,hmarker]
    exact Text.contains_append _ _
  have hlatest : (bodies ++ [told.body]).reverse.find? (fun body =>
      Text.contains body "<!-- caravan-control-label-audit:") = some told.body := by
    rw [List.reverse_append,List.reverse_singleton,List.singleton_append,List.find?_cons,haudit]
  unfold ControlLabelAudit.isVisible
  dsimp only
  rw [hlatest,Option.any_some,hcontains,Bool.true_or]

theorem controlLabelComment_yields {p after : PullRequestSnapshot} {bodies : List String} {output : String}
    {post : List (ProviderRequest × ProviderAnswer)}
    (h : Prog.Yields (Membership.postAudit p.number audit (audit.isVisible (.ofSnapshot p) bodies)) post
      (.ok output)) :
    Prog.Yields (controlLabelComment (.ofSnapshot p) audit)
      ((.refetch p.number,.pull p)::(.commentBodies p.number,.bodies bodies)::post ++
        [(.refetch p.number,.pull after)])
      (.ok { kind := .comment,before := some p,after := after,providerOutput := some output }) := by
  have hverified : Prog.Yields (Membership.verifyPrecondition (.ofSnapshot p)) [(.refetch p.number,.pull p)]
      (.ok p) := by
    refine (Prog.yields_bind_ok _ _ _).mpr ⟨p,[_],[],rfl,⟨_,[],rfl,rfl,rfl⟩,?_⟩
    refine (Prog.yields_ofResult_bind _ _ _).mpr ⟨(),?_,rfl,rfl⟩
    rw [Sync.changedPreconditionFields_self]
    rfl
  refine (Prog.yields_bind_ok _ _ _).mpr ⟨p,[_],_,rfl,hverified,?_⟩
  refine (Prog.yields_bind_ok _ _ _).mpr ⟨bodies,[_],_,rfl,⟨_,[],rfl,rfl,rfl⟩,?_⟩
  refine (Prog.yields_bind_ok _ _ _).mpr ⟨output,post,_,rfl,h,?_⟩
  exact (Prog.yields_bind_ok _ _ _).mpr ⟨after,[_],[],rfl,⟨_,[],rfl,rfl,rfl⟩,rfl,rfl⟩

end Dedup

section Example

def prioRepository : RepositoryId := ⟨"octo","repo"⟩

def prioPull : PullRequestSnapshot where
  number := 5
  state := .open
  head := ⟨prioRepository,"topic","head"⟩
  base := ⟨prioRepository,"main","main-oid"⟩
  autoMerge := .disabled

def prioLabelled : PullRequestSnapshot := labelled prioPull (.addLabel "caravan-priority:high")

/-- The pull request with and without the priority. -/
def prioShown (high : Bool) : PullRequestSnapshot := if high then prioLabelled else prioPull

def prioStatus (high : Bool) : StatusOutput where
  repository := prioRepository
  defaultBranch := "main"
  analysis := {
    fleet := {
      repository := prioRepository
      defaultBranch := ⟨prioRepository,"main","main-oid"⟩
      caravans := [] }
    pullRequests := (∅ : PullRequestMap).insert 5 (prioShown high) }
  currentPr := some 5

def prioInput (actor : String) (high : Bool) : PriorityInput where
  status := prioStatus !high
  configuredPriorities := ["caravan-priority:high"]
  configFingerprint := ""
  actor := actor
  reason := "release"
  operation := if high then .set "caravan-priority:high" else .clear

def prioAudit (actor : String) (high : Bool) : ControlLabelAudit :=
  auditOf (prioInput actor high) (prioShown !high) (prioShown high)

def prioEdit (high : Bool) : PullEdit :=
  if high then .addLabel "caravan-priority:high" else .removeLabel "caravan-priority:high"

def prioChanges (high : Bool) : List (ProviderRequest × ProviderAnswer) :=
  [(.repositoryLabels,.labels {"caravan-priority:high"}),(.viewerPermission,.text "WRITE"),
    (.branchHeadOid "main",.text "main-oid"),(.refetch 5,.pull (prioShown !high)),
    (.edit 5 (prioEdit high),.output none),(.refetch 5,.pull (prioShown high))]

def prioTold (high : Bool) (bodies : List String) (post : List (ProviderRequest × ProviderAnswer)) :
    List (ProviderRequest × ProviderAnswer) :=
  (.refetch 5,.pull (prioShown high))::(.commentBodies 5,.bodies bodies)::post ++
    [(.refetch 5,.pull (prioShown high))]

theorem prioChanges_yields (actor : String) (high : Bool) : ∃ change,
    Prog.Yields (transition (prioInput actor high)) (prioChanges high) (.ok change) ∧
      change.candidate = prioShown (!high) ∧ change.made.current = prioShown high := by
  have hsame : transition (prioInput actor high) = transition (prioInput "" high) := rfl
  have hvalues : ((transition (prioInput "" high)).run.follow (prioChanges high)).map (fun left =>
      (left.1.toOption.map fun change => (change.candidate,change.made.current),left.2.length)) =
        some (some (prioShown !high,prioShown high),0) := by
    cases high <;> decide +kernel
  obtain ⟨⟨result,rest⟩,hfollow,hleft⟩ := Option.map_eq_some_iff.mp hvalues
  obtain ⟨hresult,hrest⟩ := Prod.mk.inj hleft
  obtain ⟨change,hchange,hpulls⟩ := Option.map_eq_some_iff.mp hresult
  cases List.eq_nil_of_length_eq_zero hrest
  cases result with
  | error e => cases hchange
  | ok made =>
    cases hchange
    obtain ⟨hcandidate,hcurrent⟩ := Prod.mk.inj hpulls
    rw [hsame]
    exact ⟨change,Prog.yields_of_follow hfollow,hcandidate,hcurrent⟩

theorem prioExecute_yields {actor output : String} {high : Bool} {bodies : List String}
    {post : List (ProviderRequest × ProviderAnswer)}
    (h : Prog.Yields (Membership.postAudit 5 (prioAudit actor high)
      ((prioAudit actor high).isVisible (.ofSnapshot (prioShown high)) bodies)) post (.ok output)) :
    ∃ out,Prog.Yields (execute (prioInput actor high)) (prioChanges high ++ prioTold high bodies post) (.ok out) ∧
      out.labelsChanged = true ∧ out.auditDurable = true := by
  obtain ⟨change,hchanges,hcandidate,hcurrent⟩ := prioChanges_yields actor high
  have haudit : priorityAudit (prioInput actor high) change = prioAudit actor high := by
    unfold prioAudit auditOf priorityAudit
    rw [hcandidate,hcurrent]
  obtain ⟨comment,hafter,hcomment⟩ : ∃ comment : GitHubMutationReceipt,comment.after = prioShown high ∧
      Prog.Yields (controlLabelComment (.ofSnapshot (prioShown high)) (prioAudit actor high))
        (prioTold high bodies post) (.ok comment) := by
    cases high <;> exact ⟨_,rfl,controlLabelComment_yields h⟩
  refine ⟨priorityOutput (prioInput actor high) change comment,
    (Prog.yields_bind_ok _ _ _).mpr ⟨change,_,_,rfl,hchanges,?_⟩,?_,rfl⟩
  · rw [haudit,hcurrent]
    refine (Prog.yields_bind_ok _ _ _).mpr ⟨_,_,[],(List.append_nil _).symm,?_,rfl,rfl⟩
    exact (Prog.yields_mapError _ _ _).mpr hcomment
  · show decide (change.candidate.labels ≠ comment.after.labels) = true
    rw [hcandidate,hafter]
    cases high <;> decide +kernel

theorem prioChanges_steps (high : Bool) (comments : List String) :
    Prog.Steps Moves ⟨prioShown !high,comments⟩ (prioChanges high) ⟨prioShown high,comments⟩ := by
  have hedit := Answered.edit ⟨prioShown !high,comments⟩ 5 (prioEdit high) none
  have hedited : PrState.edited ⟨prioShown !high,comments⟩ (prioEdit high) = ⟨prioShown high,comments⟩ := by
    cases high <;> simp [PrState.edited,prioEdit,prioShown,prioLabelled,prioPull,labelled]
  rw [hedited] at hedit
  apply Prog.Steps.cons (Answered.moves (.repositoryLabels _ _))
  apply Prog.Steps.cons (Answered.moves (.viewerPermission _ _))
  apply Prog.Steps.cons (Answered.moves (.branchHeadOid _ _ _))
  apply Prog.Steps.cons (Answered.moves (.refetch _ 5))
  apply Prog.Steps.cons hedit.moves
  exact .cons (Answered.moves (.refetch ⟨prioShown high,comments⟩ 5)) (.nil _)

/-- The command whose audit is not there yet posts it. -/
def prioPosting (actor : String) (high : Bool) (bodies : List String) (out : PriorityOutput) : Execution :=
  ⟨prioInput actor high,prioChanges high ++ prioTold high bodies
    [(.comment 5 (prioAudit actor high).body,.output none)],some (.ok out)⟩

theorem prioPosts (actor : String) (high : Bool) {bodies : List String} {past : List Execution}
    {s₀ : PrState} (hpast : History s₀ past ⟨prioShown !high,bodies⟩)
    (hnew : (prioAudit actor high).isVisible (.ofSnapshot (prioShown high)) bodies = false) : ∃ out,
    History s₀ (past ++ [prioPosting actor high bodies out])
      ⟨prioShown high,bodies ++ [(prioAudit actor high).body]⟩ ∧
    Counts (prioPosting actor high bodies out) out := by
  have hpost : Prog.Yields (Membership.postAudit 5 (prioAudit actor high)
      ((prioAudit actor high).isVisible (.ofSnapshot (prioShown high)) bodies))
        [(.comment 5 (prioAudit actor high).body,.output none)] (.ok (prioAudit actor high).visibleMarker) := by
    rw [hnew]
    exact ⟨_,[],rfl,rfl,rfl⟩
  obtain ⟨out,hyields,hchanged,hdurable⟩ := prioExecute_yields hpost
  refine ⟨out,.execute hpast (.completed hyields) ?_,⟨rfl,hchanged,hdurable⟩⟩
  apply (prioChanges_steps high bodies).append
  apply Prog.Steps.cons (Answered.moves (.refetch ⟨prioShown high,bodies⟩ 5))
  apply Prog.Steps.cons (Answered.moves (.commentBodies _ 5))
  apply Prog.Steps.cons (Answered.moves (.comment _ 5 (prioAudit actor high).body none))
  exact .cons (Answered.moves (.refetch ⟨prioShown high,bodies ++ [(prioAudit actor high).body]⟩ 5)) (.nil _)

theorem prioAnn : ∃ out,
    History ⟨prioPull,[]⟩ [prioPosting "ann" true [] out] ⟨prioLabelled,[(prioAudit "ann" true).body]⟩ ∧
    Counts (prioPosting "ann" true [] out) out :=
  prioPosts "ann" true .start rfl

/-- The label is set, removed by hand and set again by somebody else: one comment for two commands. -/
theorem history_not_audited : ∃ past s,History ⟨prioPull,[]⟩ past s ∧ ¬Audited past s := by
  obtain ⟨out,hann,hcountsAnn⟩ := prioAnn
  have hremoved := hann.foreign (t := ⟨prioPull,[(prioAudit "ann" true).body]⟩) ⟨rfl,List.prefix_rfl⟩
  have hvisible : (prioAudit "bob" true).isVisible (.ofSnapshot prioLabelled) [(prioAudit "ann" true).body] =
      true := isVisible_of_marker [] rfl
  have hpost : Prog.Yields (Membership.postAudit 5 (prioAudit "bob" true)
      ((prioAudit "bob" true).isVisible (.ofSnapshot prioLabelled) [(prioAudit "ann" true).body])) []
        (.ok (Membership.existingComment ++ (prioAudit "bob" true).visibleMarker)) := by
    rw [hvisible]
    exact ⟨rfl,rfl⟩
  obtain ⟨again,hyields,hchanged,hdurable⟩ := prioExecute_yields hpost
  have hsteps : Prog.Steps Moves ⟨prioPull,[(prioAudit "ann" true).body]⟩
      (prioChanges true ++ prioTold true [(prioAudit "ann" true).body] [])
        ⟨prioLabelled,[(prioAudit "ann" true).body]⟩ := by
    apply (prioChanges_steps true _).append
    apply Prog.Steps.cons (Answered.moves (.refetch ⟨prioLabelled,_⟩ 5))
    apply Prog.Steps.cons (Answered.moves (.commentBodies _ 5))
    exact .cons (Answered.moves (.refetch ⟨prioLabelled,_⟩ 5)) (.nil _)
  have hbob := History.execute (e := ⟨prioInput "bob" true,
    prioChanges true ++ prioTold true [(prioAudit "ann" true).body] [],some (.ok again)⟩)
    hremoved (.completed hyields) hsteps
  refine ⟨_,_,hbob,?_⟩
  intro haudited
  obtain ⟨own,hnamed,hown⟩ := haudited
  obtain ⟨body,hbody,_⟩ := hnamed 0 _ out rfl hcountsAnn
  obtain ⟨body',hbody',_⟩ := hnamed 1 _ again rfl ⟨rfl,hchanged,hdurable⟩
  have hfirst := (List.getElem?_eq_some_iff.mp hbody).1
  have hsecond := (List.getElem?_eq_some_iff.mp hbody').1
  have hsame : own 0 = own 1 := by
    simp only [List.length_singleton] at hfirst hsecond
    omega
  have h01 := hown 0 1 _ _ out again rfl rfl hcountsAnn ⟨rfl,hchanged,hdurable⟩ hsame
  omega

theorem prioPosting_faithful {actor : String} {high : Bool} {bodies : List String} {out : PriorityOutput}
    {past : List Execution}
    (hnew : (prioAudit actor high).isVisible (.ofSnapshot (prioShown high)) bodies = false) :
    Faithful past (prioPosting actor high bodies out) := by
  intro out' _ candidate before bodies' after hlooks
  obtain ⟨hcandidate,changes,told,hreads⟩ := hlooks
  have hadmitted : admitted (prioInput actor high) = .ok (prioShown !high) :=
    Guard.ok_of_toOption (show (admitted (prioInput "" high)).toOption = _ by cases high <;> decide +kernel)
  cases hadmitted.symm.trans hcandidate
  simp [prioPosting,prioChanges,prioTold,List.cons_eq_append_iff,List.append_eq_cons_iff] at hreads
  obtain ⟨_,⟨_,rfl⟩,⟨_,rfl⟩,_,_,rfl⟩ := hreads
  exact ⟨rfl,.inl hnew⟩

/-- Ann sets the priority and Bob clears it: each of them has an audit. -/
theorem history_audited_set : ∃ set cleared s,
    Audited [prioPosting "ann" true [] set,prioPosting "bob" false [(prioAudit "ann" true).body] cleared] s ∧
    Counts (prioPosting "ann" true [] set) set ∧
    Counts (prioPosting "bob" false [(prioAudit "ann" true).body] cleared) cleared := by
  obtain ⟨set,hann,hset⟩ := prioAnn
  have hnew : (prioAudit "bob" false).isVisible (.ofSnapshot (prioShown false)) [(prioAudit "ann" true).body] =
      false := by
    unfold ControlLabelAudit.isVisible
    rw [Option.any_eq_false]
    intro body hbody
    cases List.mem_singleton.mp (List.mem_reverse.mp (List.mem_of_find?_eq_some hbody))
    unfold ControlLabelAudit.body ControlLabelAudit.visibleMarker Text.contains
    simp only [String.toList_append]
    repeat rw [String.toList_ofList]
    decide +kernel
  obtain ⟨cleared,hbob,hcleared⟩ := prioPosts "bob" false hann hnew
  refine ⟨set,cleared,_,history_audited hbob ?_,hset,hcleared⟩
  intro past e behind hsplit
  rcases past with _ | ⟨first,_ | ⟨second,past⟩⟩
  · obtain ⟨rfl,_⟩ := List.cons.inj hsplit
    exact prioPosting_faithful rfl
  · obtain ⟨_,hrest⟩ := List.cons.inj hsplit
    obtain ⟨rfl,_⟩ := List.cons.inj hrest
    exact prioPosting_faithful hnew
  · simp at hsplit

end Example

end Priority
end Cara
