import Cara.Lib.Logged
import Cara.Sync.Parking

/-! Runs of the parking reconciliation: what its label writes stand on, wherever a run stops, and what a run that
returns has done about every caravan. -/
namespace Cara
namespace Sync
namespace Parking

open RequiredRuns (RequiredContextsRead RequiredRunsAssessment)
open Unpark (parkedLabel)

section Rule

/-- What was asked and answered so far. -/
abbrev Calls := List (SyncRequest × SyncAnswer)

variable (status : StatusOutput)

def policyRead : SyncRequest := .branchRequiredContexts status.repository (target status)

/-- The landing policy that a run began with. -/
def FirstPolicy (h : Calls) (policy : RequiredContextsRead) : Prop :=
  ∃ answer rest read,h = (policyRead status,answer)::rest ∧ policyOf status answer = some (.ok read) ∧
    policy = landing status read

/-- The verdict on a member comes from its facts at a time that was read. -/
def Judged (h : Calls) (policy : RequiredContextsRead) (number : PrNumber) (verdict : MemberVerdict) : Prop :=
  ∃ pull now,status.analysis.pullRequests[number]? = some pull ∧ (.nowUnix,.clock now) ∈ h ∧
    verdict = memberVerdict policy number pull now

def Assessed (h : Calls) (contexts : RequiredContextsRead) (number : PrNumber) (run : RequiredRunsAssessment) :
    Prop :=
  ∃ pull now,status.analysis.pullRequests[number]? = some pull ∧ (.nowUnix,.clock now) ∈ h ∧
    run = memberRuns contexts pull.number pull now ∧ Unpark.isGreen run = true

/-- A second reading of the policy under which the members are green. -/
def GreenRead (answer : SyncAnswer) (contexts : RequiredContextsRead) : Prop :=
  greenPolicyOf answer = some (.ok (some contexts)) ∧ contexts.complete = true ∧ contexts.branch = target status

/-- What a transition was decided from. -/
structure Decides (h : Calls) (policy : RequiredContextsRead) (e : ParkingEvidence) : Prop where
  first : FirstPolicy status h policy
  listed : e.caravan ∈ status.analysis.fleet.caravans
  head : status.analysis.pullRequests[e.caravan.id]? = some e.head
  verdicts : List.Forall₂ (Judged status h policy) e.caravan.members e.verdicts
  parks : e.head.hasLabel parkedLabel = false → e.shouldPark = true ∧ e.requiredRuns = none
  unparks : e.head.hasLabel parkedLabel = true → e.shouldPark = false ∧
    (∀ verdict ∈ e.verdicts,Unpark.isGreen verdict.requiredRuns = true) ∧ ∃ answer contexts runs,
      e.requiredRuns = some runs ∧ (policyRead status,answer) ∈ h ∧ GreenRead status answer contexts ∧
      List.Forall₂ (Assessed status h contexts) e.caravan.members runs

/-- The policy was read again, unchanged and complete, behind the comment that has its receipt. -/
def ReadAgain (h : Calls) (policy : RequiredContextsRead) (e : ParkingEvidence) : Prop :=
  policy.complete = true ∧ ∃ before receipt mid reread rest,
    h = before ++ (.ensureMarkedComment status.repository (.ofSnapshot e.head) e.marker e.comment,
      .receipt receipt)::mid ++ (policyRead status,reread)::rest ∧ policyOf status reread = some (.ok policy)

/-- What a label write of a run stands on. -/
structure LabelWrite (h : Calls) (expected : PullRequestPrecondition) (policy : RequiredContextsRead)
    (e : ParkingEvidence) : Prop where
  decided : Decides status h policy e
  expected : expected = .ofSnapshot e.head
  audited : ReadAgain status h policy e

/-- What the writes of a run are, by what was asked before. -/
def Rule (h : Calls) : SyncRequest → Prop
  | .addLabel repository expected label => repository = status.repository ∧ label = parkedLabel ∧
      ∃ policy e,LabelWrite status h expected policy e ∧ e.shouldPark = true
  | .removeLabel repository expected label => repository = status.repository ∧ label = parkedLabel ∧
      ∃ policy e,LabelWrite status h expected policy e ∧ e.shouldPark = false
  | .ensureMarkedComment _ expected marker body => ∃ policy e,Decides status h policy e ∧
      expected = .ofSnapshot e.head ∧ marker = e.marker ∧ body = e.comment
  | _ => True

/-- Between these logs only the time was asked for. -/
def Clocked (h h' : Calls) : Prop := ∃ clocks,h' = h ++ clocks ∧ ∀ x ∈ clocks,x.1 = .nowUnix

/-- The reading of the policy that the turn of a caravan makes behind its verdicts. -/
def SecondRead (turn : Calls) (answer : SyncAnswer) : Prop :=
  ∃ verdicts rest,Clocked [] verdicts ∧ turn = verdicts ++ (policyRead status,answer)::rest

/-- What the turn of a caravan, all that was asked about it, has done. -/
structure Turned (turn : Calls) (policy : RequiredContextsRead) (c : Caravan) : Prop where
  red : TerminalRed status policy c → ∀ head,status.analysis.pullRequests[c.id]? = some head →
    head.hasLabel parkedLabel = true ∨ ∃ receipt,
      (.addLabel status.repository (.ofSnapshot head) parkedLabel,.receipt receipt) ∈ turn
  other : ¬TerminalRed status policy c → ∀ head,status.analysis.pullRequests[c.id]? = some head →
    head.hasLabel parkedLabel = true → (∃ receipt,
      (.removeLabel status.repository (.ofSnapshot head) parkedLabel,.receipt receipt) ∈ turn) ∨
      ¬AllGreen status policy c ∨ ∃ answer,SecondRead status turn answer ∧
        ∀ contexts,GreenRead status answer contexts → ¬AllGreen status contexts c

/-- The turn that began at this log. -/
def TurnedFrom (s h : Calls) (policy : RequiredContextsRead) (c : Caravan) : Prop :=
  ∃ turn,h = s ++ turn ∧ Turned status turn policy c

variable {status} {h h' : Calls} {policy contexts : RequiredContextsRead} {number : PrNumber}
  {verdict : MemberVerdict} {run : RequiredRunsAssessment} {e : ParkingEvidence} {c : Caravan}

theorem FirstPolicy.mono (hpolicy : FirstPolicy status h policy) (hle : h <+: h') :
    FirstPolicy status h' policy := by
  obtain ⟨answer,rest,read,rfl,hread,heq⟩ := hpolicy
  obtain ⟨more,rfl⟩ := hle
  exact ⟨answer,rest ++ more,read,rfl,hread,heq⟩

theorem Judged.mono (hjudged : Judged status h policy number verdict) (hle : h <+: h') :
    Judged status h' policy number verdict := by
  obtain ⟨pull,now,hpull,hclock,heq⟩ := hjudged
  exact ⟨pull,now,hpull,hle.subset hclock,heq⟩

theorem Assessed.mono (hrun : Assessed status h contexts number run) (hle : h <+: h') :
    Assessed status h' contexts number run := by
  obtain ⟨pull,now,hpull,hclock,heq⟩ := hrun
  exact ⟨pull,now,hpull,hle.subset hclock,heq⟩

theorem Decides.mono (hdecides : Decides status h policy e) (hle : h <+: h') :
    Decides status h' policy e where
  first := hdecides.first.mono hle
  listed := hdecides.listed
  head := hdecides.head
  verdicts := hdecides.verdicts.imp fun _ _ hjudged => hjudged.mono hle
  parks := hdecides.parks
  unparks := by
    intro hparked
    obtain ⟨hshould,hgreen,answer,contexts,runs,hruns,hread,hcomplete,hassessed⟩ := hdecides.unparks hparked
    exact ⟨hshould,hgreen,answer,contexts,runs,hruns,hle.subset hread,hcomplete,
      hassessed.imp fun _ _ hrun => hrun.mono hle⟩

theorem ReadAgain.mono (hread : ReadAgain status h policy e) (hle : h <+: h') :
    ReadAgain status h' policy e := by
  obtain ⟨hcomplete,before,receipt,mid,reread,rest,rfl,hpolicy⟩ := hread
  obtain ⟨more,rfl⟩ := hle
  exact ⟨hcomplete,before,receipt,mid,reread,rest ++ more,by simp,hpolicy⟩

theorem Turned.mono (hturned : Turned status h policy c) (hle : h <+: h') : Turned status h' policy c := by
  constructor
  · intro hred head hhead
    refine (hturned.red hred head hhead).imp id ?_
    intro hadded
    obtain ⟨receipt,hmem⟩ := hadded
    exact ⟨receipt,hle.subset hmem⟩
  · intro hother head hhead hparked
    refine (hturned.other hother head hhead hparked).imp ?_ (Or.imp id ?_)
    · intro hremoved
      obtain ⟨receipt,hmem⟩ := hremoved
      exact ⟨receipt,hle.subset hmem⟩
    · intro hread
      obtain ⟨answer,⟨verdicts,rest,hclocked,rfl⟩,hall⟩ := hread
      obtain ⟨more,rfl⟩ := hle
      exact ⟨answer,⟨verdicts,rest ++ more,hclocked,by simp⟩,hall⟩

theorem TurnedFrom.mono {s : Calls} (hturned : TurnedFrom status s h policy c) (hle : h <+: h') :
    TurnedFrom status s h' policy c := by
  obtain ⟨turn,rfl,hturn⟩ := hturned
  obtain ⟨more,rfl⟩ := hle
  exact ⟨turn ++ more,List.append_assoc _ _ _,hturn.mono (List.prefix_append _ _)⟩

theorem terminalRows_ne_nil_iff (policy : RequiredContextsRead) (pull : PullRequestSnapshot) :
    terminalRows policy pull ≠ [] ↔ policy.complete = true ∧
      ∃ check ∈ (latestChecksPerIdentity pull.checks).1,
        (∃ required ∈ policy.checks,required.matchesRow check pull.head.oid = true) ∧
        (check.state = .failure ∨ check.state = .cancelled ∨ check.state = .timedOut ∨
          check.state = .actionRequired) := by
  simp only [terminalRows,currentRequired,isTerminal,List.filter_filter,ne_eq,List.filter_eq_nil_iff,
    Bool.and_eq_true,decide_eq_true_eq,List.any_eq_true,not_forall,not_not]
  constructor
  · intro h
    obtain ⟨check,hcheck,⟨hcomplete,hstate⟩,hmatches⟩ := h
    exact ⟨hcomplete,check,hcheck,hmatches,hstate⟩
  · intro h
    obtain ⟨hcomplete,check,hcheck,hmatches,hstate⟩ := h
    exact ⟨check,hcheck,⟨hcomplete,hstate⟩,hmatches⟩

theorem failuresOf_ne_nil_iff (verdicts : List MemberVerdict) :
    (!(failuresOf verdicts).isEmpty) = true ↔ ∃ verdict ∈ verdicts,verdict.terminal ≠ [] := by
  simp [failuresOf]

theorem exists_left {α β : Type} {R : α → β → Prop} {l : List α} {l' : List β} (h : List.Forall₂ R l l')
    {b : β} (hb : b ∈ l') : ∃ a ∈ l,R a b := by
  induction h with
  | nil => cases hb
  | cons hr _ ih =>
    rcases List.mem_cons.mp hb with rfl | hb
    · exact ⟨_,List.mem_cons_self,hr⟩
    · obtain ⟨a,ha,hab⟩ := ih hb
      exact ⟨a,List.mem_cons_of_mem _ ha,hab⟩

theorem exists_right {α β : Type} {R : α → β → Prop} {l : List α} {l' : List β} (h : List.Forall₂ R l l')
    {a : α} (ha : a ∈ l) : ∃ b ∈ l',R a b := exists_left h.flip ha

variable {verdicts : List MemberVerdict}

/-- A caravan is to be parked exactly when a member is terminally red. -/
theorem failures_iff (hverdicts : List.Forall₂ (Judged status h policy) c.members verdicts) :
    (!(failuresOf verdicts).isEmpty) = true ↔ TerminalRed status policy c := by
  rw [failuresOf_ne_nil_iff]
  constructor
  · intro hterminal
    obtain ⟨verdict,hverdict,hrows⟩ := hterminal
    obtain ⟨number,hnumber,pull,now,hpull,_,rfl⟩ := exists_left hverdicts hverdict
    obtain ⟨hcomplete,hred⟩ := (terminalRows_ne_nil_iff policy pull).mp hrows
    exact ⟨hcomplete,number,hnumber,pull,hpull,hred⟩
  · intro hred
    obtain ⟨hcomplete,number,hnumber,pull,hpull,hrow⟩ := hred
    obtain ⟨verdict,hverdict,found,now,hfound,_,rfl⟩ := exists_right hverdicts hnumber
    rw [hpull] at hfound
    cases hfound
    exact ⟨_,hverdict,(terminalRows_ne_nil_iff policy pull).mpr ⟨hcomplete,hrow⟩⟩

/-- All verdicts are green exactly when all members are. -/
theorem all_green_iff (hverdicts : List.Forall₂ (Judged status h policy) c.members verdicts) :
    (∀ verdict ∈ verdicts,Unpark.isGreen verdict.requiredRuns = true) ↔ AllGreen status policy c := by
  constructor
  · intro hall number hnumber
    obtain ⟨verdict,hverdict,pull,now,hpull,_,rfl⟩ := exists_right hverdicts hnumber
    refine ⟨pull,hpull,fun nowUnix => ?_⟩
    rw [← isGreen_iff,isGreen_memberRuns policy number number pull nowUnix now]
    exact hall _ hverdict
  · intro hgreen verdict hverdict
    obtain ⟨number,hnumber,pull,now,hpull,_,rfl⟩ := exists_left hverdicts hverdict
    obtain ⟨found,hfound,hstatus⟩ := hgreen number hnumber
    rw [hpull] at hfound
    cases hfound
    exact (isGreen_iff _).mpr (hstatus now)

end Rule

section Walk

open Prog (Logs)

variable {status : StatusOutput} {policy contexts : RequiredContextsRead} {output : ParkingReconciliation}
  {e : ParkingEvidence} {s : Calls}

theorem record_calls (s : Calls) (q : SyncRequest) (a : SyncAnswer) (t : Calls) (h : Prog.record s q a t) :
    t = s ++ [(q,a)] := h

/-- Whatever is answered, what is asked follows the rule. -/
abbrev Follows {α : Type} (status : StatusOutput) (m : ParkingIo α) (post : Calls → α → Prop) (s : Calls) : Prop :=
  Logs Prog.record (fun s q => Rule status s q) (fun s => s) m post s

theorem ask_logs {α : Type} {request : SyncRequest} {onError : MutationError → ParkingError}
    {value : SyncAnswer → Option α} {post : Calls → α → Prop} (hrule : Rule status s request)
    (h : ∀ answer a,value answer = some a → post (s ++ [(request,answer)]) a) :
    Follows status (ask request onError value) post s := by
  apply Logs.query record_calls hrule
  intro answer a hdecode
  cases answer with
  | failed error => cases hdecode
  | _ =>
    obtain ⟨a',ha',heq⟩ := Option.map_eq_some_iff.mp hdecode
    cases heq
    exact h _ _ ha'

theorem nowUnix_logs : Follows status nowUnix
    (fun h now => h = s ++ [(.nowUnix,.clock now)]) s := by
  apply Logs.query record_calls trivial
  intro answer now hdecode
  cases answer with
  | clock found =>
    cases hdecode
    rfl
  | _ => cases hdecode

theorem mem_of_snoc {x : SyncRequest × SyncAnswer} {h : Calls} (heq : h = s ++ [x]) : x ∈ h := by
  rw [heq]
  exact List.mem_append_right _ List.mem_cons_self

/-- The verdicts of the members are made from their facts and the time alone. -/
theorem memberVerdicts_logs (members : List PrNumber) :
    Follows status (memberVerdicts status policy members)
      (fun h verdicts => Clocked s h ∧ List.Forall₂ (Judged status h policy) members verdicts) s := by
  induction members generalizing s with
  | nil => exact Logs.pure ⟨⟨[],(List.append_nil s).symm,by simp⟩,.nil⟩
  | cons number rest ih =>
    refine Logs.bind (show Follows status _ (fun h verdict => Clocked s h ∧
      Judged status h policy number verdict) s from ?_) ?_
    · beta_reduce
      cases hpull : status.analysis.pullRequests[number]? with
      | none => exact Logs.crashed
      | some pull =>
        apply Logs.bind nowUnix_logs
        intro t now _ hclock
        exact Logs.pure ⟨⟨_,hclock,by simp⟩,pull,now,hpull,mem_of_snoc hclock,rfl⟩
    intro t verdict _ hverdict
    apply Logs.bind ih
    intro u verdicts hle hverdicts
    obtain ⟨⟨first,rfl,hfirst⟩,hjudged⟩ := hverdict
    obtain ⟨⟨clocks,rfl,hclocks⟩,hall⟩ := hverdicts
    refine Logs.pure ⟨⟨first ++ clocks,List.append_assoc _ _ _,?_⟩,.cons (hjudged.mono hle) hall⟩
    intro x hx
    rcases List.mem_append.mp hx with hx | hx
    · exact hfirst x hx
    · exact hclocks x hx

theorem greenRuns_logs (members : List PrNumber) :
    Follows status (greenRuns status contexts members)
      (fun h runs => match runs with
        | some runs => List.Forall₂ (Assessed status h contexts) members runs
        | none => ∃ number ∈ members,∀ pull,status.analysis.pullRequests[number]? = some pull →
            ∃ now,Unpark.isGreen (memberRuns contexts pull.number pull now) = false) s := by
  induction members generalizing s with
  | nil => exact Logs.pure .nil
  | cons number rest ih =>
    unfold greenRuns
    cases hpull : status.analysis.pullRequests[number]? with
    | none =>
      refine Logs.pure ⟨number,List.mem_cons_self,?_⟩
      intro pull hfound
      rw [hpull] at hfound
      cases hfound
    | some pull =>
      apply Logs.bind nowUnix_logs
      intro t now _ hclock
      dsimp only
      split
      case isTrue hgreen =>
        apply Logs.bind ih
        intro u runs hle hruns
        cases runs with
        | none =>
          obtain ⟨number',hmem,hred⟩ := hruns
          exact Logs.pure ⟨number',List.mem_cons_of_mem _ hmem,hred⟩
        | some runs =>
          exact Logs.pure (.cons ⟨pull,now,hpull,hle.subset (mem_of_snoc hclock),rfl,hgreen⟩ hruns)
      case isFalse hred =>
        refine Logs.pure ⟨number,List.mem_cons_self,?_⟩
        intro found hfound
        rw [hpull] at hfound
        cases hfound
        exact ⟨now,Bool.eq_false_iff.mpr hred⟩

/-- A second reading under which not every member was green. -/
theorem not_allGreen_of_red {c : Caravan} (h : ∃ number ∈ c.members,∀ pull,
    status.analysis.pullRequests[number]? = some pull →
      ∃ now,Unpark.isGreen (memberRuns contexts pull.number pull now) = false) : ¬AllGreen status contexts c := by
  intro hgreen
  obtain ⟨number,hnumber,hred⟩ := h
  obtain ⟨pull,hpull,hstatus⟩ := hgreen number hnumber
  obtain ⟨now,hfalse⟩ := hred pull hpull
  rw [isGreen_memberRuns contexts pull.number number pull now now] at hfalse
  rw [(isGreen_iff _).mpr (hstatus now)] at hfalse
  cases hfalse

theorem parkingRequiredRunsGreen_logs (c : Caravan) :
    Follows status (parkingRequiredRunsGreen status c)
      (fun h runs => ∃ answer rest,h = s ++ (policyRead status,answer)::rest ∧ match runs with
        | some runs => ∃ contexts,GreenRead status answer contexts ∧
            List.Forall₂ (Assessed status h contexts) c.members runs
        | none => ∀ contexts,GreenRead status answer contexts → ¬AllGreen status contexts c) s := by
  have hread : Follows status
      (Prog.query (.branchRequiredContexts status.repository (target status)) greenPolicyOf)
      (fun h found => ∃ answer,h = s ++ [(policyRead status,answer)] ∧
        greenPolicyOf answer = some (.ok found)) s :=
    Logs.query record_calls trivial fun answer found hdecode => ⟨answer,rfl,hdecode⟩
  apply Logs.bind hread
  intro t found _ hfound
  obtain ⟨answer,hanswer,hdecode⟩ := hfound
  cases found with
  | none =>
    refine Logs.pure ⟨answer,[],hanswer,?_⟩
    intro contexts hgreen
    have heq := hdecode.symm.trans hgreen.1
    cases heq
  | some contexts =>
    dsimp only
    split
    case isTrue hpartial =>
      refine Logs.pure ⟨answer,[],hanswer,?_⟩
      intro found hgreen
      have heq := hdecode.symm.trans hgreen.1
      cases heq
      simp [hgreen.2.1,hgreen.2.2] at hpartial
    case isFalse hwhole =>
      have hcontexts : GreenRead status answer contexts := by
        simp only [Bool.or_eq_true,Bool.not_eq_true',decide_eq_true_eq,not_or,Bool.not_eq_false,
          not_not] at hwhole
        exact ⟨hdecode,hwhole.1,hwhole.2⟩
      apply (greenRuns_logs c.members).mono
      intro h runs hle hruns
      obtain ⟨rest,rfl⟩ := hle
      refine ⟨answer,rest,?_,?_⟩
      · rw [hanswer,List.append_assoc]
        rfl
      cases runs with
      | some runs => exact ⟨contexts,hcontexts,hruns⟩
      | none =>
        intro found hgreen
        have heq := hdecode.symm.trans hgreen.1
        cases heq
        exact not_allGreen_of_red hruns

theorem receiptOf_eq {answer : SyncAnswer} {receipt : GitHubMutationReceipt}
    (h : receiptOf answer = some receipt) : answer = .receipt receipt := by
  cases answer with
  | receipt found =>
    cases h
    rfl
  | _ => cases h

theorem disable_logs (pull : PullRequestSnapshot) (onError : MutationError → ParkingError) :
    Follows status
      (ask (.disableAutoMerge status.repository (.ofSnapshot pull)) onError receiptOf) (fun _ _ => True) s :=
  ask_logs trivial fun _ _ _ => trivial

/-- Auto-merge is taken off behind the answers of the caravan's own turn. -/
theorem disarmed_logs {condition : Bool} {pull : PullRequestSnapshot} {onError : MutationError → ParkingError}
    {changed : GitHubMutationReceipt → ParkingReconciliation} {c : Caravan} {s₀ : Calls}
    (hturned : TurnedFrom status s₀ s policy c) :
    Follows status (if condition = true then do
        let receipt ← ask (.disableAutoMerge status.repository (.ofSnapshot pull)) onError receiptOf
        return changed receipt
      else pure output) (fun h _ => TurnedFrom status s₀ h policy c) s := by
  split
  · apply Logs.bind (disable_logs _ _)
    intro t receipt hle _
    exact Logs.pure (hturned.mono hle)
  · exact Logs.pure hturned

theorem verifyWithChecks_logs (pull : PullRequestSnapshot) :
    Follows status (verifyWithChecks status e pull output) (fun _ _ => True) s :=
  ask_logs trivial fun _ _ _ => trivial

/-- The comment of a transition is there. -/
def Told (status : StatusOutput) (h : Calls) (e : ParkingEvidence) : Prop :=
  ∃ before receipt rest,h = before ++
    (.ensureMarkedComment status.repository (.ofSnapshot e.head) e.marker e.comment,.receipt receipt)::rest

theorem Told.mono {h h' : Calls} (htold : Told status h e) (hle : h <+: h') : Told status h' e := by
  obtain ⟨before,receipt,rest,rfl⟩ := htold
  obtain ⟨more,rfl⟩ := hle
  exact ⟨before,receipt,rest ++ more,by simp⟩

theorem tell_logs (hdecides : Decides status s policy e) :
    Follows status (tell status e output) (fun h _ => Told status h e) s := by
  apply Logs.bind (verifyWithChecks_logs e.head)
  intro t _ hle _
  have hcomment : Follows status
      (ask (.ensureMarkedComment status.repository (.ofSnapshot e.head) e.marker e.comment)
        (parkingCommentMutationError e) receiptOf) (fun h _ => Told status h e) t := by
    apply ask_logs
    · exact ⟨policy,e,hdecides.mono hle,rfl,rfl,rfl⟩
    · intro answer receipt hvalue
      exact ⟨t,receipt,[],by rw [receiptOf_eq hvalue]⟩
  apply Logs.bind hcomment
  intro u receipt _ htold
  exact Logs.pure htold

theorem prove_logs (htold : Told status s e) :
    Follows status (prove status policy e output)
      (fun h _ => ReadAgain status h policy e) s := by
  apply Logs.bind (verifyWithChecks_logs e.head)
  intro t _ hle _
  obtain ⟨before,receipt,mid,hmid⟩ := htold.mono hle
  have hpolicy : Follows status (readPolicy status)
      (fun h fresh => ∃ answer,h = t ++ [(policyRead status,answer)] ∧
        policyOf status answer = some (.ok fresh)) t :=
    Logs.query record_calls trivial fun answer fresh hdecode => ⟨answer,rfl,hdecode⟩
  apply Logs.bind hpolicy
  intro u fresh _ hfresh
  obtain ⟨reread,hlog,hdecode⟩ := hfresh
  have hrefuse : Follows status
      (Prog.refuseIf (decide (fresh ≠ policy) || !fresh.complete)
        (policyChanged policy fresh output.providerReceipts) : ParkingIo Unit)
      (fun h _ => ReadAgain status h policy e) u := by
    apply Logs.refuseIf
    intro hsame
    simp only [Bool.or_eq_false_iff,decide_eq_false_iff_not,not_not,Bool.not_eq_false'] at hsame
    obtain ⟨rfl,hcomplete⟩ := hsame
    refine ⟨hcomplete,before,receipt,mid,reread,[],?_,hdecode⟩
    rw [hlog,hmid]
  apply Logs.bind hrefuse
  intro v _ _ hread
  refine Logs.bind (Logs.forEach (fun _ _ _ _ _ (h : True) => h) ?_) ?_
  · intro number _ w _
    cases status.analysis.pullRequests[number]? with
    | none => exact Logs.crashed
    | some pull => exact verifyWithChecks_logs pull
  · intro w _ hle' _
    exact Logs.pure (hread.mono hle')

/-- A label is written by the rule, and its receipt is what the caravan wanted. -/
theorem writeLabel_logs (hwrite : LabelWrite status s (.ofSnapshot e.head) policy e) :
    Follows status (writeLabel status e output)
      (fun h _ => ∃ receipt,h = s ++ [(if e.shouldPark then
        .addLabel status.repository (.ofSnapshot e.head) parkedLabel
      else .removeLabel status.repository (.ofSnapshot e.head) parkedLabel,.receipt receipt)]) s := by
  apply ask_logs
  · cases hshould : e.shouldPark with
    | true => exact ⟨rfl,rfl,policy,e,hwrite,hshould⟩
    | false => exact ⟨rfl,rfl,policy,e,hwrite,hshould⟩
  · intro answer receipt hvalue
    exact ⟨receipt,by rw [receiptOf_eq hvalue]⟩

theorem Decides.red_iff {h : Calls} (hdecides : Decides status h policy e) :
    e.shouldPark = true ↔ TerminalRed status policy e.caravan := failures_iff hdecides.verdicts

/-- The label that a transition wanted is the one that its caravan is owed. -/
theorem Decides.turned {h turn : Calls} {receipt : GitHubMutationReceipt} (hdecides : Decides status h policy e)
    (hmem : (if e.shouldPark then .addLabel status.repository (.ofSnapshot e.head) parkedLabel
      else .removeLabel status.repository (.ofSnapshot e.head) parkedLabel,.receipt receipt) ∈ turn) :
    Turned status turn policy e.caravan := by
  constructor
  · intro hred head hhead
    rw [hdecides.head] at hhead
    cases hhead
    rw [if_pos (hdecides.red_iff.mpr hred)] at hmem
    exact .inr ⟨receipt,hmem⟩
  · intro hother head hhead _
    rw [hdecides.head] at hhead
    cases hhead
    have hshould : ¬e.shouldPark = true := fun h => hother (hdecides.red_iff.mp h)
    rw [if_neg hshould] at hmem
    exact .inl ⟨receipt,hmem⟩

theorem transit_logs {s₀ : Calls} (hbegan : s₀ <+: s) (hdecides : Decides status s policy e) :
    Follows status (transit status policy e output)
      (fun h _ => TurnedFrom status s₀ h policy e.caravan) s := by
  apply Logs.bind (tell_logs hdecides)
  intro t told hle htold
  apply Logs.bind (prove_logs htold)
  intro u _ hle' hread
  have hlate := (hdecides.mono hle).mono hle'
  apply Logs.bind (writeLabel_logs ⟨hlate,rfl,hread⟩)
  intro v _ _ hwritten
  obtain ⟨receipt,rfl⟩ := hwritten
  obtain ⟨turn,rfl⟩ := (hbegan.trans hle).trans hle'
  have hturned : Turned status (turn ++ [(_,.receipt receipt)]) policy e.caravan :=
    hlate.turned (List.mem_append_right _ (List.mem_singleton.mpr rfl))
  apply Logs.bind (disarmed_logs ⟨_,List.append_assoc _ _ _,hturned⟩)
  intro w done _ hturned
  exact Logs.pure hturned

/-- What the second reading, which is asked for only when it can matter, shows of a caravan. -/
def Recovers (status : StatusOutput) (s h : Calls) (c : Caravan) (head : PullRequestSnapshot)
    (verdicts : List MemberVerdict) : Option (List RequiredRunsAssessment) → Prop
  | some runs => head.hasLabel parkedLabel = true ∧ (failuresOf verdicts).isEmpty = true ∧
      (∀ verdict ∈ verdicts,Unpark.isGreen verdict.requiredRuns = true) ∧ ∃ answer contexts,
        (policyRead status,answer) ∈ h ∧ GreenRead status answer contexts ∧
        List.Forall₂ (Assessed status h contexts) c.members runs
  | none => head.hasLabel parkedLabel = false ∨ (failuresOf verdicts).isEmpty = false ∨
      (¬∀ verdict ∈ verdicts,Unpark.isGreen verdict.requiredRuns = true) ∨ ∃ answer rest,
        h = s ++ (policyRead status,answer)::rest ∧ ∀ contexts,GreenRead status answer contexts →
          ¬AllGreen status contexts c

theorem recoveryRuns_logs (c : Caravan) (head : PullRequestSnapshot) (verdicts : List MemberVerdict) :
    Follows status (recoveryRuns status c head verdicts)
      (fun h runs => Recovers status s h c head verdicts runs) s := by
  unfold recoveryRuns
  cases hparked : head.hasLabel parkedLabel with
  | false => exact Logs.pure (.inl hparked)
  | true =>
    cases hclear : (failuresOf verdicts).isEmpty with
    | false => exact Logs.pure (.inr (.inl hclear))
    | true =>
      cases hall : verdicts.all fun verdict => Unpark.isGreen verdict.requiredRuns with
      | false =>
        refine Logs.pure (.inr (.inr (.inl ?_)))
        intro hgreen
        rw [List.all_eq_true.mpr hgreen] at hall
        cases hall
      | true =>
        apply (parkingRequiredRunsGreen_logs c).mono
        intro h runs _ hruns
        obtain ⟨answer,rest,rfl,hruns⟩ := hruns
        cases runs with
        | some runs =>
          obtain ⟨contexts,hread,hassessed⟩ := hruns
          exact ⟨hparked,hclear,List.all_eq_true.mp hall,answer,contexts,
            List.mem_append_right _ List.mem_cons_self,hread,hassessed⟩
        | none => exact .inr (.inr (.inr ⟨answer,rest,rfl,hruns⟩))

/-- A transition is decided when the head is red and not parked, or parked and green again. -/
theorem decides_of_moved {h : Calls} (hfirst : FirstPolicy status h policy)
    (hlisted : e.caravan ∈ status.analysis.fleet.caravans)
    (hhead : status.analysis.pullRequests[e.caravan.id]? = some e.head)
    (hverdicts : List.Forall₂ (Judged status h policy) e.caravan.members e.verdicts)
    (hruns : Recovers status s h e.caravan e.head e.verdicts e.requiredRuns)
    (hheld : (e.head.hasLabel parkedLabel && e.requiredRuns.isNone) = false)
    (hidle : (!e.head.hasLabel parkedLabel && !e.shouldPark) = false) : Decides status h policy e := by
  refine ⟨hfirst,hlisted,hhead,hverdicts,?_,?_⟩
  · intro hunparked
    rw [hunparked] at hidle
    refine ⟨by simpa using hidle,?_⟩
    cases hsome : e.requiredRuns with
    | none => rfl
    | some runs =>
      rw [hsome] at hruns
      exact absurd (hunparked.symm.trans hruns.1) Bool.false_ne_true
  · intro hparked
    cases hsome : e.requiredRuns with
    | none => simp [hparked,hsome] at hheld
    | some runs =>
      rw [hsome] at hruns
      obtain ⟨_,hclear,hall,answer,contexts,hanswer,hread,hassessed⟩ := hruns
      refine ⟨?_,hall,answer,contexts,runs,rfl,hanswer,hread,hassessed⟩
      unfold ParkingEvidence.shouldPark ParkingEvidence.failures
      rw [hclear]
      rfl

/-- A parked caravan that is held is owed no label. -/
theorem turned_of_held {s₀ h : Calls} (hclocked : Clocked s₀ s) (hle : s <+: h)
    (hhead : status.analysis.pullRequests[e.caravan.id]? = some e.head)
    (hverdicts : List.Forall₂ (Judged status h policy) e.caravan.members e.verdicts)
    (hruns : Recovers status s h e.caravan e.head e.verdicts none)
    (hparked : e.head.hasLabel parkedLabel = true) : TurnedFrom status s₀ h policy e.caravan := by
  obtain ⟨clocks,rfl,hclocks⟩ := hclocked
  obtain ⟨rest,rfl⟩ := hle
  refine ⟨clocks ++ rest,List.append_assoc _ _ _,?_,?_⟩
  · intro _ found hfound
    rw [hhead] at hfound
    cases hfound
    exact .inl hparked
  · intro hother found hfound _
    rcases hruns with hunparked | hred | hgreen | ⟨answer,more,heq,hread⟩
    · exact absurd (hunparked.symm.trans hparked) Bool.false_ne_true
    · refine absurd ((failures_iff hverdicts).mp ?_) hother
      rw [hred]
      rfl
    · exact .inr (.inl fun hall => hgreen ((all_green_iff hverdicts).mpr hall))
    · rw [List.append_cancel_left heq]
      exact .inr (.inr ⟨answer,⟨clocks,more,⟨clocks,rfl,hclocks⟩,rfl⟩,hread⟩)

/-- A caravan that is neither red nor parked is owed no label. -/
theorem turned_of_idle {h turn : Calls}
    (hhead : status.analysis.pullRequests[e.caravan.id]? = some e.head)
    (hverdicts : List.Forall₂ (Judged status h policy) e.caravan.members e.verdicts)
    (hidle : (!e.head.hasLabel parkedLabel && !e.shouldPark) = true) :
    Turned status turn policy e.caravan := by
  simp only [Bool.and_eq_true,Bool.not_eq_true'] at hidle
  have hclear : ¬TerminalRed status policy e.caravan := by
    intro hred
    have hshould : e.shouldPark = true := (failures_iff hverdicts).mpr hred
    rw [hidle.2] at hshould
    cases hshould
  refine ⟨fun hred => absurd hred hclear,?_⟩
  intro _ found hfound hparked
  rw [hhead] at hfound
  cases hfound
  exact absurd (hidle.1.symm.trans hparked) Bool.false_ne_true

theorem reconcileCaravan_logs {c : Caravan} (hfirst : FirstPolicy status s policy)
    (hlisted : c ∈ status.analysis.fleet.caravans) :
    Follows status (reconcileCaravan status policy c output)
      (fun h _ => TurnedFrom status s h policy c) s := by
  apply Logs.bind (memberVerdicts_logs c.members)
  intro t verdicts hle hverdicts
  obtain ⟨hclocked,hverdicts⟩ := hverdicts
  cases hhead : status.analysis.pullRequests[c.id]? with
  | none => exact Logs.crashed
  | some head =>
    apply Logs.bind (recoveryRuns_logs c head verdicts)
    intro u green hle' hruns
    have hlate : List.Forall₂ (Judged status u policy) c.members verdicts :=
      hverdicts.imp fun _ _ hjudged => hjudged.mono hle'
    unfold act
    split
    case isTrue hheld =>
      simp only [Bool.and_eq_true,Option.isNone_iff_eq_none] at hheld
      obtain ⟨hparked,rfl⟩ := hheld
      exact disarmed_logs
        (turned_of_held (e := ⟨c,head,verdicts,none⟩) hclocked hle' hhead hlate hruns hparked)
    case isFalse hheld =>
      split
      case isTrue hidle =>
        obtain ⟨turn,rfl⟩ := hle.trans hle'
        exact Logs.pure ⟨turn,rfl,turned_of_idle (e := ⟨c,head,verdicts,green⟩) hhead hlate hidle⟩
      case isFalse hidle =>
        exact transit_logs (hle.trans hle') (decides_of_moved ((hfirst.mono hle).mono hle') hlisted hhead hlate hruns
          (Bool.eq_false_iff.mpr hheld) (Bool.eq_false_iff.mpr hidle))

/-- One turn for each caravan, one after another. -/
theorem reconcileCaravans_logs (caravans : List Caravan) (hfirst : FirstPolicy status s policy)
    (hlisted : ∀ c ∈ caravans,c ∈ status.analysis.fleet.caravans) :
    Follows status (reconcileCaravans status policy caravans output)
      (fun h _ => ∃ turns,h = s ++ turns.flatten ∧
        List.Forall₂ (fun turn c => Turned status turn policy c) turns caravans) s := by
  induction caravans generalizing s output with
  | nil => exact Logs.pure ⟨[],(List.append_nil s).symm,.nil⟩
  | cons c rest ih =>
    apply Logs.bind (reconcileCaravan_logs hfirst (hlisted c List.mem_cons_self))
    intro t done hle hturned
    apply (ih (hfirst.mono hle) fun c' hc' => hlisted c' (List.mem_cons_of_mem _ hc')).mono
    intro h _ _ hrest
    obtain ⟨turn,rfl,hturn⟩ := hturned
    obtain ⟨turns,rfl,hturns⟩ := hrest
    exact ⟨turn::turns,by simp,.cons hturn hturns⟩

/-- A run writes by the rule, and one that returns has turned to every caravan. -/
theorem reconcileTerminalRedParking_logs (config : Config.CaravanConfig) (hstart : s = []) :
    Follows status (reconcileTerminalRedParking status config)
      (fun h _ => config.sync.terminalRed = .park → ∃ policy first turns,FirstPolicy status h policy ∧
        h = first::turns.flatten ∧
        List.Forall₂ (fun turn c => Turned status turn policy c) turns status.analysis.fleet.caravans) s := by
  unfold reconcileTerminalRedParking
  split
  case isTrue =>
    have hread : Follows status (readPolicy status) (fun h read => ∃ answer,h = [(policyRead status,answer)] ∧
        FirstPolicy status h (landing status read)) s := by
      apply Logs.query record_calls trivial
      intro answer read hdecode
      rw [hstart]
      exact ⟨answer,rfl,answer,[],read,rfl,hdecode,rfl⟩
    apply Logs.bind hread
    intro t read hle hfirst
    obtain ⟨answer,rfl,hfirst⟩ := hfirst
    apply (reconcileCaravans_logs _ hfirst fun c hc => hc).mono
    intro h _ hle' hturned _
    obtain ⟨turns,rfl,hturns⟩ := hturned
    exact ⟨_,_,turns,hfirst.mono hle',rfl,hturns⟩
  case isFalse hblock => exact Logs.pure fun hpark => absurd hpark hblock

end Walk

section Exact

variable {status : StatusOutput} {config : Config.CaravanConfig} {policy : RequiredContextsRead}
  {e : ParkingEvidence} {h before after : Calls} {q : SyncRequest} {a : SyncAnswer}

/-- A decision not to park is one to unpark, on green members. -/
theorem Decides.recovered (hdecides : Decides status h policy e) (hshould : e.shouldPark = false) :
    AllGreen status policy e.caravan := by
  cases hparked : e.head.hasLabel parkedLabel with
  | false =>
    have hpark := (hdecides.parks hparked).1
    rw [hshould] at hpark
    cases hpark
  | true => exact (all_green_iff hdecides.verdicts).mp (hdecides.unparks hparked).2.1

/-- Every request of a run is by the rule, wherever the run stops. -/
theorem rule_of_stops (hstop : Prog.Stops Prog.record (reconcileTerminalRedParking status config).run [] h)
    (heq : h = before ++ (q,a)::after) : Rule status before q :=
  Prog.Logs.requests record_calls (reconcileTerminalRedParking_logs config rfl) rfl hstop heq

/-- Wherever a run stops and whatever is answered: the parked label was added only to the head of a caravan
that is terminally red, removed only from the head of one whose members are all green, no caravan is both,
and each write stands behind the receipt of its own audit comment and, behind that, a second reading of the
complete policy it was decided on. -/
theorem parkingWrites_justified (status : StatusOutput) (config : Config.CaravanConfig) (h : Calls)
    (hstop : Prog.Stops Prog.record (reconcileTerminalRedParking status config).run [] h) :
    (∀ before repository expected label answer after,
      h = before ++ (.addLabel repository expected label,answer)::after →
      repository = status.repository ∧ label = parkedLabel ∧ ∃ policy e,
        LabelWrite status before expected policy e ∧ e.shouldPark = true ∧
        TerminalRed status policy e.caravan ∧ ¬AllGreen status policy e.caravan) ∧
    ∀ before repository expected label answer after,
      h = before ++ (.removeLabel repository expected label,answer)::after →
      repository = status.repository ∧ label = parkedLabel ∧ ∃ policy e,
        LabelWrite status before expected policy e ∧ e.shouldPark = false ∧
        AllGreen status policy e.caravan ∧ ¬TerminalRed status policy e.caravan := by
  constructor
  · intro before repository expected label answer after heq
    obtain ⟨hrepository,hlabel,policy,e,hwrite,hshould⟩ := rule_of_stops hstop heq
    have hred := hwrite.decided.red_iff.mp hshould
    exact ⟨hrepository,hlabel,policy,e,hwrite,hshould,hred,not_allGreen_of_terminalRed hred⟩
  · intro before repository expected label answer after heq
    obtain ⟨hrepository,hlabel,policy,e,hwrite,hshould⟩ := rule_of_stops hstop heq
    have hgreen := hwrite.decided.recovered hshould
    exact ⟨hrepository,hlabel,policy,e,hwrite,hshould,hgreen,
      fun hred => not_allGreen_of_terminalRed hred hgreen⟩

/-- A run that returns is one reading of the policy and a turn for each caravan: in its own turn a terminally
red caravan gets the parked label if it has not got it, and a parked one that is not red loses it, unless
the first policy or the second reading of that turn does not show it green. -/
theorem parkingRun_turns (status : StatusOutput) (config : Config.CaravanConfig) (h : Calls)
    (out : ParkingReconciliation) (hpark : config.sync.terminalRed = .park)
    (hrun : Prog.Run Prog.record (reconcileTerminalRedParking status config).run [] (some (.ok out)) h) :
    ∃ policy first turns,FirstPolicy status h policy ∧ h = first::turns.flatten ∧
      List.Forall₂ (fun turn c => Turned status turn policy c) turns status.analysis.fleet.caravans :=
  ((reconcileTerminalRedParking_logs config rfl).run hrun).2 hpark

def parkPull (number : PrNumber) (labels : List String) (state : CheckState) : PullRequestSnapshot where
  number := number
  state := .open
  head := ⟨⟨"octo","repo"⟩,"topic-" ++ toString number,"head-" ++ toString number⟩
  base := ⟨⟨"octo","repo"⟩,"main","main-oid"⟩
  labels := labels.toFinset
  autoMerge := .disabled
  checks := [{ name := "ci",state := state }]

/-- A caravan whose required check failed, and a parked one whose check has succeeded. -/
def parkStatus : StatusOutput where
  repository := ⟨"octo","repo"⟩
  defaultBranch := "main"
  analysis := {
    fleet := {
      repository := ⟨"octo","repo"⟩
      defaultBranch := ⟨⟨"octo","repo"⟩,"main","main-oid"⟩
      caravans := [{ id := 1,members := [1] },{ id := 2,members := [2],parked := true }] }
    pullRequests := ((∅ : PullRequestMap).insert 1 (parkPull 1 [] .failure)).insert 2
      (parkPull 2 [parkedLabel] .success) }

def parkConfig : Config.CaravanConfig where
  sync := { terminalRed := .park }

/-- The second caravan is held on an incomplete second reading. -/
def parkAnswers : List SyncAnswer :=
  let read (complete : Bool) : SyncAnswer :=
    .contexts { branch := "main",isProtected := true,checks := [⟨"ci",none⟩],complete := complete }
  let red := parkPull 1 [] .failure
  let receipt := .receipt ⟨.addLabel,none,red,none⟩
  [read true,.clock 0,.pullRequest red,receipt,.pullRequest red,read true,.pullRequest red,receipt,.clock 0,
    read false]

def isAdded : SyncRequest × SyncAnswer → Bool
  | (.addLabel ..,_) => true
  | _ => false

def addedOne : Option (Except ParkingError ParkingReconciliation) × Calls → Bool
  | (some (.ok _),h) => decide (h.length = 10) && h.any isAdded
  | _ => false

theorem parkRun : ∃ h out,h.length = 10 ∧ (∃ x ∈ h,isAdded x = true) ∧
    Prog.Run Prog.record (reconcileTerminalRedParking parkStatus parkConfig).run [] (some (.ok out)) h := by
  have hreplay : ((reconcileTerminalRedParking parkStatus parkConfig).run.replay parkAnswers).any addedOne =
      true := by decide +kernel
  obtain ⟨⟨r,h⟩,hrun,hadded⟩ := (Option.any_eq_true _ _).mp hreplay
  rcases r with _ | e | out
  · cases hadded
  · cases hadded
  · obtain ⟨hlength,hany⟩ := Bool.and_eq_true_iff.mp hadded
    exact ⟨h,out,of_decide_eq_true hlength,List.any_eq_true.mp hany,Prog.run_of_replay hrun []⟩

theorem parkingWrites_justified_one : ∃ (before : Calls) (expected : PullRequestPrecondition) (answer : SyncAnswer)
    (after : Calls) (policy : RequiredContextsRead) (e : ParkingEvidence),
    Prog.Stops Prog.record (reconcileTerminalRedParking parkStatus parkConfig).run []
      (before ++ (.addLabel parkStatus.repository expected parkedLabel,answer)::after) ∧
    LabelWrite parkStatus before expected policy e ∧ TerminalRed parkStatus policy e.caravan := by
  obtain ⟨h,out,-,⟨⟨q,answer⟩,hmem,hadded⟩,hrun⟩ := parkRun
  obtain ⟨before,after,rfl⟩ := List.append_of_mem hmem
  cases q with
  | addLabel repository expected label =>
    obtain ⟨rfl,rfl,policy,e,hwrite,-,hred,-⟩ :=
      (parkingWrites_justified parkStatus parkConfig _ hrun.stops).1 _ _ _ _ _ _ rfl
    exact ⟨before,expected,answer,after,policy,e,hrun.stops,hwrite,hred⟩
  | _ => cases hadded

theorem parkingRun_turns_one : ∃ h policy first turns,h.length = 10 ∧ FirstPolicy parkStatus h policy ∧
    h = first::turns.flatten ∧
    List.Forall₂ (fun turn c => Turned parkStatus turn policy c) turns parkStatus.analysis.fleet.caravans := by
  obtain ⟨h,out,hlength,-,hrun⟩ := parkRun
  obtain ⟨policy,first,turns,hturns⟩ := parkingRun_turns parkStatus parkConfig h out rfl hrun
  exact ⟨h,policy,first,turns,hlength,hturns⟩

end Exact

end Parking
end Sync
end Cara
