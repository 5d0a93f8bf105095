import Cara.Github.StackMerge
import Cara.Github.StackLandCalls
import Cara.Lib.Conversation

/-! When a merge receipt's status says what happened. A landing is proved by reads alone;
the receipts of every merge call are compared with the reads of their own conversation. -/
namespace Cara
namespace Github

open Prog (Yields yields_bind_ok yields_attempt_bind yields_ofResult_bind yields_send_bind
  yields_mapError yields_pure forEach)

variable (w : Wire) (repository : RepositoryId)

/-- Open members of a Stack in order; an absent Stack has none. -/
def openPullRequests (stack : Option StackGeneration) : List PrNumber :=
  match stack with
  | none => []
  | some stack => (stack.topology.entries.filter fun entry =>
      decide (entry.pullRequestState = .open)).map StackEntryGeneration.pr

theorem remainingOrderExact_iff (stack : Option StackGeneration) (expected : List PrNumber) :
    remainingOrderExact stack expected = true ↔ openPullRequests stack = expected := by
  cases stack with
  | none =>
    rw [remainingOrderExact,List.isEmpty_iff,openPullRequests]
    exact eq_comm
  | some stack => simp [remainingOrderExact,openPullRequests]

/-- These reads prove the complete landing of a plan's selection on the default tip. -/
structure Landing (plan : StackAsyncMergePlan) (t : Conversation) (tip : CommitOid)
    (selected : List StackMergePullRequestObservation) (stack : Option StackGeneration) : Prop where
  /-- The tip, every member of the Stack, each pair of neighbouring squash commits and the
  Stack itself were read in turn, and every pair was answered `ahead`. -/
  reads : ∃ rows relations t₁ t₂ t₃ t₄, t = t₁ ++ (t₂ ++ (t₃ ++ t₄)) ∧
    Yields (json w.gitRef (.gitRef repository plan.before.topology.base.name)) t₁ (.ok tip) ∧
    Yields (forEach plan.before.topology.entries (observeMember w repository)) t₂ (.ok rows) ∧
    selected = (rows.take (selectedEnd plan)).drop (selectedStart plan) ∧
    Yields (compareMergeCommits w repository selected) t₃ (.ok relations) ∧
    (∀ relation ∈ relations, relation = .ahead) ∧
    Yields (nativeStackGeneration w repository plan.before.number) t₄ (.ok stack)
  merged : List.Forall₂ (fun entry row => row.isMerged = true ∧ row.head = entry.head ∧
    row.mergeCommit.isSome = true) plan.selected selected
  tip_eq : selected.getLast?.bind StackMergePullRequestObservation.mergeCommit = some tip
  suffix : openPullRequests stack =
    (plan.before.topology.entries.drop (selectedEnd plan)).map StackEntryGeneration.pr

section Valid

variable {repository} {plan : StackAsyncMergePlan}

theorem selected_of_valid (h : validateMergePlan repository plan = .ok ()) :
    plan.selected ≠ [] ∧ selectedEnd plan ≤ plan.before.topology.entries.length := by
  unfold validateMergePlan at h
  dsimp only at h
  split at h
  · cases h
  · split at h
    · cases h
    · split at h
      · cases h
      · split at h
        · cases h
        case isFalse hbounded =>
          split at h
          · cases h
          · split at h
            · cases h
            case isFalse hshort =>
              simp only [not_or,not_lt] at hbounded hshort
              exact ⟨hbounded.1,hshort.2.1⟩

theorem selected_length {rows : List StackMergePullRequestObservation}
    (h : validateMergePlan repository plan = .ok ())
    (hrows : rows.length = plan.before.topology.entries.length) :
    ((rows.take (selectedEnd plan)).drop (selectedStart plan)).length = plan.selected.length := by
  have hend := (selected_of_valid h).2
  have hsplit : selectedEnd plan = selectedStart plan + plan.selected.length := rfl
  rw [List.length_drop,List.length_take]
  omega

end Valid

theorem changedSelectedHeads_eq_nil {selected : List StackMergePullRequestObservation}
    {expected : List StackEntryGeneration} (hlength : selected.length = expected.length) :
    changedSelectedHeads selected expected = [] ↔
      List.Forall₂ (fun entry row => row.head = entry.head) expected selected := by
  induction selected generalizing expected with
  | nil =>
    cases expected with
    | nil => simp [changedSelectedHeads]
    | cons _ _ => cases hlength
  | cons row selected ih =>
    cases expected with
    | nil => cases hlength
    | cons entry expected =>
      have htail := ih (Nat.succ.inj hlength)
      rw [List.forall₂_cons,← htail]
      by_cases hhead : row.head = entry.head
      · simp [changedSelectedHeads,hhead]
      · simp [changedSelectedHeads,hhead]

theorem commitEvidence_ordered_iff (complete ordered : Bool) :
    commitEvidence complete ordered = .completeOrdered ↔ complete = true ∧ ordered = true := by
  cases complete <;> cases ordered <;> decide

/-- The selection is complete and unchanged exactly when every row is merged at its sealed
head with a squash commit. -/
theorem merged_rows_iff {selected : List StackMergePullRequestObservation}
    {expected : List StackEntryGeneration} (hlength : selected.length = expected.length) :
    selectedMergeCommitsComplete selected = true ∧ changedSelectedHeads selected expected = [] ↔
      List.Forall₂ (fun entry row => row.isMerged = true ∧ row.head = entry.head ∧
        row.mergeCommit.isSome = true) expected selected := by
  rw [changedSelectedHeads_eq_nil hlength]
  induction selected generalizing expected with
  | nil =>
    cases expected with
    | nil => simp [selectedMergeCommitsComplete]
    | cons _ _ => cases hlength
  | cons row selected ih =>
    cases expected with
    | nil => cases hlength
    | cons entry expected =>
      have htail := ih (Nat.succ.inj hlength)
      rw [List.forall₂_cons,List.forall₂_cons,← htail]
      simp only [selectedMergeCommitsComplete,List.all_cons,Bool.and_eq_true]
      tauto

theorem observeStackMerge_yields {plan : StackAsyncMergePlan} {t : Conversation}
    {o : StackMergeObservation}
    (h : Yields (observeStackMerge w repository plan) t (.ok o)) :
    ∃ rows ordered t₁ t₂ t₃ t₄, t = t₁ ++ (t₂ ++ (t₃ ++ t₄)) ∧
      Yields (json w.gitRef (.gitRef repository plan.before.topology.base.name)) t₁
        (.ok o.defaultBranch.oid) ∧
      Yields (forEach plan.before.topology.entries (observeMember w repository)) t₂ (.ok rows) ∧
      o.selected = (rows.take (selectedEnd plan)).drop (selectedStart plan) ∧
      Yields (mergeCommitsOrdered w repository o.defaultBranch.oid o.selected) t₃ (.ok ordered) ∧
      Yields (nativeStackGeneration w repository plan.before.number) t₄ (.ok o.stackAfter) ∧
      o.selectedMerged = o.selected.countP StackMergePullRequestObservation.isMerged ∧
      o.selectedCommitEvidence =
        commitEvidence (selectedMergeCommitsComplete o.selected) ordered ∧
      o.selectedHeadsExact = (changedSelectedHeads o.selected plan.selected).isEmpty ∧
      o.remainingOrderExact = remainingOrderExact o.stackAfter
        ((plan.before.topology.entries.drop (selectedEnd plan)).map StackEntryGeneration.pr) := by
  obtain ⟨tip,t₁,_,rfl,htip,h⟩ := (yields_bind_ok _ _ _).mp h
  obtain ⟨rows,t₂,_,rfl,hrows,h⟩ := (yields_bind_ok _ _ _).mp h
  split at h
  · exact absurd h (Prog.yields_crashed _)
  · obtain ⟨ordered,t₃,_,rfl,hordered,h⟩ := (yields_bind_ok _ _ _).mp h
    obtain ⟨stack,t₄,_,rfl,hstack,h⟩ := (yields_bind_ok _ _ _).mp h
    obtain ⟨rfl,ho⟩ := (yields_pure _ _).mp h
    cases ho
    rw [List.append_nil]
    exact ⟨rows,ordered,t₁,t₂,t₃,t₄,rfl,(yields_mapError _ _ _).mp htip,
      (yields_mapError _ _ _).mp hrows,rfl,(yields_mapError _ _ _).mp hordered,
      (yields_mapError _ _ _).mp hstack,rfl,rfl,rfl,rfl⟩

theorem classifyObservation_merged_iff (plan : StackAsyncMergePlan) (o : StackMergeObservation) :
    classifyObservation plan o = .merged ↔ o.selectedMerged = plan.selected.length ∧
      o.selectedCommitEvidence = .completeOrdered ∧ o.selectedHeadsExact = true ∧
      o.remainingOrderExact = true := by
  unfold classifyObservation
  split
  case isTrue h => exact ⟨fun _ => h,fun _ => rfl⟩
  case isFalse h =>
    constructor
    · intro hstatus
      split at hstatus <;> cases hstatus
    · exact fun hall => absurd hall h

theorem classifyObservation_cases (plan : StackAsyncMergePlan) (o : StackMergeObservation) :
    classifyObservation plan o = .merged ∨ classifyObservation plan o = .failed ∨
      classifyObservation plan o = .indeterminate := by
  unfold classifyObservation
  split
  · simp
  · split <;> simp

theorem classifyObservation_failed {plan : StackAsyncMergePlan} {o : StackMergeObservation}
    (h : classifyObservation plan o = .failed) : o.selectedMerged = 0 := by
  unfold classifyObservation at h
  split at h
  · cases h
  · split at h
    case isTrue hnone => exact hnone
    · cases h

theorem mergeCommitsOrdered_yields_true {tip : CommitOid}
    {selected : List StackMergePullRequestObservation} {t : Conversation} :
    Yields (mergeCommitsOrdered w repository tip selected) t (.ok true) ↔
      selectedMergeCommitsComplete selected = true ∧
      selected.getLast?.bind StackMergePullRequestObservation.mergeCommit = some tip ∧
      ∃ relations, Yields (compareMergeCommits w repository selected) t (.ok relations) ∧
        ∀ relation ∈ relations, relation = .ahead := by
  unfold mergeCommitsOrdered
  split
  case isTrue hcomplete =>
    rw [Bool.and_eq_true,decide_eq_true_eq] at hcomplete
    rw [yields_bind_ok]
    constructor
    · intro h
      obtain ⟨relations,t₁,_,rfl,hrelations,h⟩ := h
      obtain ⟨rfl,hall⟩ := (yields_pure _ _).mp h
      have hahead : relations.all (fun relation => decide (relation = .ahead)) = true :=
        (Except.ok.inj hall).symm
      rw [List.append_nil]
      exact ⟨hcomplete.1,hcomplete.2,relations,hrelations,by simpa using hahead⟩
    · intro h
      obtain ⟨-,-,relations,hrelations,hahead⟩ := h
      refine ⟨relations,t,[],by simp,hrelations,(yields_pure _ _).mpr ⟨rfl,?_⟩⟩
      have hall : relations.all (fun relation => decide (relation = .ahead)) = true := by
        simpa using hahead
      rw [hall]
  case isFalse hcomplete =>
    constructor
    · intro h
      cases ((yields_pure _ _).mp h).2
    · intro h
      rw [Bool.and_eq_true,decide_eq_true_eq] at hcomplete
      exact absurd ⟨h.1,h.2.1⟩ hcomplete

/-- An observation that classifies as merged proves the landing by its own reads. -/
theorem landing_of_observed {plan : StackAsyncMergePlan} {t : Conversation}
    {o : StackMergeObservation} (hplan : validateMergePlan repository plan = .ok ())
    (h : Yields (observeStackMerge w repository plan) t (.ok o))
    (hmerged : classifyObservation plan o = .merged) :
    Landing w repository plan t o.defaultBranch.oid o.selected o.stackAfter := by
  obtain ⟨rows,ordered,t₁,t₂,t₃,t₄,ht,htip,hrows,hselected,hordered,hstack,-,hevidence,hheads,
    hremaining⟩ := observeStackMerge_yields w repository h
  obtain ⟨-,hcomplete,hexact,hsuffix⟩ := (classifyObservation_merged_iff plan o).mp hmerged
  have hlength : o.selected.length = plan.selected.length := by
    rw [hselected]
    exact selected_length hplan hrows.forEach_length
  rw [hevidence,commitEvidence_ordered_iff] at hcomplete
  rw [hheads,List.isEmpty_iff] at hexact
  rw [hremaining,remainingOrderExact_iff] at hsuffix
  rw [hcomplete.2,mergeCommitsOrdered_yields_true] at hordered
  obtain ⟨-,hlast,relations,hrelations,hahead⟩ := hordered
  exact {
    reads := ⟨rows,relations,t₁,t₂,t₃,t₄,ht,htip,hrows,hselected,hrelations,hahead,hstack⟩
    merged := (merged_rows_iff hlength).mp ⟨hcomplete.1,hexact⟩
    tip_eq := hlast
    suffix := hsuffix }

/-- Reads that prove the landing are observed and classified as merged. -/
theorem observed_of_landing {plan : StackAsyncMergePlan} {t : Conversation} {tip : CommitOid}
    {selected : List StackMergePullRequestObservation} {stack : Option StackGeneration}
    (hplan : validateMergePlan repository plan = .ok ())
    (h : Landing w repository plan t tip selected stack) :
    ∃ o, Yields (observeStackMerge w repository plan) t (.ok o) ∧
      classifyObservation plan o = .merged ∧ o.defaultBranch.oid = tip := by
  obtain ⟨rows,relations,t₁,t₂,t₃,t₄,ht,htip,hrows,hselected,hrelations,hahead,hstack⟩ := h.reads
  have hlength : selected.length = plan.selected.length := by
    rw [hselected]
    exact selected_length hplan hrows.forEach_length
  obtain ⟨hcomplete,hheads⟩ := (merged_rows_iff hlength).mpr h.merged
  have hordered : Yields (mergeCommitsOrdered w repository tip selected) t₃ (.ok true) :=
    (mergeCommitsOrdered_yields_true w repository).mpr
      ⟨hcomplete,h.tip_eq,relations,hrelations,hahead⟩
  have hbounded : ¬ rows.length < selectedEnd plan := by
    rw [hrows.forEach_length]
    exact not_lt.mpr (selected_of_valid hplan).2
  have hcount : selected.countP StackMergePullRequestObservation.isMerged = plan.selected.length := by
    rw [← hlength,List.countP_eq_length]
    intro row hrow
    have hall := List.all_eq_true.mp hcomplete row hrow
    exact (Bool.and_eq_true_iff.mp hall).1
  refine ⟨{
    defaultBranch := ⟨repository,plan.before.topology.base.name,tip⟩
    selected := selected
    remaining := rows.drop (selectedEnd plan)
    stackAfter := stack
    selectedMerged := selected.countP StackMergePullRequestObservation.isMerged
    selectedCommitEvidence := commitEvidence (selectedMergeCommitsComplete selected) true
    selectedHeadsExact := (changedSelectedHeads selected plan.selected).isEmpty
    changedSelectedHeads := changedSelectedHeads selected plan.selected
    remainingOrderExact := remainingOrderExact stack
      ((plan.before.topology.entries.drop (selectedEnd plan)).map StackEntryGeneration.pr) },
    ?_,?_,rfl⟩
  · rw [ht]
    apply (yields_bind_ok _ _ _).mpr
    refine ⟨tip,t₁,_,rfl,(yields_mapError _ _ _).mpr htip,?_⟩
    apply (yields_bind_ok _ _ _).mpr
    refine ⟨rows,t₂,_,rfl,(yields_mapError _ _ _).mpr hrows,?_⟩
    rw [if_neg hbounded,← hselected]
    apply (yields_bind_ok _ _ _).mpr
    refine ⟨true,t₃,_,rfl,(yields_mapError _ _ _).mpr hordered,?_⟩
    apply (yields_bind_ok _ _ _).mpr
    refine ⟨stack,t₄,[],by simp,(yields_mapError _ _ _).mpr hstack,?_⟩
    exact (yields_pure _ _).mpr ⟨rfl,rfl⟩
  · rw [classifyObservation_merged_iff]
    refine ⟨hcount,?_,?_,?_⟩
    · rw [commitEvidence_ordered_iff]
      exact ⟨hcomplete,rfl⟩
    · rw [List.isEmpty_iff]
      exact hheads
    · rw [remainingOrderExact_iff]
      exact h.suffix

def SaysFailed (word : Option String) : Prop :=
  ∃ status, word = some status ∧ Text.eqIgnoreAsciiCase status "failed" = true

theorem normalizedProviderStatus_failed {word : Option String} (h : SaysFailed word) :
    normalizedProviderStatus word = some .failed := by
  obtain ⟨status,rfl,hfailed⟩ := h
  have hother (other : String)
      (hdistinct : other.toList.map Char.toLower ≠ "failed".toList.map Char.toLower) :
      ¬ Text.eqIgnoreAsciiCase status other = true := by
    intro heq
    rw [Text.eqIgnoreAsciiCase,decide_eq_true_eq] at heq hfailed
    exact hdistinct (heq.symm.trans hfailed)
  unfold normalizedProviderStatus
  dsimp only
  rw [if_neg (hother "pending" (by decide)),if_neg (hother "enqueued" (by decide)),
    if_neg (hother "merged" (by decide)),if_pos hfailed]

/-- How a receipt follows from the provider's word, its SHA and the reads after them. -/
inductive Judged (plan : StackAsyncMergePlan) (word : Option String) (sha : Option CommitOid)
    (t : Conversation) (receipt : StackMergeReceipt) : Prop
  /-- Still under way: nothing was observed. -/
  | live : receipt.status ∉ ([.merged,.failed] : List StackMergeStatus) → ¬ SaysFailed word →
      Judged plan word sha t receipt
  /-- The observation failed. -/
  | unread (e : StackMergeError) : Yields (observeStackMerge w repository plan) t (.error e) →
      receipt.status = .indeterminate → Judged plan word sha t receipt
  /-- Observation and word together. -/
  | terminal (o : StackMergeObservation) : Yields (observeStackMerge w repository plan) t (.ok o) →
      receipt.observation = some o → receipt.providerStatus = word →
      receipt.status = terminalStatusOf plan o word sha → Judged plan word sha t receipt
  /-- Observation alone, after an answer that identifies nothing. -/
  | rediscovered (o : StackMergeObservation) :
      Yields (observeStackMerge w repository plan) t (.ok o) → receipt.observation = some o →
      ¬ SaysFailed word →
      receipt.status = (if classifyObservation plan o = .merged then .merged else .indeterminate) →
      Judged plan word sha t receipt

theorem terminalStackMergeReceipt_judged {input : StackMergeReceiptInput} {t : Conversation}
    {receipt : StackMergeReceipt}
    (h : Yields (terminalStackMergeReceipt w input) t (.ok receipt)) :
    Judged w input.repository input.plan input.providerStatus input.providerSha t receipt := by
  obtain ⟨observed,t₁,_,rfl,hobserved,h⟩ := (yields_attempt_bind _ _ _).mp h
  cases observed with
  | error e =>
    obtain ⟨rfl,hreceipt⟩ := (yields_pure _ _).mp h
    cases hreceipt
    rw [List.append_nil]
    exact .unread e hobserved rfl
  | ok o =>
    obtain ⟨rfl,hreceipt⟩ := (yields_pure _ _).mp h
    cases hreceipt
    rw [List.append_nil]
    exact .terminal o hobserved rfl rfl rfl

theorem rediscoveredReceipt_judged {input : StackMergeReceiptInput} {t : Conversation}
    {receipt : StackMergeReceipt} (hword : ¬ SaysFailed input.providerStatus)
    (h : Yields (rediscoveredReceipt w input) t (.ok receipt)) :
    Judged w input.repository input.plan input.providerStatus input.providerSha t receipt := by
  obtain ⟨observed,t₁,_,rfl,hobserved,h⟩ := (yields_attempt_bind _ _ _).mp h
  cases observed with
  | error e =>
    obtain ⟨rfl,hreceipt⟩ := (yields_pure _ _).mp h
    cases hreceipt
    rw [List.append_nil]
    exact .unread e hobserved rfl
  | ok o =>
    obtain ⟨rfl,hreceipt⟩ := (yields_pure _ _).mp h
    cases hreceipt
    rw [List.append_nil]
    exact .rediscovered o hobserved rfl hword rfl

structure Answered (plan : StackAsyncMergePlan) (past : Conversation) (command : Command)
    (response : Response) (t : Conversation) (receipt : StackMergeReceipt) : Prop where
  past_reads : ∀ e ∈ past, e.1.isRead = true
  reads : ∀ e ∈ t, e.1.isRead = true
  judged : Judged w repository plan (parsedResponse w response).status
    (parsedResponse w response).sha t receipt

theorem terminalStackMergeReceipt_readOnly (input : StackMergeReceiptInput) :
    ReadOnly (terminalStackMergeReceipt w input) := by
  apply Prog.Only.bind (Prog.Only.attempt (observeStackMerge_readOnly w _ _))
  intro observed
  split <;> exact Prog.Only.pure _

theorem rediscoveredReceipt_readOnly (input : StackMergeReceiptInput) :
    ReadOnly (rediscoveredReceipt w input) := by
  apply Prog.Only.bind (Prog.Only.attempt (observeStackMerge_readOnly w _ _))
  intro observed
  split <;> exact Prog.Only.pure _

section Answered

variable {repository} {plan : StackAsyncMergePlan} {past t : Conversation} {command : Command}
  {response : Response} {receipt : StackMergeReceipt}

theorem answered_terminal {input : StackMergeReceiptInput}
    (hpast : ∀ e ∈ past, e.1.isRead = true)
    (h : Yields (terminalStackMergeReceipt w input) t (.ok receipt))
    (hrepository : input.repository = repository) (hplan : input.plan = plan)
    (hword : input.providerStatus = (parsedResponse w response).status)
    (hsha : input.providerSha = (parsedResponse w response).sha) :
    Answered w repository plan past command response t receipt := by
  refine ⟨hpast,(terminalStackMergeReceipt_readOnly w input).requests h,?_⟩
  rw [← hrepository,← hplan,← hword,← hsha]
  exact terminalStackMergeReceipt_judged w h

theorem answered_rediscovered {input : StackMergeReceiptInput}
    (hpast : ∀ e ∈ past, e.1.isRead = true)
    (h : Yields (rediscoveredReceipt w input) t (.ok receipt))
    (hrepository : input.repository = repository) (hplan : input.plan = plan)
    (hword : input.providerStatus = (parsedResponse w response).status)
    (hsha : input.providerSha = (parsedResponse w response).sha)
    (hfailed : normalizedProviderStatus (parsedResponse w response).status ≠ some .failed) :
    Answered w repository plan past command response t receipt := by
  refine ⟨hpast,(rediscoveredReceipt_readOnly w input).requests h,?_⟩
  rw [← hword] at hfailed
  rw [← hrepository,← hplan,← hword,← hsha]
  exact rediscoveredReceipt_judged w (fun hsays => hfailed (normalizedProviderStatus_failed hsays)) h

theorem answered_live {r : StackMergeReceipt} (hpast : ∀ e ∈ past, e.1.isRead = true)
    (h : Yields (pure r : Io StackMergeError StackMergeReceipt) t (.ok receipt))
    (status : StackMergeStatus) (hr : r.status = status)
    (hstatus : status ∉ ([.merged,.failed] : List StackMergeStatus))
    (hfailed : normalizedProviderStatus (parsedResponse w response).status ≠ some .failed) :
    Answered w repository plan past command response t receipt := by
  obtain ⟨ht,hreceipt⟩ := (yields_pure _ _).mp h
  cases hreceipt
  refine ⟨hpast,?_,?_⟩
  · rw [ht]
    simp
  · exact .live (hr ▸ hstatus) fun hsays => hfailed (normalizedProviderStatus_failed hsays)

end Answered

theorem nativeStackMergePollUnlocked_answered {checkpoint : StackMergeCheckpoint}
    {t : Conversation} {receipt : StackMergeReceipt}
    (h : Yields (nativeStackMergePollUnlocked w repository checkpoint) t (.ok receipt)) :
    ∃ pr uuid response t', t = (.nativeStackMergePoll repository pr uuid,response)::t' ∧
      Answered w repository checkpoint.plan [] (.nativeStackMergePoll repository pr uuid) response
        t' receipt := by
  obtain ⟨_,-,hsend⟩ := (yields_ofResult_bind _ _ _).mp h
  obtain ⟨response,t',ht,hbody⟩ := (yields_send_bind _ _ _).mp hsend
  refine ⟨_,_,response,t',ht,?_⟩
  have hpast : ∀ e ∈ ([] : Conversation), e.1.isRead = true := by simp
  dsimp only at hbody
  split at hbody
  · exact answered_terminal w hpast hbody rfl rfl rfl rfl
  · split at hbody
    case h_1 hword => exact answered_live w hpast hbody .pending rfl (by decide) (by simp [hword])
    case h_2 hword => exact answered_live w hpast hbody .enqueued rfl (by decide) (by simp [hword])
    · exact answered_terminal w hpast hbody rfl rfl rfl rfl
    · exact answered_terminal w hpast hbody rfl rfl rfl rfl
    · exact answered_terminal w hpast hbody rfl rfl rfl rfl
    case h_6 other hpending henqueued hmerged hfailed hword =>
      exact answered_live w hpast hbody other rfl (by simp_all) (by simp_all)

theorem nativeStackMergeSubmitUnlocked_answered {plan : StackAsyncMergePlan}
    {t : Conversation} {receipt : StackMergeReceipt}
    (h : Yields (nativeStackMergeSubmitUnlocked w repository plan) t (.ok receipt)) :
    ∃ past pr sha response t', t = past ++ (.nativeStackMergeSubmit repository pr sha
        mergeMethodValue mergeActionValue,response)::t' ∧
      Answered w repository plan past (.nativeStackMergeSubmit repository pr sha
        mergeMethodValue mergeActionValue) response t' receipt := by
  obtain ⟨_,-,hread⟩ := (yields_ofResult_bind _ _ _).mp h
  obtain ⟨actual,past,_,ht,hactual,hbody⟩ := (yields_bind_ok _ _ _).mp hread
  have hpast : ∀ e ∈ past, e.1.isRead = true :=
    (nativeStackGeneration_readOnly w repository _).requests ((yields_mapError _ _ _).mp hactual)
  split at hbody
  · cases ((Prog.yields_throw _ _).mp hbody).2
  · split at hbody
    · exact absurd hbody (Prog.yields_crashed _)
    · obtain ⟨response,t',hsplit,hanswer⟩ := (yields_send_bind _ _ _).mp hbody
      refine ⟨past,_,_,response,t',by rw [ht,hsplit],?_⟩
      dsimp only at hanswer
      split at hanswer
      · exact answered_terminal w hpast hanswer rfl rfl rfl rfl
      · exact answered_terminal w hpast hanswer rfl rfl rfl rfl
      case h_3 hword =>
        split at hanswer
        · exact answered_live w hpast hanswer .enqueued rfl (by decide) (by simp [hword])
        · exact answered_rediscovered w hpast hanswer rfl rfl rfl rfl (by simp [hword])
      case h_4 hword =>
        split at hanswer
        · exact answered_live w hpast hanswer .submitted rfl (by decide) (by simp [hword])
        · exact answered_rediscovered w hpast hanswer rfl rfl rfl rfl (by simp [hword])
      case h_5 hfailed _ _ _ =>
        exact answered_rediscovered w hpast hanswer rfl rfl rfl rfl (by simp_all)

inductive MergeCall where
  | submit (plan : StackAsyncMergePlan)
  | submitLocked (plan : StackAsyncMergePlan) (lock : StackBranchLockGeneration)
  | poll (checkpoint : StackMergeCheckpoint)
  | pollLocked (checkpoint : StackLockedMergeCheckpoint)
  | reobserveReleased (checkpoint : StackLockedMergeCheckpoint)
  | reobserveUnidentified (plan : StackAsyncMergePlan) (lock : StackBranchLockGeneration)

namespace MergeCall

def plan : MergeCall → StackAsyncMergePlan
  | submit plan | submitLocked plan _ | reobserveUnidentified plan _ => plan
  | poll checkpoint => checkpoint.plan
  | pollLocked checkpoint | reobserveReleased checkpoint => checkpoint.merge.plan

def prog : MergeCall → Io StackMergeError StackMergeReceipt
  | submit plan => nativeStackMergeSubmitUnlocked w repository plan
  | submitLocked plan lock => do
      return (← nativeStackMergeSubmitLocked w repository plan lock).merge
  | poll checkpoint => nativeStackMergePollUnlocked w repository checkpoint
  | pollLocked checkpoint => do
      return (← nativeStackMergePollLocked w repository checkpoint).merge
  | reobserveReleased checkpoint => do
      return (← nativeStackMergeReobserveReleased w repository checkpoint).merge
  | reobserveUnidentified plan lock => do
      return (← nativeStackMergeReobserveUnidentified w repository plan lock).merge

def submissions : MergeCall → ℕ
  | submit _ | submitLocked _ _ => 1
  | _ => 0

/-- The lock whose loss makes a call's outcome indeterminate. -/
def fence : MergeCall → Option StackBranchLockGeneration
  | pollLocked checkpoint => some checkpoint.branchLock
  | _ => none

end MergeCall

def isSubmission (e : Command × Response) : Bool :=
  match e.1 with
  | .nativeStackMergeSubmit .. => true
  | _ => false

structure OutcomeSound (call : MergeCall) (h : Conversation) (receipt : StackMergeReceipt) :
    Prop where
  merged : receipt.status = .merged → ∃ o t, receipt.observation = some o ∧ t <:+ h ∧
    Landing w repository call.plan t o.defaultBranch.oid o.selected o.stackAfter
  failed : receipt.status = .failed → SaysFailed receipt.providerStatus ∧
    ∃ o t, receipt.observation = some o ∧ t <:+ h ∧
      Yields (observeStackMerge w repository call.plan) t (.ok o) ∧
      ∀ row ∈ o.selected, row.isMerged = false
  /-- No status, live or indeterminate, made the call submit again. -/
  once : h.countP isSubmission = call.submissions

/-- The provider answers `failed` with a SHA that is not the default tip, while the reads
after this answer prove the complete landing. -/
def FailedOverLanding (call : MergeCall) (h : Conversation) : Prop :=
  ∃ past command response t sha tip selected stack, h = past ++ (command,response)::t ∧
    command.isRead = false ∧
    (∀ lock ∈ call.fence, Yields (nativeStackBranchLockVerify w repository lock) past (.ok lock)) ∧
    SaysFailed (parsedResponse w response).status ∧ (parsedResponse w response).sha = some sha ∧
    Landing w repository call.plan t tip selected stack ∧ sha ≠ tip

section Judged

variable {repository} {plan : StackAsyncMergePlan} {word : Option String} {sha : Option CommitOid}
  {t : Conversation} {receipt : StackMergeReceipt}

theorem terminalStatusOf_merged {o : StackMergeObservation}
    (h : terminalStatusOf plan o word sha = .merged) : classifyObservation plan o = .merged := by
  unfold terminalStatusOf at h
  dsimp only at h
  split at h
  case isTrue hmerged => exact hmerged.1
  · split at h
    · cases h
    · split at h <;> cases h

/-- A rejection over anything but an untouched selection needs a contradicting SHA. -/
theorem terminalStatusOf_failed_iff (o : StackMergeObservation) :
    terminalStatusOf plan o word sha = .failed ↔ SaysFailed word ∧
      (classifyObservation plan o = .failed ∨
        classifyObservation plan o = .merged ∧ ∃ s, sha = some s ∧ s ≠ o.defaultBranch.oid) := by
  have hword : (word.any fun status => Text.eqIgnoreAsciiCase status "failed") = true ↔
      SaysFailed word := by
    rw [Option.any_eq_true]
    rfl
  have hsha : (¬ ∀ s ∈ sha, o.defaultBranch.oid = s) ↔ ∃ s, sha = some s ∧ s ≠ o.defaultBranch.oid := by
    simp only [not_forall,Option.mem_def,exists_prop]
    exact exists_congr fun s => and_congr_right fun _ => ne_comm
  unfold terminalStatusOf
  dsimp only
  split
  case isTrue hmerged =>
    constructor
    · intro h
      cases h
    · intro h
      obtain ⟨-,h | ⟨-,s,hs,hne⟩⟩ := h
      · rw [hmerged.1] at h
        cases h
      · exact absurd (hmerged.2 s hs).symm hne
  case isFalse hmerged =>
    split
    case isTrue hmixed =>
      rw [hmixed]
      simp
    case isFalse hmixed =>
      have hclass : classifyObservation plan o = .failed ∨
          classifyObservation plan o = .merged ∧ ∃ s, sha = some s ∧ s ≠ o.defaultBranch.oid := by
        rw [← hsha]
        obtain h | h | h := classifyObservation_cases plan o
        · exact .inr ⟨h,fun hexact => hmerged ⟨h,hexact⟩⟩
        · exact .inl h
        · exact absurd h hmixed
      split
      case isTrue hfailed => exact ⟨fun _ => ⟨hword.mp hfailed,hclass⟩,fun _ => rfl⟩
      case isFalse hfailed =>
        constructor
        · intro h
          cases h
        · exact fun h => absurd (hword.mpr h.1) hfailed

theorem Judged.merged (hplan : validateMergePlan repository plan = .ok ())
    (h : Judged w repository plan word sha t receipt) (hstatus : receipt.status = .merged) :
    ∃ o, receipt.observation = some o ∧
      Landing w repository plan t o.defaultBranch.oid o.selected o.stackAfter := by
  cases h with
  | live hlive _ => simp [hstatus] at hlive
  | unread e _ hunread =>
    rw [hstatus] at hunread
    cases hunread
  | terminal o ho hobservation _ hterminal =>
    rw [hstatus] at hterminal
    exact ⟨o,hobservation,landing_of_observed w repository hplan ho
      (terminalStatusOf_merged hterminal.symm)⟩
  | rediscovered o ho hobservation _ hrediscovered =>
    rw [hstatus] at hrediscovered
    split at hrediscovered
    case isTrue hmerged =>
      exact ⟨o,hobservation,landing_of_observed w repository hplan ho hmerged⟩
    · cases hrediscovered

/-- A failed receipt has the provider's word and an observation, which shows either nothing
merged or a landing that contradicts the provider's SHA. -/
theorem Judged.failed (hplan : validateMergePlan repository plan = .ok ())
    (h : Judged w repository plan word sha t receipt) (hstatus : receipt.status = .failed) :
    SaysFailed word ∧ receipt.providerStatus = word ∧ ∃ o, receipt.observation = some o ∧
      Yields (observeStackMerge w repository plan) t (.ok o) ∧
      ((∀ row ∈ o.selected, row.isMerged = false) ∨
        Landing w repository plan t o.defaultBranch.oid o.selected o.stackAfter ∧
          ∃ s, sha = some s ∧ s ≠ o.defaultBranch.oid) := by
  cases h with
  | live hlive _ => simp [hstatus] at hlive
  | unread e _ hunread =>
    rw [hstatus] at hunread
    cases hunread
  | terminal o ho hobservation hprovider hterminal =>
    rw [hstatus] at hterminal
    obtain ⟨hword,hclass⟩ := (terminalStatusOf_failed_iff o).mp hterminal.symm
    refine ⟨hword,hprovider,o,hobservation,ho,?_⟩
    obtain hfailed | ⟨hmerged,hsha⟩ := hclass
    · obtain ⟨_,_,_,_,_,_,_,_,_,_,_,_,hcount,-⟩ := observeStackMerge_yields w repository ho
      have hnone : o.selected.countP StackMergePullRequestObservation.isMerged = 0 := by
        rw [← hcount]
        exact classifyObservation_failed hfailed
      left
      intro row hrow
      exact Bool.eq_false_iff.mpr (List.countP_eq_zero.mp hnone row hrow)
    · exact .inr ⟨landing_of_observed w repository hplan ho hmerged,hsha⟩
  | rediscovered o _ _ _ hrediscovered =>
    rw [hstatus] at hrediscovered
    split at hrediscovered <;> cases hrediscovered

/-- The word `failed` prevails over a proved landing when its SHA is not the default tip. -/
theorem Judged.failed_of_landing (hplan : validateMergePlan repository plan = .ok ())
    (h : Judged w repository plan word sha t receipt) (hword : SaysFailed word) {s tip : CommitOid}
    (hsha : sha = some s) {selected : List StackMergePullRequestObservation}
    {stack : Option StackGeneration} (hlanding : Landing w repository plan t tip selected stack)
    (hne : s ≠ tip) :
    receipt.status = .failed ∧ ∀ o, receipt.observation = some o →
      ∃ row ∈ o.selected, row.isMerged = true := by
  obtain ⟨observed,hobserved,hmerged,htip⟩ := observed_of_landing w repository hplan hlanding
  cases h with
  | live _ hsays => exact absurd hword hsays
  | unread e he _ => cases he.result_unique hobserved
  | rediscovered o _ _ hsays _ => exact absurd hword hsays
  | terminal o ho hobservation _ hterminal =>
    cases ho.result_unique hobserved
    constructor
    · rw [hterminal,terminalStatusOf_failed_iff,htip]
      exact ⟨hword,.inr ⟨hmerged,s,hsha,hne⟩⟩
    · intro o' ho'
      rw [hobservation] at ho'
      cases ho'
      have hrows := (landing_of_observed w repository hplan hobserved hmerged).merged
      cases hselected : plan.selected with
      | nil => exact absurd hselected (selected_of_valid hplan).1
      | cons entry rest =>
        rw [hselected] at hrows
        cases hfirst : observed.selected with
        | nil =>
          rw [hfirst] at hrows
          cases hrows
        | cons row rows =>
          rw [hfirst,List.forall₂_cons] at hrows
          exact ⟨row,by simp,hrows.1.1⟩

end Judged

inductive Settled (call : MergeCall) (h : Conversation) (receipt : StackMergeReceipt) : Prop
  | answered (past : Conversation) (command : Command) (response : Response) (t : Conversation) :
      h = past ++ (command,response)::t → command.isRead = false →
      [(command,response)].countP isSubmission = call.submissions →
      (∀ lock ∈ call.fence, Yields (nativeStackBranchLockVerify w repository lock) past (.ok lock)) →
      Answered w repository call.plan past command response t receipt → Settled call h receipt
  | lockLost (past : Conversation) (command : Command) (response : Response) (t : Conversation)
      {lock : StackBranchLockGeneration} {e : StackBranchLockError} {judged : StackMergeReceipt} :
      h = past ++ (command,response)::t → command.isRead = false →
      [(command,response)].countP isSubmission = call.submissions → lock ∈ call.fence →
      Yields (nativeStackBranchLockVerify w repository lock) past (.error e) →
      Answered w repository call.plan past command response t judged →
      receipt.status = .indeterminate → Settled call h receipt
  | unasked : (∀ e ∈ h, e.1.isRead = true) → call.submissions = 0 →
      Judged w repository call.plan none none h receipt → Settled call h receipt

theorem nativeStackBranchLockVerify_readOnly (lock : StackBranchLockGeneration) :
    ReadOnly (nativeStackBranchLockVerify w repository lock) := by
  apply Prog.Only.bind (readStackBranchLock_readOnly w repository _)
  intro actual
  dsimp only
  split
  · exact Prog.Only.pure _
  · exact Prog.Only.throw _

theorem yields_return {ε α β : Type} {p : Io ε α} {f : α → β} {t : Conversation} {b : β}
    (h : Yields (p >>= fun a => pure (f a)) t (.ok b)) : ∃ a, Yields p t (.ok a) ∧ b = f a := by
  obtain ⟨a,t₁,t₂,ht,hp,hpure⟩ := (yields_bind_ok _ _ _).mp h
  obtain ⟨ht₂,hb⟩ := (yields_pure _ _).mp hpure
  rw [ht₂,List.append_nil] at ht
  rw [ht]
  exact ⟨a,hp,Except.ok.inj hb⟩

theorem nativeStackBranchLockVerify_yields {expected lock : StackBranchLockGeneration}
    {t : Conversation}
    (h : Yields (nativeStackBranchLockVerify w repository expected) t (.ok lock)) :
    lock = expected := by
  obtain ⟨actual,_,_,_,_,hbody⟩ := (yields_bind_ok _ _ _).mp h
  dsimp only at hbody
  split at hbody
  · exact Except.ok.inj ((yields_pure _ _).mp hbody).2
  · cases ((Prog.yields_throw _ _).mp hbody).2

theorem mergeCall_settled (call : MergeCall) {h : Conversation} {receipt : StackMergeReceipt}
    (hcall : Yields (call.prog w repository) h (.ok receipt)) :
    Settled w repository call h receipt := by
  cases call with
  | submit plan =>
    obtain ⟨past,pr,sha,response,t,ht,hanswered⟩ :=
      nativeStackMergeSubmitUnlocked_answered w repository hcall
    exact .answered past _ response t ht rfl rfl (by simp [MergeCall.fence]) hanswered
  | submitLocked plan lock =>
    obtain ⟨locked,hlocked,hreceipt⟩ := yields_return hcall
    obtain ⟨_,-,hverify⟩ := (yields_ofResult_bind _ _ _).mp hlocked
    obtain ⟨_,t₁,_,ht,hlock,hsubmit⟩ := (yields_bind_ok _ _ _).mp hverify
    obtain ⟨merge,hmerge,hmade⟩ := yields_return hsubmit
    obtain ⟨past,pr,sha,response,t,hsplit,hanswered⟩ :=
      nativeStackMergeSubmitUnlocked_answered w repository hmerge
    have hfirst : ∀ e ∈ t₁, e.1.isRead = true :=
      (nativeStackBranchLockVerify_readOnly w repository lock).requests
        ((yields_mapError _ _ _).mp hlock)
    have hsame : receipt = merge := by
      rw [hreceipt,hmade]
      rfl
    rw [hsame]
    refine .answered (t₁ ++ past) (.nativeStackMergeSubmit repository pr sha mergeMethodValue
      mergeActionValue) response t ?_ rfl rfl (by simp [MergeCall.fence])
      ⟨?_,hanswered.reads,hanswered.judged⟩
    · rw [ht,hsplit,List.append_assoc]
    · intro e he
      obtain he | he := List.mem_append.mp he
      · exact hfirst e he
      · exact hanswered.past_reads e he
  | poll checkpoint =>
    obtain ⟨pr,uuid,response,t,ht,hanswered⟩ :=
      nativeStackMergePollUnlocked_answered w repository hcall
    exact .answered [] _ response t ht rfl rfl (by simp [MergeCall.fence]) hanswered
  | pollLocked checkpoint =>
    obtain ⟨locked,hlocked,hreceipt⟩ := yields_return hcall
    obtain ⟨_,-,hverify⟩ := (yields_ofResult_bind _ _ _).mp hlocked
    obtain ⟨lockResult,past,_,ht,hlock,hpoll⟩ := (yields_attempt_bind _ _ _).mp hverify
    obtain ⟨merge,t₂,t₃,ht₂,hmerge,hlast⟩ := (yields_bind_ok _ _ _).mp hpoll
    obtain ⟨pr,uuid,response,t,hsplit,hanswered⟩ :=
      nativeStackMergePollUnlocked_answered w repository hmerge
    have hpast : ∀ e ∈ past, e.1.isRead = true :=
      (nativeStackBranchLockVerify_readOnly w repository _).requests hlock
    cases lockResult with
    | ok lock =>
      obtain ⟨ht₃,hmade⟩ := (yields_pure _ _).mp hlast
      cases hmade
      have hsame : receipt = merge := hreceipt
      rw [hsame]
      refine .answered past (.nativeStackMergePoll repository pr uuid) response t ?_ rfl rfl ?_
        ⟨hpast,hanswered.reads,hanswered.judged⟩
      · rw [ht,ht₂,ht₃,hsplit,List.append_nil]
      · intro expected hexpected
        cases hexpected
        rw [nativeStackBranchLockVerify_yields w repository hlock] at hlock
        exact hlock
    | error e =>
      obtain ⟨ht₃,hmade⟩ := (yields_pure _ _).mp hlast
      cases hmade
      refine .lockLost past (.nativeStackMergePoll repository pr uuid) response t ?_ rfl rfl rfl
        hlock ⟨hpast,hanswered.reads,hanswered.judged⟩ ?_
      · rw [ht,ht₂,ht₃,hsplit,List.append_nil]
      · rw [hreceipt]
        rfl
  | reobserveReleased checkpoint =>
    obtain ⟨locked,hlocked,hreceipt⟩ := yields_return hcall
    obtain ⟨_,-,hpoll⟩ := (yields_ofResult_bind _ _ _).mp hlocked
    obtain ⟨merge,hmerge,hmade⟩ := yields_return hpoll
    obtain ⟨pr,uuid,response,t,ht,hanswered⟩ :=
      nativeStackMergePollUnlocked_answered w repository hmerge
    have hsame : receipt = merge := by
      rw [hreceipt,hmade]
      rfl
    rw [hsame]
    exact .answered [] _ response t ht rfl rfl (by simp [MergeCall.fence]) hanswered
  | reobserveUnidentified plan lock =>
    obtain ⟨locked,hlocked,hreceipt⟩ := yields_return hcall
    unfold nativeStackMergeReobserveUnidentified at hlocked
    split at hlocked
    · exact absurd hlocked (Prog.yields_crashed _)
    · obtain ⟨merge,hmerge,hmade⟩ := yields_return hlocked
      have hsame : receipt = merge := by
        rw [hreceipt,hmade]
        rfl
      rw [hsame]
      exact .unasked ((terminalStackMergeReceipt_readOnly w _).requests hmerge) rfl
        (terminalStackMergeReceipt_judged w hmerge)

theorem countP_isSubmission_reads {t : Conversation} (h : ∀ e ∈ t, e.1.isRead = true) :
    t.countP isSubmission = 0 := by
  rw [List.countP_eq_zero]
  intro e he
  have hread := h e he
  unfold isSubmission
  cases hcommand : e.1 <;> simp_all [Command.isRead]

theorem Answered.countP {plan : StackAsyncMergePlan} {past : Conversation} {command : Command}
    {response : Response} {t : Conversation} {receipt : StackMergeReceipt}
    (h : Answered w repository plan past command response t receipt) :
    (past ++ (command,response)::t).countP isSubmission =
      [(command,response)].countP isSubmission := by
  rw [List.countP_append,countP_isSubmission_reads h.past_reads,zero_add,List.countP_cons,
    countP_isSubmission_reads h.reads,List.countP_cons,List.countP_nil]

/-- The answer of a call is the only command of its conversation that is not a read. -/
theorem Answered.split {plan : StackAsyncMergePlan} {past past' : Conversation}
    {command command' : Command} {response response' : Response} {t t' : Conversation}
    {receipt : StackMergeReceipt} (h : Answered w repository plan past command response t receipt)
    (hread : command'.isRead = false)
    (heq : past ++ (command,response)::t = past' ++ (command',response')::t') :
    past' = past ∧ response' = response ∧ t' = t := by
  obtain ⟨hpast,hpair,ht⟩ := Vec.split_unique (P := fun e : Command × Response => e.1.isRead = true)
    h.past_reads h.reads (by simp [hread]) heq.symm
  exact ⟨hpast,congrArg Prod.snd hpair,ht⟩

/-- A merge call's receipt is backed by its conversation unless the provider answers `failed`,
with a SHA other than the default tip, over a landing that the reads prove. -/
theorem mergeOutcome_sound_iff (call : MergeCall)
    (hplan : validateMergePlan repository call.plan = .ok ()) {h : Conversation}
    {receipt : StackMergeReceipt}
    (hrun : Prog.Run Prog.record (call.prog w repository).run [] (some (.ok receipt)) h) :
    OutcomeSound w repository call h receipt ↔ ¬ FailedOverLanding w repository call h := by
  obtain ⟨_,rfl,hcall⟩ := Prog.converses_of_run hrun
  cases mergeCall_settled w repository call hcall with
  | answered past command response t ht hread hcount hfence hanswered =>
    rw [ht]
    constructor
    · intro hsound hover
      obtain ⟨past',command',response',t',sha,tip,selected,stack,heq,hread',-,hword,hsha,hlanding,
        hne⟩ := hover
      obtain ⟨-,hresponse,ht'⟩ := hanswered.split w repository hread' heq
      rw [hresponse] at hword hsha
      rw [ht'] at hlanding
      obtain ⟨hfailed,hrows⟩ := hanswered.judged.failed_of_landing w hplan hword hsha hlanding hne
      obtain ⟨-,o,_,ho,-,-,hnone⟩ := hsound.failed hfailed
      obtain ⟨row,hrow,hmerged⟩ := hrows o ho
      rw [hnone row hrow] at hmerged
      cases hmerged
    · intro hclear
      refine ⟨?_,?_,(hanswered.countP w repository).trans hcount⟩
      · intro hstatus
        obtain ⟨o,ho,hlanding⟩ := hanswered.judged.merged w hplan hstatus
        exact ⟨o,t,ho,⟨past ++ [(command,response)],by simp⟩,hlanding⟩
      · intro hstatus
        obtain ⟨hword,hprovider,o,ho,hobserved,hnone | ⟨hlanding,s,hsha,hne⟩⟩ :=
          hanswered.judged.failed w hplan hstatus
        · rw [hprovider]
          exact ⟨hword,o,t,ho,⟨past ++ [(command,response)],by simp⟩,hobserved,hnone⟩
        · exact absurd ⟨past,command,response,t,s,_,_,_,rfl,hread,hfence,hword,hsha,hlanding,hne⟩
            hclear
  | lockLost past command response t ht hread hcount hlock hlost hanswered hstatus =>
    rw [ht]
    constructor
    · intro _ hover
      obtain ⟨past',command',response',t',_,_,_,_,heq,hread',hfence,-⟩ := hover
      obtain ⟨hpast,-,-⟩ := hanswered.split w repository hread' heq
      have hkept := hfence _ hlock
      rw [hpast] at hkept
      cases hlost.result_unique hkept
    · intro _
      refine ⟨?_,?_,(hanswered.countP w repository).trans hcount⟩
      · intro hmerged
        rw [hstatus] at hmerged
        cases hmerged
      · intro hfailed
        rw [hstatus] at hfailed
        cases hfailed
  | unasked hreads hcount hjudged =>
    constructor
    · intro _ hover
      obtain ⟨past,command,response,t,_,_,_,_,heq,hread,-⟩ := hover
      have hmem := hreads (command,response) (by simp [heq])
      simp [hread] at hmem
    · intro _
      refine ⟨?_,?_,(countP_isSubmission_reads hreads).trans hcount.symm⟩
      · intro hstatus
        obtain ⟨o,ho,hlanding⟩ := hjudged.merged w hplan hstatus
        exact ⟨o,_,ho,List.suffix_rfl,hlanding⟩
      · intro hstatus
        obtain ⟨⟨_,hword,_⟩,-⟩ := hjudged.failed w hplan hstatus
        cases hword

section Example

def singlePullRequestText (state mergedAt : String) : String :=
  "\x7b\"number\":11,\"title\":\"Feature\",\"body\":\"\",\"state\":\"" ++ state ++
    "\",\"isDraft\":false,\"headRefName\":\"feature\",\"headRefOid\":\"c1\",\"headRepository\":" ++
    "\x7b\"nameWithOwner\":\"octo/repo\",\"name\":\"repo\"\x7d,\"headRepositoryOwner\":" ++
    "\x7b\"login\":\"octo\"\x7d,\"isCrossRepository\":false,\"baseRefName\":\"main\"," ++
    "\"baseRefOid\":\"c0\",\"labels\":[],\"autoMergeRequest\":null,\"statusCheckRollup\":[]," ++
    "\"createdAt\":\"2026-01-01T00:00:00Z\",\"mergedAt\":" ++ mergedAt ++
    ",\"url\":\"\",\"updatedAt\":\"2026-01-02T00:00:00Z\"\x7d"

def landedPullRequestText : String := singlePullRequestText "MERGED" "\"2026-01-02T00:00:00Z\""

def asyncMergeText (status sha : String) : String :=
  "\x7b\"uuid\":\"merge-uuid\",\"status\":\"" ++ status ++ "\",\"details\":\x7b\"sha\":\"" ++ sha ++
    "\"\x7d\x7d"

def asyncMergeBody (status sha : String) : AsyncMergeBody where
  field name := if name = "uuid" then some "merge-uuid"
    else if name = "status" then some status else none
  details name := if name = "sha" then some sha else none

def landedPullRequest : PullRequestJson where
  number := 11
  state := .merged
  isDraft := false
  headRefName := "feature"
  headRefOid := "c1"
  headRepositoryNameWithOwner := some "octo/repo"
  headRepositoryName := some "repo"
  headRepositoryOwner := some "octo"
  isCrossRepository := false
  baseRefName := "main"
  baseRefOid := "c0"
  mergedAt := some "2026-01-02T00:00:00Z"

/-- PR 11 was squashed into `m1`, the default tip, and its Stack is gone. -/
def landedDocuments : Documents where
  gitRefs := [("\x7b\"object\":\x7b\"sha\":\"m1\"\x7d\x7d","m1")]
  pullRequests := [(landedPullRequestText,landedPullRequest)]
  mergeCommits := [("\x7b\"mergeCommit\":\x7b\"oid\":\"m1\"\x7d\x7d",some "m1")]
  stackLists := [("[]",[])]
  asyncMerges := [(asyncMergeText "merged" "m1",asyncMergeBody "merged" "m1"),
    (asyncMergeText "failed" "c1",asyncMergeBody "failed" "c1")]

def pollCall : MergeCall :=
  .poll (StackMergeCheckpoint.sealed landedDocuments.wire {
    schemaVersion := 1
    repository := ⟨"octo","repo"⟩
    plan := singlePlan
    request := {
      method := "PUT"
      path := mergeAsyncPath ⟨"octo","repo"⟩ 11
      selectedTop := 11
      selectedTopSha := "c1"
      orderedPullRequests := [11]
      orderedHeads := ["c1"] }
    uuid := "merge-uuid"
    initialProviderStatus := "pending" })

/-- The poll's answer, then the tip, the member, its squash commit and the absent Stack. -/
def pollAnswers (status sha : String) : List Response :=
  [.ok ⟨some 0,asyncMergeText status sha,""⟩,
    .ok ⟨some 0,"\x7b\"object\":\x7b\"sha\":\"m1\"\x7d\x7d",""⟩,
    .ok ⟨some 0,landedPullRequestText,""⟩,
    .ok ⟨some 0,"\x7b\"mergeCommit\":\x7b\"oid\":\"m1\"\x7d\x7d",""⟩,
    .ok ⟨some 1,"","gh: Not Found (HTTP 404)"⟩,.ok ⟨some 0,"[]",""⟩]

/-- The receipt and conversation of the poll with these answers. -/
def pollReceipt (status sha : String) : Option (StackMergeReceipt × Conversation) :=
  match (pollCall.prog landedDocuments.wire ⟨"octo","repo"⟩).run.replay (pollAnswers status sha) with
  | some (some (.ok receipt),t) => some (receipt,t)
  | _ => none

theorem run_of_pollReceipt {status sha : String} {receipt : StackMergeReceipt} {h : Conversation}
    (hreplay : pollReceipt status sha = some (receipt,h)) :
    Prog.Run Prog.record (pollCall.prog landedDocuments.wire ⟨"octo","repo"⟩).run []
      (some (.ok receipt)) h := by
  unfold pollReceipt at hreplay
  split at hreplay
  case h_1 hresult =>
    cases hreplay
    exact Prog.run_of_replay hresult []
  · cases hreplay

theorem mergeOutcome_sound_iff_poll : ∃ receipt h, receipt.status = .merged ∧
    (OutcomeSound landedDocuments.wire ⟨"octo","repo"⟩ pollCall h receipt ↔
      ¬ FailedOverLanding landedDocuments.wire ⟨"octo","repo"⟩ pollCall h) := by
  have hplayed : ((pollReceipt "merged" "m1").any fun r => decide (r.1.status = .merged)) = true := by
    decide +kernel
  obtain ⟨⟨receipt,h⟩,hreplay,hstatus⟩ := (Option.any_eq_true _ _).mp hplayed
  exact ⟨receipt,h,of_decide_eq_true hstatus,mergeOutcome_sound_iff _ _ pollCall (by decide +kernel)
    (run_of_pollReceipt hreplay)⟩

/-- Told `failed` with the head's own SHA, the poll records a rejection of a landed group. -/
theorem mergeOutcome_not_sound : ∃ receipt h,
    Prog.Run Prog.record (pollCall.prog landedDocuments.wire ⟨"octo","repo"⟩).run []
      (some (.ok receipt)) h ∧
    validateMergePlan ⟨"octo","repo"⟩ pollCall.plan = .ok () ∧ receipt.status = .failed ∧
    ¬ OutcomeSound landedDocuments.wire ⟨"octo","repo"⟩ pollCall h receipt := by
  have hplayed : ((pollReceipt "failed" "c1").any fun r => decide (r.1.status = .failed ∧
      ∀ o ∈ r.1.observation, ∃ row ∈ o.selected, row.isMerged = true)) = true := by
    decide +kernel
  obtain ⟨⟨receipt,h⟩,hreplay,hresult⟩ := (Option.any_eq_true _ _).mp hplayed
  obtain ⟨hstatus,hrows⟩ := of_decide_eq_true hresult
  refine ⟨receipt,h,run_of_pollReceipt hreplay,by decide +kernel,hstatus,?_⟩
  intro hsound
  obtain ⟨-,o,_,ho,-,-,hnone⟩ := hsound.failed hstatus
  obtain ⟨row,hrow,hmerged⟩ := hrows o ho
  rw [hnone row hrow] at hmerged
  cases hmerged

end Example

end Github
end Cara
