import Cara.Sync.DrainOrder
import Cara.Sync.ForceMerge

/-! Every run of a forced landing: what stands before the administrator squash, the consumed
label and the retarget of the successor. -/
namespace Cara
namespace Sync

open Cara.Graph (Indexed)
open Prog (Meets Uses recordWhere)

/-- The exchange may have changed something at the provider. -/
def Writes : SyncRequest × SyncAnswer → Prop
  | (.ensureMarkedComment ..,.receipt r) | (.ensureControlLabelComment ..,.receipt r) =>
      commentExisted r = false
  | (.nativeStackLandLock ..,_) | (.nativeStackLandSubmit ..,_) | (.nativeStackLandRelease ..,_)
  | (.deleteStackBranchLock ..,_) | (.squashMerge ..,_) | (.adminSquashMerge ..,_) | (.setBase ..,_)
  | (.enableSquashAutoMerge ..,_) | (.disableAutoMerge ..,_) | (.addLabel ..,_)
  | (.removeLabel ..,_) | (.rerequestCheckSuite ..,_) | (.rerunFailedRun ..,_)
  | (.rerunWorkflowRun ..,_) => True
  | _ => False

/-- The snapshot that the exchange shows of the pull request. -/
def shownOf (number : PrNumber) : SyncRequest × SyncAnswer → Option PullRequestSnapshot
  | (.refetchPullRequest _ asked,.pullRequest s) => if asked = number then some s else none
  | (_,.receipt r) => if r.after.number = number then some r.after else none
  | _ => none

/-- What was read of the pull request last, in the conversation or before it. -/
def lastRead (known : PullRequestMap) (h : Talk) (number : PrNumber) : Option PullRequestSnapshot :=
  (h.reverse.findSome? (shownOf number)).or known[number]?

structure ForceReady (status : StatusOutput) (s : PullRequestSnapshot) : Prop where
  isOpen : s.state = .open
  undrafted : s.draft = false
  labelled : s.hasLabel "caravan-force" = true
  clean : headIsConflictFreeWithDefault status s = true

def isAdminMerge : SyncRequest → Bool
  | .adminSquashMerge .. => true
  | _ => false

/-- An administrator squash behind this conversation is authorised by current exact facts. -/
structure ForceAuthorised (status : StatusOutput) (known : PullRequestMap) (forceMerge : Bool)
    (head : PrNumber) (h : Talk) (expected : PullRequestPrecondition) : Prop where
  allowed : forceMerge = true
  root : expected.number = head
  once : ∀ e ∈ h,isAdminMerge e.1 = false
  permitted : (.viewerPermission status.repository,.text "ADMIN") ∈ h
  ready : ∃ s,lastRead known h head = some s ∧ ForceReady status s
  held : ∃ pre post,h = pre ++ (.verifyBranchHead status.repository status.defaultBranch
    status.analysis.fleet.defaultBranch.oid,.done)::post ∧ ∀ e ∈ post,¬ Writes e

/-- What a forced landing may ask behind a conversation. -/
def ForcedInOrder (status : StatusOutput) (known : PullRequestMap) (forceMerge : Bool)
    (head : PrNumber) (h : Talk) : SyncRequest → Prop
  | .adminSquashMerge _ expected => ForceAuthorised status known forceMerge head h expected
  | .removeLabel _ _ _ => ∃ e ∈ h,isAdminMerge e.1 = true ∧ ∃ r,e.2 = .receipt r
  | .setBase _ _ _ => Delivered status h head
  | _ => True

/-- The audit comment exists already and shows the head as it may be forced; the successor, the
one pull request that is read again, targets the default branch. -/
def Undisturbed (status : StatusOutput) : SyncRequest → SyncAnswer → Prop
  | .ensureControlLabelComment _ expected _ _,.receipt r => commentExisted r = true ∧
      r.after.number = expected.number ∧ ForceReady status r.after
  | .refetchPullRequest _ _,.pullRequest s => s.base.name = status.defaultBranch
  | _,_ => True

/-- Neither an administrator squash, a removed label nor a retarget. -/
def Lesser : SyncRequest → Prop
  | .adminSquashMerge .. | .removeLabel .. | .setBase .. => False
  | _ => True

section Lesser

variable {status : StatusOutput} {known : PullRequestMap} {forceMerge : Bool} {head : PrNumber}
  {repository : RepositoryId}

theorem ForcedInOrder.lesser (h : Talk) (q : SyncRequest) (hq : Lesser q) :
    ForcedInOrder status known forceMerge head h q := by
  cases q <;> first | exact hq.elim | trivial

theorem Reading.lesser (q : SyncRequest) (hq : Reading q) : Lesser q := by
  cases q <;> first | exact hq.elim | trivial

theorem disarm_uses (number : PrNumber) (summary : String) :
    Uses Lesser (disarm repository number summary) := by
  apply Uses.bind (ensureMutationCapacity_uses 1)
  intro _
  apply Uses.bind (preconditionOf_uses number)
  intro expected
  exact Uses.bind (ask_uses trivial) fun _ => Uses.modify _

theorem ensureAutoMergeDisabled_uses (number : PrNumber) :
    Uses Lesser (ensureAutoMergeDisabled repository number) := by
  apply Uses.bind (currentOf_uses number)
  intro current
  split
  · exact Uses.modify _
  · exact disarm_uses number _

theorem disarmAll_uses (numbers : List PrNumber) : Uses Lesser (disarmAll repository numbers) := by
  induction numbers with
  | nil => exact Uses.pure _
  | cons number rest ih => exact Uses.bind (ensureAutoMergeDisabled_uses number) fun _ => ih

theorem ensureNoForeignAutoMerge_uses (number : PrNumber) :
    Uses Lesser (ensureNoForeignAutoMerge repository number) := by
  apply Uses.bind (currentOf_uses number)
  intro observed
  apply Uses.bind Uses.get
  intro p
  dsimp only
  split
  · exact Uses.modify _
  · split
    · exact Uses.throw _
    · exact disarm_uses number _

theorem rereadArmed_uses (number : PrNumber) (targetHead : CommitOid) (left : ℕ)
    (observed : PullRequestSnapshot) :
    Uses Lesser (rereadArmed repository number targetHead left observed) := by
  induction left generalizing observed with
  | zero => exact Uses.pure _
  | succ left ih =>
    rw [rereadArmed]
    split
    · exact Uses.pure _
    · apply Uses.bind (ask_uses trivial)
      intro again
      exact Uses.bind (Uses.modify _) fun _ => ih again

theorem armRootOnce_uses (number : PrNumber) (observed : PullRequestSnapshot) :
    Uses Lesser (armRootOnce repository number observed) := by
  have harm : Uses Lesser (do
      ensureMutationCapacity 1
      let expected ← preconditionOf number
      let receipt ← ask (.enableSquashAutoMerge repository expected) (some number)
        SyncAnswer.receipt?
      modify (·.record receipt
        "armed scheduler-owned squash auto-merge on the exact caravan root head")
      rereadArmed repository number observed.head.oid (rootAutoMergeConfirmationReads - 1)
        receipt.after) := by
    apply Uses.bind (ensureMutationCapacity_uses 1)
    intro _
    apply Uses.bind (preconditionOf_uses number)
    intro expected
    apply Uses.bind (ask_uses trivial)
    intro receipt
    exact Uses.bind (Uses.modify _) fun _ => rereadArmed_uses number _ _ _
  unfold armRootOnce
  split
  · exact Uses.bind (disarm_uses number _) fun _ => harm
  · exact harm

theorem armRoot_uses (number : PrNumber) (left : ℕ) (observed : PullRequestSnapshot) :
    Uses Lesser (armRoot repository number left observed) := by
  induction left generalizing observed with
  | zero => exact Uses.throw _
  | succ left ih =>
    apply Uses.bind (armRootOnce_uses number observed)
    intro armed
    split
    · exact Uses.throw _
    · split
      · exact Uses.pure _
      · exact ih armed

theorem ensureRootSquashAutoMerge_uses (number : PrNumber) (discovery : Option PullRequestSnapshot)
    (rewrittenHead : Option CommitOid) :
    Uses Lesser (ensureRootSquashAutoMerge repository number discovery rewrittenHead) := by
  apply Uses.bind Uses.get
  intro p
  apply Uses.bind ((readExactRootGeneration_uses number _).weaken Reading.lesser)
  intro observed
  apply Uses.bind Uses.get
  intro p
  dsimp only
  split
  · exact Uses.bind (Uses.modify _) fun _ => Uses.modify _
  · exact Uses.bind (armRoot_uses number _ _) fun _ => Uses.modify _

end Lesser

section Forced

variable {w : ForceWire} {status : StatusOutput} {known : PullRequestMap} {forceMerge : Bool}
  {head : PrNumber} {h : Talk} {p : SyncProgress}

theorem ensureAutoMergeDisabled_unarmed {repository : RepositoryId} {number : PrNumber}
    {fits : SyncRequest → SyncAnswer → Prop} {ok : Talk → SyncRequest → Prop}
    (hunarmed : ∀ s,p.current[number]? = some s → s.autoMerge.enabled = false) :
    Meets (recordWhere fits) ok (ensureAutoMergeDisabled repository number)
      (fun h' _ p' => h' = h ∧ p'.current = p.current) (fun _ _ => True) h p := by
  apply (currentOf_heard number).bind
  rintro h' s p' ⟨rfl,rfl,hs⟩
  rw [if_pos (hunarmed s hs)]
  exact .modify ⟨rfl,rfl⟩

theorem disarmAll_unarmed {repository : RepositoryId} {numbers : List PrNumber}
    {fits : SyncRequest → SyncAnswer → Prop} {ok : Talk → SyncRequest → Prop}
    (hunarmed : ∀ n ∈ numbers,∀ s,p.current[n]? = some s → s.autoMerge.enabled = false) :
    Meets (recordWhere fits) ok (disarmAll repository numbers)
      (fun h' _ p' => h' = h ∧ p'.current = p.current) (fun _ _ => True) h p := by
  induction numbers generalizing p with
  | nil => exact .pure ⟨rfl,rfl⟩
  | cons number rest ih =>
    apply (ensureAutoMergeDisabled_unarmed (hunarmed number (List.mem_cons_self ..))).bind
    rintro h' - p' ⟨rfl,hsame⟩
    have hrest : ∀ n ∈ rest,∀ s,p'.current[n]? = some s → s.autoMerge.enabled = false := by
      rw [hsame]
      exact fun n hn => hunarmed n (List.mem_cons_of_mem _ hn)
    apply (ih hrest).mono
    · rintro t - p'' ⟨rfl,hsame'⟩
      exact ⟨rfl,hsame'.trans hsame⟩
    · exact fun _ _ _ => trivial

def preflightTalk (status : StatusOutput) (s : PullRequestSnapshot) : Talk := [
  (.verifyPullRequest status.repository (.ofSnapshot s),.done),
  (.verifyBranchHead status.repository status.defaultBranch
    status.analysis.fleet.defaultBranch.oid,.done),
  (.viewerPermission status.repository,.text "ADMIN")]

theorem forcePreflight_heard {fits : SyncRequest → SyncAnswer → Prop}
    {ok : Talk → SyncRequest → Prop} (hok : ∀ h q,Lesser q → ok h q) (current : PullRequestSnapshot) :
    Meets (recordWhere fits) ok (forcePreflight status head current)
      (fun h' _ p' => h' = h ++ preflightTalk status current ∧ p' = p) (fun _ _ => True) h p := by
  apply (ask_heard (hok h (.verifyPullRequest status.repository (.ofSnapshot current)) trivial)).bind
  rintro h₁ u₁ p₁ ⟨rfl,verified,-,rfl,hverified⟩
  rw [done?_eq_some.mp hverified]
  apply (ask_heard (hok _ (.verifyBranchHead status.repository status.defaultBranch
    status.analysis.fleet.defaultBranch.oid) trivial)).bind
  rintro h₂ u₂ p₂ ⟨rfl,held,-,rfl,hheld⟩
  rw [done?_eq_some.mp hheld]
  apply (ask_heard (hok _ (.viewerPermission status.repository) trivial)).bind
  rintro h₃ permission p₃ ⟨rfl,text,-,rfl,htext⟩
  have htext : text = .text permission := by cases text <;> simp_all [SyncAnswer.text?]
  rw [htext]
  split
  · next hadmin =>
    rw [hadmin]
    exact .pure ⟨by simp [preflightTalk],rfl⟩
  · exact .throw trivial

/-- Nothing is written when the audit is there already and no member is armed. -/
theorem forcePrepare_heard {others : List PrNumber} (hindexed : Indexed p.current)
    (hnodup : (head::others).Nodup)
    (hunarmed : ∀ n ∈ head::others,∀ s,p.current[n]? = some s → s.autoMerge.enabled = false) :
    Meets (recordWhere (Undisturbed status)) (ForcedInOrder status known forceMerge head)
      (forcePrepare w status head others)
      (fun h' _ p' => ∃ s marker body receipt,commentExisted receipt = true ∧
        receipt.after.number = head ∧ ForceReady status receipt.after ∧
        h' = h ++ [(.verifyPullRequest status.repository (.ofSnapshot s),.done),
          (.ensureControlLabelComment status.repository (.ofSnapshot s) marker body,
            .receipt receipt)] ∧
        p'.current = p.current.insert head receipt.after) (fun _ _ => True) h p := by
  apply (ensureAutoMergeDisabled_unarmed (hunarmed head (List.mem_cons_self ..))).bind
  rintro h₁ - p₁ ⟨rfl,hsame₁⟩
  apply (currentOf_heard head).bind
  rintro h₂ current p₂ ⟨rfl,rfl,hcurrent⟩
  have hnumber : current.number = head := by
    rw [hsame₁] at hcurrent
    exact hindexed head current hcurrent
  apply (ask_heard (ForcedInOrder.lesser _ (.verifyPullRequest status.repository
    (.ofSnapshot current)) trivial)).bind
  rintro h₃ u₃ p₃ ⟨rfl,verified,-,rfl,hverified⟩
  rw [done?_eq_some.mp hverified]
  split
  · exact .lift .crashed
  · next compatibility hcompatibility =>
    apply Meets.bind (K := fun h' _ p' => ∃ marker body receipt,commentExisted receipt = true ∧
      receipt.after.number = head ∧ ForceReady status receipt.after ∧
      h' = h₂ ++ [(.verifyPullRequest status.repository (.ofSnapshot current),.done),
        (.ensureControlLabelComment status.repository (.ofSnapshot current) marker body,
          .receipt receipt)] ∧ p'.current = p.current.insert head receipt.after)
    · apply (ensureMutationCapacity_heard 1).bind
      rintro h₄ - p₄ ⟨rfl,rfl⟩
      apply (preconditionOf_heard head).bind
      rintro h₅ expected p₅ ⟨rfl,rfl,s,hs,rfl⟩
      obtain rfl : current = s := Option.some.inj (hcurrent.symm.trans hs)
      apply (call_heard (ForcedInOrder.lesser _ (.ensureControlLabelComment status.repository
        (.ofSnapshot current) _ _) trivial)).bind
      rintro h₆ receipt p₆ ⟨rfl,answer,hfit,rfl,hanswer⟩
      rw [receipt?_eq_some.mp hanswer] at hfit ⊢
      obtain ⟨hexisted,hreceipt,hready⟩ := hfit
      rw [if_pos hexisted]
      refine .modify ⟨(forceAudit w head current compatibility).marker,
        (forceAudit w head current compatibility).body,receipt,hexisted,hreceipt.trans hnumber,hready,
        by simp,?_⟩
      show p₆.current.insert head receipt.after = _
      rw [hsame₁]
    · rintro h₄ - p₄ ⟨marker,body,receipt,hexisted,hreceipt,hready,rfl,hcurrent₄⟩
      have hrest : ∀ n ∈ others,∀ s,p₄.current[n]? = some s → s.autoMerge.enabled = false := by
        intro n hn s hs
        rw [hcurrent₄,Std.ExtTreeMap.getElem?_insert,if_neg] at hs
        · exact hunarmed n (List.mem_cons_of_mem _ hn) s hs
        · intro heq
          have hhead : head = n := by simpa using heq
          exact (List.nodup_cons.mp hnodup).1 (hhead ▸ hn)
      apply (disarmAll_unarmed hrest).mono
      · rintro h₅ - p₅ ⟨rfl,hsame₅⟩
        exact ⟨current,marker,body,receipt,hexisted,hreceipt,hready,rfl,hsame₅.trans hcurrent₄⟩
      · exact fun _ _ _ => trivial

/-- The administrator squash is allowed behind these reads and the audit that was there. -/
theorem forceAuthorised_of_audited {s s' : PullRequestSnapshot} {marker body : String}
    {receipt : GitHubMutationReceipt} (hexisted : commentExisted receipt = true)
    (hreceipt : receipt.after.number = head) (hready : ForceReady status receipt.after) :
    ForceAuthorised status known true head (preflightTalk status s ++
      [(.verifyPullRequest status.repository (.ofSnapshot s'),.done),
        (.ensureControlLabelComment status.repository (.ofSnapshot s') marker body,
          .receipt receipt)]) (.ofSnapshot receipt.after) where
  allowed := rfl
  root := hreceipt
  once := by simp [preflightTalk,isAdminMerge]
  permitted := by simp [preflightTalk]
  ready := ⟨receipt.after,by simp [lastRead,shownOf,hreceipt],hready⟩
  held := by
    refine ⟨[(.verifyPullRequest status.repository (.ofSnapshot s),.done)],[
      (.viewerPermission status.repository,.text "ADMIN"),
      (.verifyPullRequest status.repository (.ofSnapshot s'),.done),
      (.ensureControlLabelComment status.repository (.ofSnapshot s') marker body,
        .receipt receipt)],rfl,?_⟩
    simp [Writes,hexisted]

theorem forceSubmit_heard {s : PullRequestSnapshot} (hs : p.current[head]? = some s)
    (hauthorised : ForceAuthorised status known forceMerge head h (.ofSnapshot s)) :
    Meets (recordWhere (Undisturbed status)) (ForcedInOrder status known forceMerge head)
      (forceSubmit status head) (fun _ _ _ => True) (fun _ _ => True) h p := by
  apply (ensureMutationCapacity_heard 2).bind
  rintro h₁ - p₁ ⟨rfl,rfl⟩
  apply (preconditionOf_heard head).bind
  rintro h₂ expected p₂ ⟨rfl,rfl,s',hs',rfl⟩
  obtain rfl : s = s' := Option.some.inj (hs.symm.trans hs')
  have hallowed : ForcedInOrder status known forceMerge head h₂
      (.adminSquashMerge status.repository (.ofSnapshot s)) := hauthorised
  apply (call_heard hallowed).bind
  rintro h₃ receipt p₃ ⟨rfl,answer,-,rfl,hanswer⟩
  rw [receipt?_eq_some.mp hanswer]
  apply (modify_heard _).bind
  rintro h₄ - p₄ ⟨rfl,rfl⟩
  apply (preconditionOf_heard head).bind
  rintro h₅ expected p₅ ⟨rfl,rfl,-⟩
  have hconsumes : ForcedInOrder status known forceMerge head (h₂ ++
      [(.adminSquashMerge status.repository (.ofSnapshot s),.receipt receipt)])
      (.removeLabel status.repository expected "caravan-force") :=
    ⟨(.adminSquashMerge status.repository (.ofSnapshot s),.receipt receipt),by simp,rfl,receipt,rfl⟩
  apply (call_heard hconsumes).bind
  intro h₆ consumed p₆ _
  exact .modify trivial

/-- A successor that targets the default branch when it is read is not retargeted. -/
theorem promoteRoot_undisturbed (next : PrNumber) (predecessorMerged : Bool) :
    Meets (recordWhere (Undisturbed status)) (ForcedInOrder status known forceMerge head)
      (promoteRoot status next predecessorMerged) (fun _ _ _ => True) (fun _ _ => True) h p := by
  have hok (h : Talk) (q : SyncRequest) (hq : Reading q) :
      ForcedInOrder status known forceMerge head h q := .lesser h q (hq.lesser q)
  apply (readExactRootGeneration_heard hok next _).bind
  rintro h₁ ⟨observed,reads⟩ p₁ ⟨-,-,hfit,-⟩
  have hbase : observed.base.name = status.defaultBranch := hfit
  have hsatisfied : (promotionTrigger observed.base.name status.defaultBranch
      predecessorMerged).requiresWrite = false := by
    rw [promotionTrigger,if_pos hbase]
    rfl
  dsimp only
  rw [if_pos hsatisfied]
  exact .modify trivial

theorem lesser_of_uses {α : Type} {m : SyncM α} (hm : Uses Lesser m) :
    Meets (recordWhere (Undisturbed status)) (ForcedInOrder status known forceMerge head) m
      (fun _ _ _ => True) (fun _ _ => True) h p :=
  (hm.grows ForcedInOrder.lesser p).mono (fun _ _ _ _ => trivial) fun _ _ _ => trivial

theorem forceAdvance_undisturbed (next : PrNumber) (others : List PrNumber)
    (rewrittenHeads : PrNumber → Option CommitOid) :
    Meets (recordWhere (Undisturbed status)) (ForcedInOrder status known forceMerge head)
      (forceAdvance status head next others rewrittenHeads) (fun _ _ _ => True) (fun _ _ => True)
      h p := by
  apply (promoteRoot_undisturbed next true).bind
  intro h₁ _ p₁ _
  apply (modify_heard _).bind
  intro h₂ _ p₂ _
  apply (lesser_of_uses (disarmAll_uses others)).bind
  intro h₃ _ p₃ _
  apply get_heard.bind
  intro h₄ v p₄ _
  dsimp only
  split
  · exact lesser_of_uses (ensureRootSquashAutoMerge_uses next _ _)
  · exact lesser_of_uses (ensureNoForeignAutoMerge_uses next)

/-- With the audit there already, no member armed and the successor on the default branch, a forced
landing acts on current exact facts. -/
theorem forceMergeHead_inOrder {c : Caravan} {rewrittenHeads : PrNumber → Option CommitOid}
    (hhead : c.head = some head) (hnodup : c.members.Nodup) (hindexed : Indexed p.current)
    (hunarmed : ∀ n ∈ c.members,∀ s,p.current[n]? = some s → s.autoMerge.enabled = false)
    {r : Option (Except SyncError (Unit × SyncProgress))} {t : Talk}
    (hrun : Prog.Run Prog.record ((forceMergeHead w status c forceMerge rewrittenHeads).run p).run
      [] r t)
    (hundisturbed : ∀ e ∈ t,Undisturbed status e.1 e.2) {before after : Talk} {q : SyncRequest}
    {a : SyncAnswer} (ht : t = before ++ (q,a)::after) :
    ForcedInOrder status p.current forceMerge head before q := by
  have hmeets : Meets (recordWhere (Undisturbed status))
      (ForcedInOrder status p.current forceMerge head)
      (forceMergeHead w status c forceMerge rewrittenHeads) (fun _ _ _ => True) (fun _ _ => True)
      [] p := by
    unfold forceMergeHead
    obtain ⟨others,hmembers⟩ := List.head?_eq_some_iff.mp hhead
    rw [hmembers] at hnodup hunarmed ⊢
    apply (currentOf_heard head).bind
    rintro h₁ current p₁ ⟨rfl,rfl,-⟩
    apply Meets.bind (K := fun h' _ p' => h' = [] ∧ p' = p₁ ∧ forceMerge = true)
    · apply Meets.lift
      refine .ofResult ?_ fun _ _ => trivial
      intro u hu
      refine ⟨rfl,rfl,?_⟩
      unfold forceGate at hu
      split at hu
      · cases hu
      · next hallowed => simpa using hallowed
    · rintro h₂ - p₂ ⟨rfl,rfl,rfl⟩
      apply (forcePreflight_heard ForcedInOrder.lesser current).bind
      rintro h₃ - p₃ ⟨rfl,rfl⟩
      apply (forcePrepare_heard hindexed hnodup hunarmed).bind
      rintro h₄ - p₄ ⟨s,marker,body,receipt,hexisted,hreceipt,hready,rfl,hcurrent⟩
      have hat : p₄.current[head]? = some receipt.after := by
        rw [hcurrent,Std.ExtTreeMap.getElem?_insert_self]
      apply (forceSubmit_heard hat (forceAuthorised_of_audited hexisted hreceipt hready)).bind
      intro h₅ _ p₅ _
      cases others with
      | nil => exact .pure trivial
      | cons next rest => exact forceAdvance_undisturbed next rest rewrittenHeads
  have hat : t = [] ++ before ++ (q,a)::after := ht
  exact hmeets.gives.requests hrun hundisturbed hat

end Forced

section Sample

def forcedRoot : PullRequestSnapshot :=
  { pairMember 1 ⟨acme,"main","m0"⟩ with labels := {"caravan","caravan-force"} }

def forcedSnapshot : RepositorySnapshot where
  repository := acme
  defaultBranch := ⟨acme,"main","m0"⟩
  pullRequests := [forcedRoot,drainNext]

def forcedStatus : StatusOutput where
  repository := acme
  defaultBranch := "main"
  analysis := (Graph.analyzeForActor cleanChecker forcedSnapshot .caravan).toOption.getD
    (Graph.deriveForActor forcedSnapshot .caravan)
  headMergeActor := .caravan

def forcedProgress : SyncProgress := .new forcedStatus "tick" 16

def forcedWire : ForceWire where
  toSyncWire := pairWire
  checks _ := "[]"
  outcome _ := "Clean"

def verifiedTalk : Talk := preflightTalk forcedStatus forcedRoot ++
  [(.verifyPullRequest acme (.ofSnapshot forcedRoot),.done)]

/-- The audit, with what the provider says of the comment. -/
def forcedAudit (marker body : String) (output : Option String) : SyncRequest × SyncAnswer :=
  (.ensureControlLabelComment acme (.ofSnapshot forcedRoot) marker body,
    .receipt ⟨.comment,none,forcedRoot,output⟩)

def forcedSquash : SyncRequest × SyncAnswer :=
  (.adminSquashMerge acme (.ofSnapshot forcedRoot),.receipt ⟨.squashMerge,none,forcedRoot,none⟩)

/-- The merge, the consumed label, and the successor as it is read. -/
def consumedTalk : Talk := [
  forcedSquash,
  (.removeLabel acme (.ofSnapshot forcedRoot) "caravan-force",
    .receipt ⟨.removeLabel,none,forcedRoot,none⟩),
  (.refetchPullRequest acme 2,.pullRequest drainNext)]

def untexted : SyncRequest × SyncAnswer → SyncRequest × SyncAnswer
  | (.ensureControlLabelComment repository expected _ _,a) =>
      (.ensureControlLabelComment repository expected "" "",a)
  | e => e

theorem map_untexted {t l : Talk} (h : t.map untexted = l)
    (hl : ∀ e ∈ l,∀ repository expected marker body,
      e.1 ≠ .ensureControlLabelComment repository expected marker body) : t = l := by
  have hsame (e : SyncRequest × SyncAnswer) (he : e ∈ t) : untexted e = e := by
    have hmem : untexted e ∈ l := h ▸ List.mem_map_of_mem he
    obtain ⟨q,a⟩ := e
    cases q <;> first | rfl | exact absurd rfl (hl _ hmem _ _ _ _)
  rw [← h,List.map_congr_left hsame,List.map_id']

theorem untexted_audit {e : SyncRequest × SyncAnswer} {output : Option String}
    (h : untexted e = forcedAudit "" "" output) : ∃ marker body,e = forcedAudit marker body output := by
  obtain ⟨q,a⟩ := e
  cases q with
  | ensureControlLabelComment repository expected marker body =>
    simp only [untexted,forcedAudit,Prod.mk.injEq,SyncRequest.ensureControlLabelComment.injEq,
      and_true] at h
    obtain ⟨⟨rfl,rfl⟩,rfl⟩ := h
    exact ⟨marker,body,rfl⟩
  | _ => simp [untexted,forcedAudit] at h

theorem forced_runs {output : Option String} {rest : Talk}
    (hrest : ∀ e ∈ rest,∀ repository expected marker body,
      e.1 ≠ .ensureControlLabelComment repository expected marker body)
    (h : (((forceMergeHead forcedWire forcedStatus pairCaravan true fun _ => none).run
      forcedProgress).run.replay ((verifiedTalk ++ forcedAudit "" "" output::rest).map
        Prod.snd)).map (·.2.map untexted) = some (verifiedTalk ++ forcedAudit "" "" output::rest)) :
    ∃ r marker body,Prog.Run Prog.record ((forceMergeHead forcedWire forcedStatus pairCaravan true
      fun _ => none).run forcedProgress).run [] r
        (verifiedTalk ++ forcedAudit marker body output::rest) := by
  obtain ⟨⟨r,t⟩,hr,ht⟩ := Option.map_eq_some_iff.mp h
  obtain ⟨t₁,t₂,rfl,h₁,h₂⟩ := List.map_eq_append_iff.mp ht
  obtain ⟨e,t₃,rfl,he,h₃⟩ := List.map_eq_cons_iff.mp h₂
  obtain ⟨marker,body,rfl⟩ := untexted_audit he
  rw [map_untexted h₁ (by simp [verifiedTalk,preflightTalk]),map_untexted h₃ hrest] at hr
  exact ⟨r,marker,body,Prog.run_of_replay hr []⟩

/-- The default branch is not read again behind the posted audit, and the successor is retargeted
although the forced head was never seen merged. -/
theorem forced_disturbed : ∃ r marker body,Prog.Run Prog.record ((forceMergeHead forcedWire
      forcedStatus pairCaravan true fun _ => none).run forcedProgress).run [] r
        (verifiedTalk ++ forcedAudit marker body none::(consumedTalk ++ [nextPromotion])) ∧
    ¬ ForcedInOrder forcedStatus forcedProgress.current true 1
      (verifiedTalk ++ [forcedAudit marker body none]) forcedSquash.1 ∧
    ¬ ForcedInOrder forcedStatus forcedProgress.current true 1
      (verifiedTalk ++ forcedAudit marker body none::consumedTalk) nextPromotion.1 := by
  obtain ⟨r,marker,body,hrun⟩ := @forced_runs none (consumedTalk ++ [nextPromotion])
    (by simp [consumedTalk,forcedSquash,nextPromotion]) (by decide +kernel)
  refine ⟨r,marker,body,hrun,?_,?_⟩
  · rintro ⟨-,-,-,-,-,pre,post,hsplit,hunwritten⟩
    rcases List.eq_nil_or_concat post with rfl | ⟨post,e,rfl⟩
    · have hlast := List.append_inj_right' hsplit rfl
      simp [forcedAudit] at hlast
    · rw [List.concat_eq_append,← List.cons_append,← List.append_assoc] at hsplit
      have hlast := List.append_inj_right' hsplit rfl
      refine hunwritten e (by simp) ?_
      rw [← List.singleton_inj.mp hlast]
      rfl
  · rintro ⟨-,commit,head,relation,hcommit,-⟩
    simp [verifiedTalk,preflightTalk,forcedAudit,consumedTalk,forcedSquash] at hcommit

/-- The same landing with the audit there already, rejected at the merge. -/
def rejectedSquash : SyncRequest × SyncAnswer :=
  (.adminSquashMerge acme (.ofSnapshot forcedRoot),.failed (.other "rejected"))

theorem rejected_undisturbed (marker body : String) : ∀ e ∈ verifiedTalk ++
    forcedAudit marker body (some "existing GitHub comment")::[rejectedSquash],
    Undisturbed forcedStatus e.1 e.2 := by
  intro e he
  simp only [verifiedTalk,preflightTalk,List.mem_append,List.mem_cons,List.not_mem_nil,or_false] at he
  rcases he with ((rfl | rfl | rfl) | rfl) | rfl | rfl
  case inr.inl => exact ⟨by decide +kernel,rfl,rfl,rfl,by decide,by decide +kernel⟩
  all_goals trivial

theorem forced_indexed : Indexed forcedProgress.current := by
  have hok : (Graph.analyzeForActor cleanChecker forcedSnapshot .caravan).isOk = true := by
    decide +kernel
  have hanalyzed : Graph.analyzeForActor cleanChecker forcedSnapshot .caravan =
      .ok forcedStatus.analysis := by
    unfold forcedStatus
    cases h : Graph.analyzeForActor cleanChecker forcedSnapshot .caravan with
    | ok a => rfl
    | error e =>
      rw [h] at hok
      cases hok
  show Indexed forcedStatus.analysis.pullRequests
  rw [(Graph.analyzeForActor_kept hanalyzed).pullRequests]
  exact Graph.collectPullRequests_indexed _

theorem forced_inOrder : ∃ marker body,ForcedInOrder forcedStatus forcedProgress.current true 1
    (verifiedTalk ++ [forcedAudit marker body (some "existing GitHub comment")])
    rejectedSquash.1 := by
  obtain ⟨r,marker,body,hrun⟩ := @forced_runs (some "existing GitHub comment") [rejectedSquash]
    (by simp [rejectedSquash]) (by decide +kernel)
  have hfirst : forcedProgress.current[1]? = some forcedRoot := by decide +kernel
  have hsecond : forcedProgress.current[2]? = some drainNext := by decide +kernel
  have hunarmed : ∀ n ∈ pairCaravan.members,∀ s,forcedProgress.current[n]? = some s →
      s.autoMerge.enabled = false := by
    intro n hn s hs
    rcases List.mem_pair.mp hn with rfl | rfl
    · rw [hfirst,Option.some_inj] at hs
      rw [← hs]
      rfl
    · rw [hsecond,Option.some_inj] at hs
      rw [← hs]
      rfl
  refine ⟨marker,body,?_⟩
  apply forceMergeHead_inOrder rfl (by decide) forced_indexed hunarmed hrun
    (rejected_undisturbed marker body)
  rw [List.append_assoc]
  rfl

end Sample

end Sync
end Cara
