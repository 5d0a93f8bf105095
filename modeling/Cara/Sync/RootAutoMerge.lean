import Cara.Sync.ForceMerge
import Cara.Sync.RootAuthority

/-! Squash auto-merge of an admitted root. It is armed and read back on the exact head that the tick
verified, a bounded number of times. -/
namespace Cara
namespace Sync

open Prog (Meets recordWhere)

section Asked

/-- The last answer shows the pull request as the snapshot. -/
def LastShown (t : Talk) (s : PullRequestSnapshot) : Prop :=
  ∃ before e,t = before ++ [e] ∧ (e.2 = .pullRequest s ∨ ∃ r : GitHubMutationReceipt,
    e.2 = .receipt r ∧ r.after = s)

def isArming : SyncRequest → Bool
  | .enableSquashAutoMerge .. => true
  | _ => false

def isDisarming : SyncRequest → Bool
  | .disableAutoMerge .. => true
  | _ => false

def armings (t : Talk) : ℕ := t.countP fun e => isArming e.1

def disarmings (t : Talk) : ℕ := t.countP fun e => isDisarming e.1

/-- What may be asked behind a conversation: the two writes are bound to the snapshot that was shown
last, a merge method is taken away only when it is another one, and squash is armed at most so many
times, never over an enabled method that was not taken away right before. -/
def MayArm (t : Talk) : SyncRequest → Prop
  | .enableSquashAutoMerge _ expected => armings t < rootAutoMergeArmingAttempts ∧
      ∃ s,LastShown t s ∧ expected = .ofSnapshot s ∧ (s.autoMerge.enabled = false ∨
        ∃ e ∈ t.getLast?,isDisarming e.1 = true)
  | .disableAutoMerge _ expected => armings t < rootAutoMergeArmingAttempts ∧
      ∃ s,LastShown t s ∧ expected = .ofSnapshot s ∧ s.autoMerge.enabled = true ∧ squashArmed s = false
  | q => Reading q

/-- Answers about a pull request carry its number. -/
def AboutRoot : SyncRequest → SyncAnswer → Prop
  | .refetchPullRequest _ number,.pullRequest s => s.number = number
  | .enableSquashAutoMerge _ expected,.receipt r => r.after.number = expected.number
  | .disableAutoMerge _ expected,.receipt r => r.after.number = expected.number
  | _,_ => True

structure Counted (t : Talk) (arms disarms : ℕ) : Prop where
  arms : armings t = arms
  disarms : disarmings t = disarms

/-- What the tick keeps of the root is what was shown last. -/
structure Faced (number : PrNumber) (t : Talk) (p : SyncProgress) (s : PullRequestSnapshot)
    (arms disarms : ℕ) : Prop extends Counted t arms disarms where
  current : p.current[number]? = some s
  shown : LastShown t s
  number : s.number = number

end Asked

section Heard

variable {repository : RepositoryId} {number : PrNumber} {h : Talk} {p : SyncProgress}
  {observed : PullRequestSnapshot} {arms disarms : ℕ}

theorem MayArm.reading (t : Talk) (q : SyncRequest) (hq : Reading q) : MayArm t q := by
  cases q <;> first | exact hq | exact hq.elim

theorem LastShown.pullRequest (q : SyncRequest) (s : PullRequestSnapshot) :
    LastShown (h ++ [(q,.pullRequest s)]) s := ⟨h,_,rfl,.inl rfl⟩

theorem LastShown.receipt (q : SyncRequest) (r : GitHubMutationReceipt) :
    LastShown (h ++ [(q,.receipt r)]) r.after := ⟨h,_,rfl,.inr ⟨r,rfl,rfl⟩⟩

theorem Counted.append {e : SyncRequest × SyncAnswer} (hcounted : Counted h arms disarms) :
    Counted (h ++ [e]) (arms + if isArming e.1 then 1 else 0)
      (disarms + if isDisarming e.1 then 1 else 0) where
  arms := by
    rw [armings,List.countP_append,List.countP_singleton]
    exact congrArg (· + _) hcounted.arms
  disarms := by
    rw [disarmings,List.countP_append,List.countP_singleton]
    exact congrArg (· + _) hcounted.disarms

theorem refetch_counted (hcounted : Counted h arms disarms) :
    Meets (recordWhere AboutRoot) MayArm (refetchPullRequest repository number)
      (fun h' s p' => p' = p ∧ s.number = number ∧ LastShown h' s ∧ Counted h' arms disarms)
      (fun _ _ => True) h p := by
  apply (refetch_heard MayArm.reading number).mono
  · rintro h' s p' ⟨rfl,hfit,rfl⟩
    exact ⟨rfl,hfit,.pullRequest _ s,hcounted.append⟩
  · exact fun _ _ _ => trivial

theorem rereadHead_counted (expected : CommitOid) (left : ℕ) (hcounted : Counted h arms disarms)
    (hshown : LastShown h observed) (hnumber : observed.number = number) :
    Meets (recordWhere AboutRoot) MayArm (rereadHead repository number expected left observed)
      (fun h' r p' => p' = p ∧ r.1.number = number ∧ LastShown h' r.1 ∧ Counted h' arms disarms)
      (fun _ _ => True) h p := by
  induction left generalizing h observed with
  | zero => exact .pure ⟨rfl,hnumber,hshown,hcounted⟩
  | succ left ih =>
    rw [rereadHead]
    split
    · exact .pure ⟨rfl,hnumber,hshown,hcounted⟩
    · apply (refetch_counted hcounted).bind
      rintro h' again p' ⟨rfl,hagain,hlast,hnext⟩
      apply (ih hnext hlast hagain).bind
      rintro h'' r p'' ⟨rfl,hr,hrlast,hrest⟩
      exact .pure ⟨rfl,hr,hrlast,hrest⟩

theorem see_current (s : PullRequestSnapshot) : (p.see number s).current[number]? = some s := by
  rw [SyncProgress.see,Std.ExtTreeMap.getElem?_insert]
  simp

/-- The generation that was read is the one that the tick had verified. -/
theorem readExactRootGeneration_faced (defaultBranch : String) :
    Meets (recordWhere AboutRoot) MayArm (readExactRootGeneration repository number defaultBranch)
      (fun h' r p' => Faced number h' p' r.1 0 0 ∧
        ∀ s,p.current[number]? = some s → r.1.head.oid = s.head.oid) (fun _ _ => True) [] p := by
  apply get_heard.bind
  rintro h v p' ⟨rfl,rfl,rfl⟩
  apply (refetch_counted (⟨rfl,rfl⟩ : Counted [] 0 0)).bind
  rintro h first p' ⟨rfl,hfirst,hlast,hcounted⟩
  dsimp only
  split
  case h_1 hnone =>
    apply (modify_heard _).bind
    rintro h' - p' ⟨rfl,rfl⟩
    refine .pure ⟨⟨hcounted,see_current first,hlast,hfirst⟩,?_⟩
    intro s hs
    rw [hnone] at hs
    cases hs
  case h_2 previous hprevious =>
    apply (rereadHead_counted _ _ hcounted hlast hfirst).bind
    rintro h' r p' ⟨rfl,hr,hrlast,hrcounted⟩
    split
    case isTrue => exact .throw trivial
    case isFalse hsame =>
      split
      · exact .throw trivial
      · apply (modify_heard _).bind
        rintro h'' - p' ⟨rfl,rfl⟩
        refine .pure ⟨⟨hrcounted,see_current r.1,hrlast,hr⟩,?_⟩
        intro s hs
        rw [hprevious] at hs
        cases hs
        exact not_not.mp hsame

theorem rereadArmed_faced (targetHead : CommitOid) (left : ℕ)
    (hfaced : Faced number h p observed arms disarms) :
    Meets (recordWhere AboutRoot) MayArm (rereadArmed repository number targetHead left observed)
      (fun h' s p' => Faced number h' p' s arms disarms) (fun _ _ => True) h p := by
  induction left generalizing h observed p with
  | zero => exact .pure hfaced
  | succ left ih =>
    rw [rereadArmed]
    split
    · exact .pure hfaced
    · apply (refetch_counted hfaced.toCounted).bind
      rintro h' again p' ⟨rfl,hagain,hlast,hnext⟩
      apply (modify_heard _).bind
      rintro h'' - p' ⟨rfl,rfl⟩
      exact ih ⟨hnext,see_current again,hlast,hagain⟩

/-- A write about the snapshot that was shown last shows the one behind it. -/
theorem write_faced {α : Type} {Q : Talk → α → SyncProgress → Prop} {k : GitHubMutationReceipt → SyncM α}
    (q : PullRequestPrecondition → SyncRequest) (summary : String)
    (hfaced : Faced number h p observed arms disarms) (hmay : MayArm h (q (.ofSnapshot observed)))
    (habout : ∀ r,AboutRoot (q (.ofSnapshot observed)) (.receipt r) → r.after.number = observed.number)
    (hk : ∀ receipt h' p',(∃ e ∈ h'.getLast?,e.1 = q (.ofSnapshot observed)) →
      Faced number h' p' receipt.after (arms + if isArming (q (.ofSnapshot observed)) then 1 else 0)
        (disarms + if isDisarming (q (.ofSnapshot observed)) then 1 else 0) →
      Meets (recordWhere AboutRoot) MayArm (k receipt) Q (fun _ _ => True) h' p') :
    Meets (recordWhere AboutRoot) MayArm (do
        ensureMutationCapacity 1
        let expected ← preconditionOf number
        let receipt ← ask (q expected) (some number) SyncAnswer.receipt?
        modify (·.record receipt summary)
        k receipt) Q (fun _ _ => True) h p := by
  apply (ensureMutationCapacity_heard 1).bind
  rintro h - p ⟨rfl,rfl⟩
  apply (preconditionOf_heard number).bind
  rintro h e p ⟨rfl,rfl,s,hs,rfl⟩
  cases hs.symm.trans hfaced.current
  apply (ask_heard hmay).bind
  rintro h' receipt p' ⟨rfl,a,hfit,rfl,ha⟩
  rw [receipt?_eq_some.mp ha] at hfit ⊢
  have hnumber := (habout receipt hfit).trans hfaced.number
  apply (modify_heard _).bind
  rintro h' - p' ⟨rfl,rfl⟩
  refine hk receipt _ _ ⟨_,List.getLast?_concat,rfl⟩ ⟨hfaced.toCounted.append,?_,.receipt _ receipt,hnumber⟩
  rw [← hnumber]
  exact see_current receipt.after

theorem disarm_faced (summary : String) (hfaced : Faced number h p observed arms disarms)
    (harms : arms < rootAutoMergeArmingAttempts) (henabled : observed.autoMerge.enabled = true)
    (hunarmed : squashArmed observed = false) :
    Meets (recordWhere AboutRoot) MayArm (disarm repository number summary)
      (fun h' _ p' => ∃ s,Faced number h' p' s arms (disarms + 1) ∧
        ∃ e ∈ h'.getLast?,isDisarming e.1 = true) (fun _ _ => True) h p := by
  have hmay : MayArm h (.disableAutoMerge repository (.ofSnapshot observed)) :=
    ⟨hfaced.arms ▸ harms,observed,hfaced.shown,rfl,henabled,hunarmed⟩
  refine write_faced (k := fun _ => pure ()) (.disableAutoMerge repository) summary hfaced hmay
    (fun _ hr => hr) ?_
  rintro receipt h' p' ⟨e,he,hq⟩ hlast
  exact .pure ⟨receipt.after,hlast,e,he,hq ▸ rfl⟩

/-- One attempt arms once and takes away at most once. -/
theorem armRootOnce_faced (hfaced : Faced number h p observed arms disarms)
    (harms : arms < rootAutoMergeArmingAttempts) (hunarmed : squashArmed observed = false) :
    Meets (recordWhere AboutRoot) MayArm (armRootOnce repository number observed)
      (fun h' s p' => ∃ taken ≤ 1,Faced number h' p' s (arms + 1) (disarms + taken))
      (fun _ _ => True) h p := by
  have harm : ∀ {h p s disarms},Faced number h p s arms disarms → (s.autoMerge.enabled = false ∨
      ∃ e ∈ h.getLast?,isDisarming e.1 = true) →
      Meets (recordWhere AboutRoot) MayArm (do
        ensureMutationCapacity 1
        let expected ← preconditionOf number
        let receipt ← ask (.enableSquashAutoMerge repository expected) (some number) SyncAnswer.receipt?
        modify (·.record receipt
          "armed scheduler-owned squash auto-merge on the exact caravan root head")
        rereadArmed repository number observed.head.oid (rootAutoMergeConfirmationReads - 1) receipt.after)
      (fun h' s p' => Faced number h' p' s (arms + 1) disarms) (fun _ _ => True) h p := by
    intro h p s disarms hfaced hclear
    have hmay : MayArm h (.enableSquashAutoMerge repository (.ofSnapshot s)) :=
      ⟨hfaced.arms ▸ harms,s,hfaced.shown,rfl,hclear⟩
    exact write_faced _ _ hfaced hmay (fun _ hr => hr)
      fun _ _ _ _ hlast => rereadArmed_faced _ _ hlast
  unfold armRootOnce
  split
  case isTrue henabled =>
    apply (disarm_faced _ hfaced harms henabled hunarmed).bind
    rintro h' - p' ⟨s,hlast,htaken⟩
    exact (harm hlast (.inr htaken)).mono (fun h s p hend => ⟨1,le_rfl,hend⟩) fun _ _ _ => trivial
  case isFalse hdisabled =>
    have hclear := Bool.eq_false_iff.mpr hdisabled
    exact (harm hfaced (.inl hclear)).mono (fun h s p hend => ⟨0,Nat.zero_le 1,hend⟩) fun _ _ _ => trivial

/-- Every attempt stays on the head that it started from. -/
theorem armRoot_faced (left : ℕ) (hfaced : Faced number h p observed arms disarms)
    (harms : arms + left ≤ rootAutoMergeArmingAttempts) (hunarmed : squashArmed observed = false)
    (hpaired : disarms ≤ arms) :
    Meets (recordWhere AboutRoot) MayArm (armRoot repository number left observed)
      (fun h' s p' => s.head.oid = observed.head.oid ∧ squashArmed s = true ∧
        ∃ arms' disarms',arms < arms' ∧ arms' ≤ arms + left ∧ disarms' ≤ arms' ∧
          Faced number h' p' s arms' disarms') (fun _ _ => True) h p := by
  induction left generalizing h p observed arms disarms with
  | zero => exact .throw trivial
  | succ left ih =>
    rw [armRoot]
    apply (armRootOnce_faced hfaced (by omega) hunarmed).bind
    rintro h' s p' ⟨taken,htaken,honce⟩
    split
    case isTrue => exact .throw trivial
    case isFalse hsame =>
      split
      case isTrue harmed =>
        exact .pure ⟨not_not.mp hsame,harmed,arms + 1,disarms + taken,by omega,by omega,by omega,honce⟩
      case isFalse hagain =>
        apply (ih honce (by omega) (Bool.eq_false_iff.mpr hagain) (by omega)).mono
        · rintro h'' s' p'' ⟨hhead,harmed,arms',disarms',hpos,hbound,hle,hlast⟩
          exact ⟨hhead.trans (not_not.mp hsame),harmed,arms',disarms',by omega,by omega,hle,hlast⟩
        · exact fun _ _ _ => trivial

end Heard

section Exact

/-- What a tick that ends without an error stands for, given the conversation that it had. -/
structure RootArmed (number : PrNumber) (p : SyncProgress) (t : Talk) (p' : SyncProgress)
    (s : PullRequestSnapshot) : Prop where
  shown : LastShown t s
  armed : squashArmed s = true
  about : s.number = number
  current : p'.current[number]? = some s
  verified : ∀ before,p.current[number]? = some before → s.head.oid = before.head.oid
  attempts : armings t ≤ rootAutoMergeArmingAttempts
  paired : disarmings t ≤ armings t
  kept : (p'.rootAutoMerge.filter fun row => decide (row.1 = number)) = [(number,s.head.oid)]

variable {repository : RepositoryId} {number : PrNumber} {discovery : Option PullRequestSnapshot}
  {rewrittenHead : Option CommitOid} {h t : Talk} {p p' : SyncProgress} {observed : PullRequestSnapshot}
  {arms disarms : ℕ}

theorem pushRootAutoMerge_armed (hfaced : Faced number h p' observed arms disarms)
    (harmed : squashArmed observed = true)
    (hverified : ∀ s,p.current[number]? = some s → observed.head.oid = s.head.oid)
    (hbound : arms ≤ rootAutoMergeArmingAttempts) (hpaired : disarms ≤ arms) :
    RootArmed number p h (pushRootAutoMerge p' observed) observed where
  shown := hfaced.shown
  armed := harmed
  about := hfaced.number
  current := hfaced.current
  verified := hverified
  attempts := hfaced.arms ▸ hbound
  paired := hfaced.disarms ▸ hfaced.arms ▸ hpaired
  kept := by
    rw [pushRootAutoMerge,hfaced.number,List.filter_append,List.filter_filter]
    simp

theorem classifyTrigger_armed {proven : Option CommitOid} :
    (classifyTrigger discovery observed rewrittenHead proven).requiresWrite = false ↔
      squashArmed observed = true := by
  unfold classifyTrigger RootAutoMergeTrigger.requiresWrite
  rw [decide_eq_false_iff_not,not_not]
  constructor
  · intro htrigger
    split at htrigger
    · assumption
    · repeat' split at htrigger
      all_goals cases htrigger
  · intro harmed
    rw [if_pos harmed]

theorem ensureRootSquashAutoMerge_armed :
    Meets (recordWhere AboutRoot) MayArm
      (ensureRootSquashAutoMerge repository number discovery rewrittenHead)
      (fun h' _ p' => ∃ s,RootArmed number p h' p' s) (fun _ _ => True) [] p := by
  apply get_heard.bind
  rintro h v q ⟨rfl,rfl,rfl⟩
  apply (readExactRootGeneration_faced _).bind
  rintro h r p' ⟨hfaced,hverified⟩
  apply get_heard.bind
  rintro h' v q ⟨rfl,rfl,rfl⟩
  dsimp only
  split
  case isTrue hidle =>
    have harmed := classifyTrigger_armed.mp hidle
    apply (modify_heard _).bind
    rintro h' - q ⟨rfl,rfl⟩
    apply (modify_heard _).mono
    · rintro h' - q ⟨rfl,rfl⟩
      have hkept : Faced number h' (q.already .enableAutoMerge number
          "exact current caravan root head already carries required squash auto-merge") r.1 0 0 :=
        ⟨hfaced.toCounted,hfaced.current,hfaced.shown,hfaced.number⟩
      exact ⟨r.1,pushRootAutoMerge_armed hkept harmed hverified (Nat.zero_le _) le_rfl⟩
    · exact fun _ _ _ => trivial
  case isFalse hwrite =>
    have hunarmed : squashArmed r.1 = false :=
      Bool.eq_false_iff.mpr fun harmed => hwrite (classifyTrigger_armed.mpr harmed)
    apply (armRoot_faced rootAutoMergeArmingAttempts hfaced (by omega) hunarmed le_rfl).bind
    rintro h' s q ⟨hhead,harmed,arms,disarms,-,hbound,hpaired,hlast⟩
    rw [Nat.zero_add] at hbound
    apply (modify_heard _).mono
    · rintro h' - q ⟨rfl,rfl⟩
      exact ⟨s,pushRootAutoMerge_armed hlast harmed (fun s hs => hhead.trans (hverified s hs)) hbound
        hpaired⟩
    · exact fun _ _ _ => trivial

/-- Whatever the provider answers: every request of the convergence is permitted by what was shown
before it, and its end without an error stands for squash auto-merge that was shown last, on the head
that the tick had verified. -/
theorem ensureRootSquashAutoMerge_exact {r : Option (Except SyncError (Unit × SyncProgress))}
    (hrun : Prog.Run Prog.record ((ensureRootSquashAutoMerge repository number discovery
      rewrittenHead).run p).run [] r t) (habout : ∀ e ∈ t,AboutRoot e.1 e.2) :
    (∀ before q a after,t = before ++ (q,a)::after → MayArm before q) ∧
    ∀ p',r = some (.ok ((),p')) → ∃ s,RootArmed number p t p' s := by
  have hgives := (@ensureRootSquashAutoMerge_armed repository number discovery rewrittenHead p).gives
  constructor
  · intro before q a after ht
    exact hgives.requests hrun habout ht
  · rintro p' rfl
    exact hgives.run (hrun.where habout)

/-- A root without auto-merge, armed once and shown armed by the receipt. -/
def armingTalk : Talk := [
  (.refetchPullRequest acme 1,.pullRequest evictedRoot),
  (.enableSquashAutoMerge acme (.ofSnapshot evictedRoot),.receipt
    ⟨.enableAutoMerge,none,{ evictedRoot with autoMerge := ⟨true,some .squash,none⟩ },none⟩)]

theorem ensureRootSquashAutoMerge_exact_one : ∃ p' s,RootArmed 1 evictedProgress armingTalk p' s := by
  have hreplay : ((((ensureRootSquashAutoMerge acme 1 none none).run evictedProgress).run.replay
      (armingTalk.map Prod.snd)).map fun x => (x.1.map fun r => r.toOption.isSome,x.2)) =
        some (some true,armingTalk) := by decide +kernel
  obtain ⟨⟨r,t⟩,hr,heq⟩ := Option.map_eq_some_iff.mp hreplay
  obtain ⟨hresult,rfl⟩ := Prod.mk.inj (Option.some_inj.mp (congrArg some heq))
  obtain ⟨e,rfl,he⟩ := Option.map_eq_some_iff.mp hresult
  cases e with
  | error e => cases he
  | ok x =>
    have habout : ∀ e ∈ armingTalk,AboutRoot e.1 e.2 :=
      List.forall_mem_cons.mpr ⟨rfl,List.forall_mem_singleton.mpr rfl⟩
    exact ⟨x.2,(ensureRootSquashAutoMerge_exact (Prog.run_of_replay hr []) habout).2 x.2 rfl⟩

end Exact

end Sync
end Cara
