import Cara.Sync.NativeLandRetirement

/-! Unsubmitted landings over ticks. Neither the pass at the start of a tick nor a drain has an
exit for a plan that is not submitted yet, so a stale one stays with its lock. -/
namespace Cara
namespace Sync

open Github (StackLandCheckpoint StackAsyncMergePlan StackEntryGeneration StackBranchLockGeneration
  StackLandPhase Wire)
open Prog (Gives Meets Only Uses Run)

def Stale (entry : StackEntryGeneration) (snapshot : PullRequestSnapshot) : Prop :=
  snapshot.head ≠ entry.head ∨ snapshot.base ≠ entry.base ∨ snapshot.state ≠ .open ∨
    snapshot.isActiveCaravanMember = false

theorem Stale.unqualified {entry : StackEntryGeneration} {snapshot : PullRequestSnapshot}
    (h : Stale entry snapshot) (held : List PrNumber) : entryQualifies held entry snapshot = false := by
  unfold entryQualifies
  obtain h | h | h | h := h <;> simp [h]

def ShowsStale (log : Log) (plan : StackAsyncMergePlan) : Prop :=
  ∃ entry ∈ plan.selected,∃ repository snapshot,
    (SyncRequest.refetchPullRequest repository entry.pr,SyncAnswer.pullRequest snapshot) ∈ log ∧
      Stale entry snapshot

def StaleThroughout (log : Log) (plan : StackAsyncMergePlan) : Prop :=
  ∃ entry ∈ plan.selected,∀ repository snapshot,
    (SyncRequest.refetchPullRequest repository entry.pr,SyncAnswer.pullRequest snapshot) ∈ log →
      Stale entry snapshot

def Unsubmitted (c : StackLandCheckpoint) : Prop := c.phase = .planned ∨ c.phase = .locked

inductive Drains (w : SyncWire) : Site → Site → Prop
  | nil (s : Site) : Drains w s s
  | cons {s t u : Site} (status : StatusOutput) (caravan : Caravan) (stackNumber : ℕ)
      (config : Config.CaravanConfig) (p : SyncProgress) (r : Unit × SyncProgress) :
      Run (Site.Step w.toWire) ((drainNativeStack w status caravan stackNumber config).run p).run s
        (some (.ok r)) t → Drains w t u → Drains w s u

/-- One completed tick of a checkout: the pass over its checkpoints, then drains. -/
inductive Tick (w : SyncWire) (files : Files) (log : Log) (files' : Files) : Prop
  | run (status : StatusOutput) (config : Config.CaravanConfig) (changed : Bool) (t : Site) :
      Run (Site.Step w.toWire) (reconcilePendingNativeStackLandingCheckpoints w.toWire status config).run
        ⟨files,[]⟩ (some (.ok changed)) t → Drains w t ⟨files',log⟩ → Tick w files log files'

/-- Ticks one after another. What happens outside the checkout shows in what they read. -/
inductive Ticks (w : SyncWire) : Files → List Log → Files → Prop
  | nil (files : Files) : Ticks w files [] files
  | cons {files mid files' : Files} {log : Log} {logs : List Log} :
      Tick w files log mid → Ticks w mid logs files' → Ticks w files (log::logs) files'

section Pass

variable {w : Wire} {status : StatusOutput} {s : Site} {n : ℕ} {c : StackLandCheckpoint}

def Calm (c : StackLandCheckpoint) : SyncRequest → Prop
  | .deleteStackBranchLock _ lock => ∀ own,c.outstandingLock = some own → lock.name ≠ own.name
  | _ => True

structure StillHeld (n : ℕ) (c : StackLandCheckpoint) (s : Site) : Prop where
  file : s.files (landKey n) = some c
  calm : ∀ row ∈ s.log,Calm c row.1

theorem StillHeld.grow {s' : Site} (h : StillHeld n c s) (hfile : s'.files (landKey n) = some c)
    (hlog : Grew (Calm c) s.log s'.log) : StillHeld n c s' := by
  refine ⟨hfile,?_⟩
  obtain ⟨rows,hrows,hcalm⟩ := hlog
  intro row hrow
  rw [hrows] at hrow
  obtain hrow | hrow := List.mem_append.mp hrow
  · exact h.calm row hrow
  · exact hcalm row hrow

theorem StillHeld.others {α : Type} {m : SyncIo α} (h : StillHeld n c s)
    (hm : Only (fun q => Spares n q ∧ Calm c q) m) :
    Gives (Site.Step w) Free m (fun s' _ => StillHeld n c s') (fun s' _ => StillHeld n c s') s :=
  hm.keeps (I := StillHeld n c) (fun _ _ _ _ => trivial)
    (fun s q a s' hq (hstep : Site.Step w s q a s') hs =>
      hs.grow ((hstep.spares hq.1).trans hs.file) (.single hstep.log hq.2)) h

theorem serves_calm {key : String} (h : key ≠ landKey n) :
    Serves status (fun q => Spares n q ∧ Calm c q) key := by
  have hserves : Serves status (Spares n) key := serves_spares h
  exact {
    load := ⟨hserves.load,trivial⟩
    archive := fun operation c => ⟨hserves.archive operation c,trivial⟩
    write := fun c => ⟨hserves.write c,trivial⟩
    retired := fun c c' => ⟨hserves.retired c c',trivial⟩
    remove := ⟨hserves.remove,trivial⟩
    poll := fun c => ⟨hserves.poll c,trivial⟩
    release := fun c hc => ⟨hserves.release c hc,trivial⟩
    reobserve := fun c => ⟨hserves.reobserve c,trivial⟩ }

/-- The pass saves an unsubmitted checkpoint as it is and moves on. -/
theorem reconcileCheckpoint_held {key : String} (h : StillHeld n c s) (hphase : Unsubmitted c) :
    Gives (Site.Step w) Free (reconcileCheckpoint w status key)
      (fun s' _ => StillHeld n c s') (fun _ _ => True) s := by
  by_cases hkey : key = landKey n
  · rw [hkey]
    apply Gives.bind (K := fun s' stored => StillHeld n c s' ∧ stored = some c)
    · apply gives_load trivial
      · intro s' hfiles hlog
        exact ⟨h.grow (hfiles ▸ h.file) (hlog.mono fun q hq => by rw [hq]; trivial),h.file⟩
      · exact fun _ _ _ _ => trivial
    intro s stored h
    obtain ⟨h,hstored⟩ := h
    rw [hstored]
    dsimp only
    split
    · exact Gives.pure h
    · apply Gives.bind (K := fun s' _ => StillHeld n c s')
      · apply gives_saveNative trivial (fun _ _ _ => trivial)
        · intro s' hfiles hlog
          refine h.grow (by rw [hfiles,Function.update_self]) (hlog.mono ?_)
          intro q hq
          obtain hq | hq := hq <;> rw [hq] <;> trivial
        · exact fun _ _ _ _ => trivial
      intro s _ h
      have hpoll : pollAndFinalize w status (landKey n) 5 c = pure c := by
        unfold pollAndFinalize advancePending
        obtain hphase | hphase := hphase <;> rw [hphase] <;> rfl
      apply Gives.bind (K := fun s' c' => StillHeld n c s' ∧ c' = c)
      · rw [hpoll]
        exact Gives.pure ⟨h,rfl⟩
      intro s c' h
      rw [h.2,if_neg (by obtain hphase | hphase := hphase <;> rw [hphase] <;> decide)]
      exact Gives.pure h.1
  · exact (h.others (reconcileCheckpoint_only w (serves_calm hkey))).mono (fun _ _ h => h)
      fun _ _ _ => trivial

theorem reconcileKeys_held (keys : List String) (h : StillHeld n c s) (hphase : Unsubmitted c) :
    Gives (Site.Step w) Free (reconcileKeys w status keys)
      (fun s' _ => StillHeld n c s') (fun _ _ => True) s := by
  induction keys generalizing s with
  | nil => exact Gives.pure h
  | cons key keys ih =>
    apply Gives.bind (reconcileCheckpoint_held h hphase)
    intro s changed h
    exact Gives.bind (ih h) fun s rest h => Gives.pure h

theorem liveLockNames_held (keys : List String) (h : StillHeld n c s) :
    Gives (Site.Step w) Free (liveLockNames keys) (fun s' live => StillHeld n c s' ∧
      (landKey n ∈ keys → ∀ own,c.outstandingLock = some own → own.name ∈ live))
      (fun _ _ => True) s := by
  induction keys generalizing s with
  | nil => exact Gives.pure ⟨h,fun hmem => by cases hmem⟩
  | cons key keys ih =>
    apply Gives.bind (K := fun s' stored => StillHeld n c s' ∧ (key = landKey n → stored = some c))
    · apply gives_load trivial
      · intro s' hfiles hlog
        refine ⟨h.grow (hfiles ▸ h.file) (hlog.mono fun q hq => by rw [hq]; trivial),?_⟩
        intro hkey
        rw [hkey]
        exact h.file
      · exact fun _ _ _ _ => trivial
    intro s stored h
    apply Gives.bind (K := fun s' names => (StillHeld n c s' ∧
      (landKey n ∈ keys → ∀ own,c.outstandingLock = some own → own.name ∈ names)) ∧
        (key = landKey n → stored = some c))
    · apply (ih h.1).mono
      · exact fun s' names hnames => ⟨hnames,h.2⟩
      · exact fun _ _ _ => trivial
    intro s names h
    obtain ⟨⟨hheld,hrest⟩,hstored⟩ := h
    refine Gives.pure ⟨hheld,?_⟩
    intro hmem own hown
    obtain hkey | hmem := List.mem_cons.mp hmem
    · rw [hstored hkey.symm]
      exact List.mem_append_left _ (by simp [hown])
    · exact List.mem_append_right _ (hrest hmem own hown)

theorem cleanUpOrphanLocks_held (h : StillHeld n c s) :
    Gives (Site.Step w) Free (cleanUpOrphanLocks status) (fun s' _ => StillHeld n c s')
      (fun _ _ => True) s := by
  apply Gives.bind (K := fun s' _ => StillHeld n c s')
  · apply gives_call trivial
    · exact fun a s' r hstep hfiles _ _ => h.grow (hfiles ▸ h.file) (.single hstep.log trivial)
    · exact fun _ _ _ _ => trivial
  intro s locks h
  apply Gives.bind (K := fun s' keys => StillHeld n c s' ∧ landKey n ∈ keys)
  · apply gives_call trivial
    · intro a s' r hstep hfiles htruth hvalue
      obtain ⟨keys,hanswer,hkeys⟩ := htruth
      rw [hanswer] at hvalue
      cases hvalue
      refine ⟨h.grow (hfiles ▸ h.file) (.single hstep.log trivial),?_⟩
      exact (hkeys _).mpr ⟨landKey_listed n,by rw [h.file]; rfl⟩
    · exact fun _ _ _ _ => trivial
  intro s keys h
  apply Gives.bind (K := fun s' live => StillHeld n c s' ∧
    ∀ own,c.outstandingLock = some own → own.name ∈ live)
  · apply (liveLockNames_held keys h.1).mono
    · exact fun s' live hlive => ⟨hlive.1,hlive.2 h.2⟩
    · exact fun _ _ _ => trivial
  intro s live h
  apply (h.1.others (deleteOrphans_only ?_ locks)).mono (fun _ _ h => h) fun _ _ _ => trivial
  intro lock hlock
  refine ⟨by simp [Spares,SyncRequest.touches],?_⟩
  intro own hown hname
  exact hlock (hname ▸ h.2 own hown)

theorem reconcilePending_held {config : Config.CaravanConfig} (h : StillHeld n c s)
    (hphase : Unsubmitted c) :
    Gives (Site.Step w) Free (reconcilePendingNativeStackLandingCheckpoints w status config)
      (fun s' _ => StillHeld n c s') (fun _ _ => True) s := by
  unfold reconcilePendingNativeStackLandingCheckpoints
  split
  · exact Gives.pure h
  · apply Gives.bind (K := fun s' _ => StillHeld n c s')
    · apply gives_call trivial
      · exact fun a s' r hstep hfiles _ _ => h.grow (hfiles ▸ h.file) (.single hstep.log trivial)
      · exact fun _ _ _ _ => trivial
    intro s keys h
    apply Gives.bind (reconcileKeys_held keys h hphase)
    intro s changed h
    split
    · exact Gives.bind (cleanUpOrphanLocks_held h) fun s _ h => Gives.pure h
    · exact Gives.pure h

end Pass

section Drain

variable {w : SyncWire} {n : ℕ} {c : StackLandCheckpoint}

/-- A checkpoint of the same plan; while its entry is stale it is at most locked since. -/
def StaysPut (c : StackLandCheckpoint) (log : Log) (c' : StackLandCheckpoint) : Prop :=
  c'.plan = c.plan ∧ (StaleThroughout log c.plan → c' = c ∨ (c.phase = .planned ∧ c'.phase = .locked))

theorem StaleThroughout.before {log log' : Log} {plan : StackAsyncMergePlan} (hlog : log <+: log')
    (h : StaleThroughout log' plan) : StaleThroughout log plan := by
  obtain ⟨entry,hentry,hstale⟩ := h
  exact ⟨entry,hentry,fun repository snapshot hread => hstale repository snapshot (hlog.subset hread)⟩

theorem nativeStackLandLock_phase {w : Wire} {repository : RepositoryId} {c c' : StackLandCheckpoint}
    (hphase : c.phase = .planned) (h : Returns (Github.nativeStackLandLock w repository c) c') :
    c'.phase = .locked := by
  have hcalls : Prog.Calls (fun _ => True) (Github.nativeStackLandLock w repository c)
      fun r => ∀ c',r = .ok c' → c'.phase = .locked := by
    apply Prog.Calls.bind (m := fun _ => True)
    · apply Prog.Calls.mono (Prog.only_all (Prog.ofResult (Github.validateLand w repository c)))
      intro r _
      cases r with
      | ok u => trivial
      | error e => exact fun c' hc' => by cases hc'
    intro _ _
    rw [if_neg (by rw [hphase]; decide)]
    apply Prog.Calls.bind (m := fun _ => True)
    · apply Prog.Calls.mono (Prog.only_all (Prog.mapError Github.StackLandError.lock
        (Github.nativeStackBranchLockAcquire w repository c.plan.branchLockPlan)))
      intro r _
      cases r with
      | ok receipt => trivial
      | error e => exact fun c' hc' => by cases hc'
    intro receipt _
    split
    · exact fun c' hc' => by cases hc'
    · intro c' hc'
      cases hc'
      rfl
  obtain ⟨t,hrun⟩ := h
  exact (hcalls.holds (fun _ _ _ => trivial) (fun _ => trivial) []).run hrun |>.2 c' rfl

/-- No phase takes an unsubmitted stale plan any further than its lock. -/
theorem staysPut_closed (status : StatusOutput) (hphase : Unsubmitted c) :
    LandClosed w status (StaysPut c) where
  mono log log' c' hlog h := ⟨h.1,fun hstale => h.2 (hstale.before hlog)⟩
  locked log c' c'' hplanned h hreturns := by
    have hplan : c''.plan = c'.plan := by
      obtain ⟨_,hrun⟩ := hreturns
      exact ((nativeStackLandLock_plan w.toWire).holds (fun _ _ _ => trivial)
        (fun _ => trivial) []).run hrun |>.2 c'' rfl
    refine ⟨hplan.trans h.1,?_⟩
    intro hstale
    have hlocked := nativeStackLandLock_phase hplanned hreturns
    obtain hsame | ⟨_,hother⟩ := h.2 hstale
    · exact .inr ⟨hsame ▸ hplanned,hlocked⟩
    · rw [hplanned] at hother
      cases hother
  marked log c' c'' _ h hqualified hmarked := by
    refine ⟨(marked_plan hmarked).trans h.1,?_⟩
    intro hstale
    obtain ⟨entry,hentry,hread⟩ := hstale
    rw [h.1] at hqualified
    obtain ⟨snapshot,hmem,hqualifies⟩ := hqualified entry hentry
    rw [(hread _ snapshot hmem).unqualified] at hqualifies
    cases hqualifies
  moved log c' c'' hrank h hplan := by
    refine ⟨hplan.trans h.1,?_⟩
    intro hstale
    -- a stale plan never reaches these phases
    have hlow : c'.phase = .planned ∨ c'.phase = .locked := by
      obtain hsame | ⟨_,hlocked⟩ := h.2 hstale
      · rw [hsame]
        exact hphase
      · exact .inr hlocked
    obtain hlow | hlow := hlow <;> rw [hlow] at hrank <;> exact absurd hrank (by decide)

structure Remains (n : ℕ) (c : StackLandCheckpoint) (s : Site) : Prop where
  file : ∃ c',s.files (landKey n) = some c' ∧ StaysPut c s.log c'
  calm : ∀ row ∈ s.log,Calm c row.1

theorem StillHeld.remains {s : Site} (h : StillHeld n c s) : Remains n c s :=
  ⟨⟨c,h.file,rfl,fun _ => .inl rfl⟩,h.calm⟩

theorem reading_calm (q : SyncRequest) (h : Reading q) : Calm c q := by
  cases q <;> trivial

theorem drainServes_calm (stackNumber : ℕ) : DrainServes (Calm c) stackNumber where
  reading := reading_calm
  load := trivial
  generation _ := trivial
  archive _ _ := trivial
  write _ := trivial
  lock _ _ := trivial
  submit _ _ := trivial
  poll _ _ := trivial
  release _ _ := trivial

theorem reading_spares (q : SyncRequest) (h : Reading q) : Spares n q := by
  cases q <;> first | exact h.elim | simp [Spares,SyncRequest.touches]

theorem drainServes_spares {stackNumber : ℕ} (hkey : landKey stackNumber ≠ landKey n) :
    DrainServes (Spares n) stackNumber where
  reading := reading_spares
  load := by simp [Spares,SyncRequest.touches]
  generation _ := by simp [Spares,SyncRequest.touches]
  archive _ _ := by simp [Spares,SyncRequest.touches]
  write _ := by simp [Spares,SyncRequest.touches,hkey]
  lock _ _ := by simp [Spares,SyncRequest.touches]
  submit _ _ := by simp [Spares,SyncRequest.touches]
  poll _ _ := by simp [Spares,SyncRequest.touches]
  release _ _ := by simp [Spares,SyncRequest.touches]

theorem drainNativeStack_remains {s t : Site} (h : Remains n c s) (hphase : Unsubmitted c)
    {status : StatusOutput} {caravan : Caravan} {stackNumber : ℕ} {config : Config.CaravanConfig}
    {p : SyncProgress} {r : Unit × SyncProgress}
    (hrun : Run (Site.Step w.toWire) ((drainNativeStack w status caravan stackNumber config).run p).run s
      (some (.ok r)) t) : Remains n c t := by
  have hclosed := staysPut_closed (w := w) status hphase
  obtain ⟨c',hfile,hput⟩ := h.file
  have hcalm : ∀ row ∈ t.log,Calm c row.1 := by
    have huses : Uses (Calm c) (drainNativeStack w status caravan stackNumber config) :=
      drainNativeStack_uses (drainServes_calm stackNumber) caravan config
    have hkeeps : Meets (Site.Step w.toWire) Free (drainNativeStack w status caravan stackNumber config)
        (fun s' _ _ => ∀ row ∈ s'.log,Calm c row.1) (fun s' _ => ∀ row ∈ s'.log,Calm c row.1) s p := by
      apply huses.keeps (I := fun s : Site => ∀ row ∈ s.log,Calm c row.1) (fun _ _ _ _ => trivial) _
        h.calm p
      intro s q a s' hq hstep hs row hrow
      rw [hstep.log] at hrow
      obtain hrow | hrow := List.mem_append.mp hrow
      · exact hs row hrow
      · rw [List.mem_singleton.mp hrow]
        exact hq
    exact hkeeps.holds.run hrun
  have hgrown : s.log <+: t.log :=
    (meets_grown (drainNativeStack w status caravan stackNumber config) s p).holds.run hrun
  by_cases hkey : landKey stackNumber = landKey n
  · have hstart : FileKept (landKey stackNumber) True s.log (StaysPut c) s := by
      rw [hkey]
      refine ⟨?_,?_,[],by simp,fun _ _ _ hmem => by cases hmem⟩
      · intro c'' hc''
        rw [hfile] at hc''
        cases hc''
        exact hput
      · intro _
        rw [hfile]
        rfl
    have hkept : FileKept (landKey stackNumber) True s.log (StaysPut c) t :=
      (drainNativeStack_kept hclosed p hstart caravan config (by
        intro hnone
        rw [hkey,hfile] at hnone
        cases hnone)).holds.run hrun
    rw [hkey] at hkept
    obtain ⟨c'',hc''⟩ := Option.isSome_iff_exists.mp (hkept.held trivial)
    exact ⟨⟨c'',hc'',hkept.file c'' hc''⟩,hcalm⟩
  · have huses : Uses (Spares n) (drainNativeStack w status caravan stackNumber config) :=
      drainNativeStack_uses (drainServes_spares hkey) caravan config
    have hkeeps : Meets (Site.Step w.toWire) Free (drainNativeStack w status caravan stackNumber config)
        (fun s' _ _ => s'.files (landKey n) = some c') (fun s' _ => s'.files (landKey n) = some c') s p := by
      apply huses.keeps (I := fun s : Site => s.files (landKey n) = some c') (fun _ _ _ _ => trivial) _
        hfile p
      exact fun s q a s' hq hstep hs => (hstep.spares hq).trans hs
    have hsame : t.files (landKey n) = some c' := hkeeps.holds.run hrun
    exact ⟨⟨c',hsame,hclosed.mono _ _ c' hgrown hput⟩,hcalm⟩

theorem Drains.remains {s t : Site} (h : Drains w s t) (hs : Remains n c s) (hphase : Unsubmitted c) :
    Remains n c t := by
  induction h with
  | nil s => exact hs
  | cons status caravan stackNumber config p r hrun _ ih =>
    exact ih (drainNativeStack_remains hs hphase hrun)

theorem Tick.remains {files files' : Files} {log : Log} (h : Tick w files log files')
    (hfile : files (landKey n) = some c) (hphase : Unsubmitted c) : Remains n c ⟨files',log⟩ := by
  cases h with
  | run status config changed t hpass hdrains =>
    have hstart : StillHeld n c ⟨files,[]⟩ := ⟨hfile,fun row hrow => by cases hrow⟩
    have hheld : StillHeld n c t := (reconcilePending_held hstart hphase).run hpass
    exact hdrains.remains hheld.remains hphase

/-- No checkpoint of the plan, and so no lock recorded for it, is left in the file. -/
def Unwedged (n : ℕ) (plan : StackAsyncMergePlan) (files : Files) : Prop :=
  ∀ c,files (landKey n) = some c → c.plan ≠ plan

/-- The plan is still unsubmitted in its file, with the lock it had, which no pass deleted. -/
structure Wedged (n : ℕ) (c : StackLandCheckpoint) (files : Files) (logs : List Log) : Prop where
  file : ∃ c',files (landKey n) = some c' ∧ c'.plan = c.plan ∧ Unsubmitted c' ∧
    ∀ own,c.outstandingLock = some own → c'.outstandingLock = some own
  spared : ∀ log ∈ logs,∀ row ∈ log,Calm c row.1

theorem outstandingLock_planned {c : StackLandCheckpoint} (h : c.phase = .planned) :
    c.outstandingLock = none := by
  unfold StackLandCheckpoint.outstandingLock
  rw [h]

/-- While the entry stays stale, no number of ticks moves the plan. -/
theorem Ticks.wedged {files files' : Files} {logs : List Log} (h : Ticks w files logs files')
    (hphase : Unsubmitted c) (hfile : files (landKey n) = some c)
    (hstale : ∀ log ∈ logs,StaleThroughout log c.plan) : Wedged n c files' logs := by
  induction h generalizing c with
  | nil files => exact ⟨⟨c,hfile,rfl,hphase,fun _ h => h⟩,fun log hlog => by cases hlog⟩
  | cons htick _ ih =>
    have hremains := htick.remains hfile hphase
    obtain ⟨c',hfile',hplan,hput⟩ := hremains.file
    have hkept : Unsubmitted c' ∧ ∀ own,c.outstandingLock = some own → c'.outstandingLock = some own := by
      obtain hsame | ⟨hplanned,hlocked⟩ := hput (hstale _ List.mem_cons_self)
      · rw [hsame]
        exact ⟨hphase,fun _ h => h⟩
      · refine ⟨.inr hlocked,?_⟩
        intro own hown
        rw [outstandingLock_planned hplanned] at hown
        cases hown
    have hrest := ih hkept.1 hfile' fun log hlog => hplan ▸ hstale log (List.mem_cons_of_mem _ hlog)
    obtain ⟨c'',hfile'',hplan',hphase',hlock⟩ := hrest.file
    refine ⟨⟨c'',hfile'',hplan'.trans hplan,hphase',fun own hown => hlock own (hkept.2 own hown)⟩,?_⟩
    intro log hlog row hrow
    obtain hlog | hlog := List.mem_cons.mp hlog
    · rw [hlog] at hrow
      exact hremains.calm row hrow
    · have hcalm := hrest.spared log hlog row hrow
      generalize row.1 = q at hcalm ⊢
      cases q <;> first
        | trivial
        | exact fun own hown => hcalm own (hkept.2 own hown)

/-- In no run does a tick that shows a stale entry of an unsubmitted plan rid the Stack of that
plan, and as long as the entry stays stale every later tick leaves it in place as well. -/
theorem stalePlan_wedges {start files files' : Files} {past : List Log} {log : Log}
    (_ : Ticks w start past files) (htick : Tick w files log files')
    (hfile : files (landKey n) = some c) (hphase : Unsubmitted c) (_ : ShowsStale log c.plan) :
    ¬ Unwedged n c.plan files' ∧ ∀ (later : List Log) (files'' : Files),Ticks w files' later files'' →
      (∀ log' ∈ log::later,StaleThroughout log' c.plan) → Wedged n c files'' (log::later) := by
  constructor
  · intro hnone
    obtain ⟨c',hfile',hplan,_⟩ := (htick.remains hfile hphase).file
    exact hnone c' hfile' hplan
  · exact fun later files'' hlater hstale => (Ticks.cons htick hlater).wedged hphase hfile hstale

end Drain

section Example

/-- The head of the selected pull request after its author pushed again. -/
def pushedPull : PullRequestSnapshot where
  number := 11
  state := .open
  head := ⟨⟨"octo","repo"⟩,"feature","c9"⟩
  base := ⟨⟨"octo","repo"⟩,"main","c0"⟩
  labels := {"caravan"}
  autoMerge := ⟨false,none,none⟩

def pushedStatus : StatusOutput where
  repository := ⟨"octo","repo"⟩
  defaultBranch := "main"
  analysis := {
    fleet := {
      repository := ⟨"octo","repo"⟩
      defaultBranch := ⟨⟨"octo","repo"⟩,"main","c0"⟩
      caravans := [⟨11,[11],false⟩] }
    pullRequests := .ofList [(11,pushedPull)] }

def optedIn : Config.CaravanConfig where
  stackType := .github
  stackRollout := { mutationsOptIn := true,reviewedBy := "owner" }

def lockedLanding : StackLandCheckpoint :=
  StackLandCheckpoint.sealed (documentsWire {}).toWire {
    schemaVersion := Github.landSchemaVersion
    repository := ⟨"octo","repo"⟩
    plan := Github.singlePlan
    phase := .locked
    branchLock := some (releasedLock Github.singlePlan) }

def lockedDir : Dir := [("land-3",lockedLanding)]

def mainContexts : RequiredRuns.RequiredContextsRead where
  branch := "main"
  isProtected := false
  complete := true

/-- The pass over a directory and one drain after it, with the answers each of them meets. -/
def playTick (w : SyncWire) (status : StatusOutput) (config : Config.CaravanConfig) (caravan : Caravan)
    (stackNumber : ℕ) (d : Dir) (pass drain : List SyncAnswer) : Option (Dir × Log) :=
  match playSite w.toWire
      (reconcilePendingNativeStackLandingCheckpoints w.toWire status config).run d pass with
  | some (some (.ok _),d',log) =>
      match playSite w.toWire ((drainNativeStack w status caravan stackNumber config).run
          (.new status "tick-2" 10)).run d' drain with
      | some (some (.ok _),d'',log') => some (d'',log ++ log')
      | _ => none
  | _ => none

theorem tick_of_playTick {w : SyncWire} {status : StatusOutput} {config : Config.CaravanConfig}
    {caravan : Caravan} {stackNumber : ℕ} {d d' : Dir} {pass drain : List SyncAnswer} {log : Log}
    (h : playTick w status config caravan stackNumber d pass drain = some (d',log)) :
    Tick w d.files log d'.files := by
  unfold playTick at h
  split at h
  case h_1 changed d₁ log₁ hpass =>
    split at h
    case h_1 r d₂ log₂ hdrain =>
      cases h
      have hrun := run_of_playSite hpass []
      rw [List.nil_append] at hrun
      exact .run status config changed ⟨d₁.files,log₁⟩ hrun
        (.cons status caravan stackNumber config _ r (run_of_playSite hdrain log₁) (.nil _))
    · cases h
  · cases h

/-- The pass lists the lock; the drain audits again, reads the policy and then the new head. -/
def pushedTick : Option (Dir × Log) :=
  playTick (documentsWire {}) pushedStatus optedIn ⟨11,[11],false⟩ 3 lockedDir
    [.locks [releasedLock Github.singlePlan]]
    [.receipt ⟨.comment,none,pushedPull,some "existing GitHub comment"⟩,.contexts mainContexts,
      .pullRequest pushedPull]

theorem pushedTick_stale : ∃ log files',Tick (documentsWire {}) lockedDir.files log files' ∧
    files' (landKey 3) = some lockedLanding ∧ ShowsStale log lockedLanding.plan := by
  have hplayed : pushedTick.any (fun r => decide (r.1.files (landKey 3) = some lockedLanding) &&
      r.2.any fun row => decide (row.1 = .refetchPullRequest ⟨"octo","repo"⟩ 11) &&
        decide (SyncAnswer.pullRequest? row.2 = some pushedPull)) = true := by
    decide +kernel
  obtain ⟨⟨d,log⟩,hplay,hlast⟩ := (Option.any_eq_true _ _).mp hplayed
  simp only [Bool.and_eq_true,decide_eq_true_eq,List.any_eq_true] at hlast
  obtain ⟨hfile,⟨request,answer⟩,hrow,hrequest,hanswer⟩ := hlast
  refine ⟨log,d.files,tick_of_playTick hplay,hfile,Github.singleEntry,by decide +kernel,
    ⟨"octo","repo"⟩,pushedPull,?_,.inl (by decide)⟩
  have hread : answer = .pullRequest pushedPull := by
    cases answer <;> simp_all [SyncAnswer.pullRequest?]
  rw [← hread]
  exact hrequest ▸ hrow

/-- A tick reads the new head of a locked entry and leaves the plan and its lock in the file. -/
theorem lockedLanding_stuck : lockedLanding.verify (documentsWire {}).toWire = true ∧
    lockedDir.files (landKey 3) = some lockedLanding ∧ Unsubmitted lockedLanding ∧
    ∃ log files',Tick (documentsWire {}) lockedDir.files log files' ∧
      ShowsStale log lockedLanding.plan ∧ ¬ Unwedged 3 lockedLanding.plan files' := by
  refine ⟨(Github.verify_sealed_iff _ _).mpr ⟨rfl,rfl,rfl,rfl⟩,by decide +kernel,.inr rfl,?_⟩
  obtain ⟨log,files',htick,hfile,hstale⟩ := pushedTick_stale
  exact ⟨log,files',htick,hstale,fun hnone => hnone lockedLanding hfile rfl⟩

theorem stalePlan_wedges_pushed : ∃ files',¬ Unwedged 3 lockedLanding.plan files' := by
  obtain ⟨log,files',htick,_,hstale⟩ := pushedTick_stale
  exact ⟨files',(stalePlan_wedges (.nil _) htick (by decide +kernel) (.inr rfl) hstale).1⟩

end Example

end Sync
end Cara
