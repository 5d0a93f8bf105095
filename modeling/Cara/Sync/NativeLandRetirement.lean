import Cara.Sync.NativeDrainRuns
import Cara.Sync.NativeLandConvergence

/-! Released landings leave active scheduling: the pass removes a converged checkpoint, after
which a drain of its Stack plans from a generation that it reads itself. -/
namespace Cara
namespace Sync

open Github (StackLandCheckpoint StackAsyncMergePlan StackEntryGeneration StackTopology Wire
  selectedStart validateMergePlan)
open Prog (Gives Meets Only Uses Run)

theorem landKey_listed (n : ℕ) : Text.startsWith (landKey n) "land-" = true := by
  unfold Text.startsWith landKey
  rw [String.toList_append]
  exact List.isPrefixOf_iff_prefix.mpr (List.prefix_append _ _)

theorem retiredKey_ne (key : String) (c : StackLandCheckpoint) (n : ℕ) :
    retiredKey key c ≠ landKey n := by
  intro h
  have hchars := congrArg (fun text => text.toList.head?) h
  unfold retiredKey landKey at hchars
  simp [String.toList_append] at hchars

section Pass

variable {w : Wire} {status : StatusOutput} {s : Site} {n : ℕ} {checkpoint : StackLandCheckpoint}

def Spares (n : ℕ) (request : SyncRequest) : Prop := request.touches ≠ some (landKey n)

theorem serves_spares {key : String} (h : key ≠ landKey n) : Serves status (Spares n) key where
  load := by simp [Spares,SyncRequest.touches]
  archive := by simp [Spares,SyncRequest.touches]
  write _ := by simp [Spares,SyncRequest.touches,h]
  retired _ _ := by simp [Spares,SyncRequest.touches,retiredKey_ne]
  remove := by simp [Spares,SyncRequest.touches,h]
  poll _ := by simp [Spares,SyncRequest.touches]
  release _ _ := by simp [Spares,SyncRequest.touches]
  reobserve _ := by simp [Spares,SyncRequest.touches]

theorem spares_keeps {α : Type} {m : SyncIo α} (hm : Only (Spares n) m)
    {value : Option StackLandCheckpoint} (h : s.files (landKey n) = value) :
    Gives (Site.Step w) Free m (fun s' _ => s'.files (landKey n) = value)
      (fun s' _ => s'.files (landKey n) = value) s :=
  hm.keeps (I := fun s : Site => s.files (landKey n) = value) (fun _ _ _ _ => trivial)
    (fun s q a s' hspares (hstep : Site.Step w s q a s') hvalue =>
      (hstep.spares hspares).trans hvalue) h

/-- A converged landing is archived as retired and its active file removed. -/
theorem reconcileCheckpoint_retires (hfile : s.files (landKey n) = some checkpoint)
    (hverify : checkpoint.verify w = true) (hrepository : checkpoint.repository = status.repository)
    (hphase : checkpoint.phase = .released) (hstatus : checkpoint.terminalStatus = some .merged)
    (hconverged : nativeStackLandingConverged status checkpoint = true) :
    Gives (Site.Step w) Free (reconcileCheckpoint w status (landKey n))
      (fun s' _ => s'.files (landKey n) = none) (fun _ _ => True) s := by
  apply Gives.bind (K := fun s' stored => stored = some checkpoint)
  · apply gives_load trivial
    · exact fun _ _ _ => hfile
    · exact fun _ _ _ _ => trivial
  intro s stored hstored
  rw [hstored]
  dsimp only
  rw [if_neg (by simp [hverify,hrepository])]
  apply Gives.bind (K := fun _ _ => True)
  · exact gives_saveNative trivial (fun _ _ _ => trivial) (fun _ _ _ => trivial) fun _ _ _ _ => trivial
  intro s _ _
  have hpoll : pollAndFinalize w status (landKey n) 5 checkpoint = pure checkpoint := by
    unfold pollAndFinalize advancePending
    rw [hphase]
    rfl
  apply Gives.bind (K := fun _ c => c = checkpoint)
  · rw [hpoll]
    exact Gives.pure rfl
  intro s c hc
  rw [hc,if_pos hphase]
  have hreobserve : reobserve status (landKey n) checkpoint = pure (checkpoint,false) := by
    unfold reobserve
    rw [if_neg (by rw [hstatus]; decide)]
  unfold retire
  apply Gives.bind (K := fun _ observed => observed = (checkpoint,false))
  · rw [hreobserve]
    exact Gives.pure rfl
  intro s observed hobserved
  rw [hobserved]
  dsimp only
  rw [if_pos hconverged]
  apply Gives.bind (K := fun _ _ => True)
  · exact gives_saveNative trivial (fun _ _ _ => trivial) (fun _ _ _ => trivial) fun _ _ _ _ => trivial
  intro s _ _
  apply Gives.bind (K := fun s' _ => s'.files (landKey n) = none)
  · apply gives_remove trivial
    · intro s' hfiles
      rw [hfiles,Function.update_self]
    · exact fun _ _ => trivial
  · exact fun s _ h => Gives.pure h

/-- Once the file is gone, the rest of the pass does not bring it back. -/
theorem reconcileCheckpoint_gone {key : String} (h : s.files (landKey n) = none) :
    Gives (Site.Step w) Free (reconcileCheckpoint w status key)
      (fun s' _ => s'.files (landKey n) = none) (fun _ _ => True) s := by
  by_cases hkey : key = landKey n
  · apply Gives.bind (K := fun s' stored => stored = none ∧ s'.files (landKey n) = none)
    · apply gives_load trivial
      · intro s' hfiles _
        rw [hkey,hfiles]
        exact ⟨h,h⟩
      · exact fun _ _ _ _ => trivial
    intro s stored h
    rw [h.1]
    exact Gives.pure h.2
  · apply (spares_keeps (reconcileCheckpoint_only w (serves_spares hkey)) h).mono
    · exact fun _ _ h => h
    · exact fun _ _ _ => trivial

theorem reconcileKeys_gone (keys : List String) (h : s.files (landKey n) = none) :
    Gives (Site.Step w) Free (reconcileKeys w status keys)
      (fun s' _ => s'.files (landKey n) = none) (fun _ _ => True) s := by
  induction keys generalizing s with
  | nil => exact Gives.pure h
  | cons key keys ih =>
    apply Gives.bind (reconcileCheckpoint_gone h)
    intro s changed h
    exact Gives.bind (ih h) fun s rest h => Gives.pure h

theorem reconcileKeys_retires (keys : List String) (hmem : landKey n ∈ keys)
    (hfile : s.files (landKey n) = some checkpoint) (hverify : checkpoint.verify w = true)
    (hrepository : checkpoint.repository = status.repository)
    (hphase : checkpoint.phase = .released) (hstatus : checkpoint.terminalStatus = some .merged)
    (hconverged : nativeStackLandingConverged status checkpoint = true) :
    Gives (Site.Step w) Free (reconcileKeys w status keys)
      (fun s' _ => s'.files (landKey n) = none) (fun _ _ => True) s := by
  induction keys generalizing s with
  | nil => cases hmem
  | cons key keys ih =>
    by_cases hkey : key = landKey n
    · rw [hkey]
      apply Gives.bind (reconcileCheckpoint_retires hfile hverify hrepository hphase hstatus hconverged)
      intro s changed h
      exact Gives.bind (reconcileKeys_gone keys h) fun s rest h => Gives.pure h
    · apply Gives.bind (K := fun s' _ => s'.files (landKey n) = some checkpoint)
      · apply (spares_keeps (reconcileCheckpoint_only w (serves_spares hkey)) hfile).mono
        · exact fun _ _ h => h
        · exact fun _ _ _ => trivial
      intro s changed h
      have hrest := ih ((List.mem_cons.mp hmem).resolve_left fun heq => hkey heq.symm) h
      exact Gives.bind hrest fun s rest h => Gives.pure h

theorem cleanUpOrphanLocks_only {allowed : SyncRequest → Prop}
    (hread : ∀ q,q.touches = none → allowed q) : Only allowed (cleanUpOrphanLocks status) := by
  apply Only.bind (call_only (hread _ rfl))
  intro locks
  apply Only.bind (call_only (hread _ rfl))
  intro keys
  apply Only.bind (liveLockNames_only (fun _ => hread _ rfl) keys)
  intro live
  exact deleteOrphans_only (fun _ _ => hread _ rfl) locks

/-- A completed pass over a converged landing leaves no active checkpoint of it. -/
theorem reconcilePending_retires {config : Config.CaravanConfig} (htype : config.stackType = .github)
    (hfile : s.files (landKey n) = some checkpoint) (hverify : checkpoint.verify w = true)
    (hrepository : checkpoint.repository = status.repository)
    (hphase : checkpoint.phase = .released) (hstatus : checkpoint.terminalStatus = some .merged)
    (hconverged : nativeStackLandingConverged status checkpoint = true) :
    Gives (Site.Step w) Free
      (reconcilePendingNativeStackLandingCheckpoints w status config)
      (fun s' _ => s'.files (landKey n) = none) (fun _ _ => True) s := by
  unfold reconcilePendingNativeStackLandingCheckpoints
  rw [if_neg (not_not.mpr htype)]
  apply Gives.bind (K := fun s' keys => s'.files (landKey n) = some checkpoint ∧ landKey n ∈ keys)
  · apply gives_listKeys trivial
    · intro s' keys hfiles hkeys
      refine ⟨by rw [hfiles,hfile],(hkeys _).mpr ⟨landKey_listed n,by rw [hfile]; rfl⟩⟩
    · exact fun _ _ _ => trivial
  intro s keys h
  apply Gives.bind (reconcileKeys_retires keys h.2 h.1 hverify hrepository hphase hstatus hconverged)
  intro s changed h
  split
  · apply Gives.bind (K := fun s' _ => s'.files (landKey n) = none)
    · apply (spares_keeps (cleanUpOrphanLocks_only fun q hq => by simp [Spares,hq]) h).mono
      · exact fun _ _ h => h
      · exact fun _ _ _ => trivial
    · exact fun s _ h => Gives.pure h
  · exact Gives.pure h

end Pass

section Observed

variable {repository : RepositoryId} {topology : StackTopology}

/-- The topology of a generation as the Stack reader accepts it. -/
def Observed (repository : RepositoryId) (topology : StackTopology) : Prop :=
  ∃ minimum staleTail collapsed,
    Github.validateTopologyWithCollapsedFrontier repository topology minimum staleTail collapsed = .ok ()

theorem scanEntry_seen {staleTail : Option PrNumber} {collapsed : Option Github.CollapsedFrontierProof}
    {scan scan' : Github.TopologyScan} {row : StackEntryGeneration × ℕ}
    (h : Github.scanEntry repository topology staleTail collapsed scan row = .ok scan') :
    row.1.pr ∉ scan.seen ∧ scan'.seen = row.1.pr::scan.seen := by
  unfold Github.scanEntry at h
  dsimp only at h
  split at h
  · cases h
  · split at h
    · cases h
    case isFalse hnew =>
      split at h
      · cases h
      · split at h
        · split at h
          · cases h
            exact ⟨hnew,rfl⟩
          · cases h
        · split at h
          · cases h
          · split at h
            · cases h
            · cases h
              exact ⟨hnew,rfl⟩

theorem scan_distinct {staleTail : Option PrNumber} {collapsed : Option Github.CollapsedFrontierProof}
    (rows : List (StackEntryGeneration × ℕ)) {scan scan' : Github.TopologyScan}
    (h : rows.foldlM (Github.scanEntry repository topology staleTail collapsed) scan = .ok scan') :
    (rows.map (·.1.pr)).Nodup ∧ ∀ row ∈ rows,row.1.pr ∉ scan.seen := by
  induction rows generalizing scan with
  | nil => exact ⟨List.nodup_nil,fun row hrow => by cases hrow⟩
  | cons row rows ih =>
    rw [List.foldlM_cons] at h
    obtain ⟨next,hnext,hrest⟩ := Guard.bind_eq_ok.mp h
    obtain ⟨hnew,hseen⟩ := scanEntry_seen hnext
    obtain ⟨hdistinct,hunseen⟩ := ih hrest
    rw [hseen] at hunseen
    constructor
    · rw [List.map_cons,List.nodup_cons]
      refine ⟨?_,hdistinct⟩
      intro hmem
      obtain ⟨other,hother,heq⟩ := List.mem_map.mp hmem
      exact hunseen other hother (by rw [heq]; exact List.mem_cons_self)
    · intro other hother
      obtain hother | hother := List.mem_cons.mp hother
      · rw [hother]
        exact hnew
      · exact fun hmem => hunseen other hother (List.mem_cons_of_mem _ hmem)

theorem Observed.distinct (h : Observed repository topology) : (topology.entries.map (·.pr)).Nodup := by
  obtain ⟨minimum,staleTail,collapsed,h⟩ := h
  have hchecked : ∃ scan,topology.entries.zipIdx.foldlM
      (Github.scanEntry repository topology staleTail collapsed) {} = .ok scan := by
    unfold Github.validateTopologyWithCollapsedFrontier at h
    dsimp only at h
    -- each check either refuses or hands on to the next
    split at h
    · obtain ⟨_,hrefused,_⟩ := Guard.bind_eq_ok.mp h
      cases hrefused
    · obtain ⟨_,_,h⟩ := Guard.bind_eq_ok.mp h
      split at h
      · obtain ⟨_,hrefused,_⟩ := Guard.bind_eq_ok.mp h
        cases hrefused
      · obtain ⟨_,_,h⟩ := Guard.bind_eq_ok.mp h
        split at h
        · obtain ⟨_,hrefused,_⟩ := Guard.bind_eq_ok.mp h
          cases hrefused
        · obtain ⟨_,_,h⟩ := Guard.bind_eq_ok.mp h
          obtain ⟨scan,hscan,_⟩ := Guard.bind_eq_ok.mp h
          exact ⟨scan,hscan⟩
  obtain ⟨scan,hscan⟩ := hchecked
  have hdistinct := (scan_distinct _ hscan).1
  have hentries : topology.entries.zipIdx.map (fun row => row.1.pr) = topology.entries.map (·.pr) := by
    conv_rhs => rw [← List.zipIdx_map_fst 0 topology.entries,List.map_map]
    rfl
  rw [← hentries]
  exact hdistinct

/-- What the Stack reader returns has passed its own validation. -/
theorem nativeStackGeneration_observed {w : Wire} {number : ℕ} {t : Github.Conversation}
    {generation : Github.StackGeneration}
    (h : Prog.Yields (Github.nativeStackGeneration w repository number) t (.ok (some generation))) :
    Observed repository generation.topology := by
  obtain ⟨stack,_,_,_,_,h⟩ := (Prog.yields_bind_ok _ _ _).mp h
  cases stack with
  | none => cases ((Prog.yields_pure _ _).mp h).2
  | some stack =>
    obtain ⟨observed,_,_,_,hobserve,hpure⟩ := (Prog.yields_bind_ok _ _ _).mp h
    cases ((Prog.yields_pure _ _).mp hpure).2
    obtain ⟨rows,_,_,_,_,h⟩ := (Prog.yields_bind_ok _ _ _).mp hobserve
    obtain ⟨collapsed,_,_,_,_,h⟩ := (Prog.yields_bind_ok _ _ _).mp h
    obtain ⟨_,hvalid,hpure⟩ := (Prog.yields_ofResult_bind _ _ _).mp h
    cases ((Prog.yields_pure _ _).mp hpure).2
    exact ⟨1,none,collapsed,hvalid⟩

end Observed

section Retirement

variable (w : SyncWire)

/-- The file of the Stack and every submission are plans of a generation this process read. -/
structure PlannedAfresh (n : ℕ) (t : Site) : Prop where
  file : ∀ c,t.files (landKey n) = some c → FreshPlan n t.log c.plan
  submitted : ∀ repository c answer,
    (SyncRequest.nativeStackLandSubmit repository c,answer) ∈ t.log → FreshPlan n t.log c.plan

/-- Retirement exactly on convergence: the judgement agrees with fresh status, a completed pass
then removes the checkpoint and whatever the next drain does, it plans afresh. -/
structure RetiresOnConvergence (c : StackLandCheckpoint) : Prop where
  judged : ∀ status,nativeStackLandingConverged status c = true ↔ LandingConverged status c.plan
  removed : ∀ status (config : Config.CaravanConfig) (s t : Site) changed,
    LandingConverged status c.plan → c.repository = status.repository → config.stackType = .github →
    s.files (landKey c.plan.before.number) = some c →
    Run (Site.Step w.toWire) (reconcilePendingNativeStackLandingCheckpoints w.toWire status config).run s
      (some (.ok changed)) t → t.files (landKey c.plan.before.number) = none
  replanned : ∀ status (config : Config.CaravanConfig) (s t u : Site) changed,
    LandingConverged status c.plan → c.repository = status.repository → config.stackType = .github →
    s.files (landKey c.plan.before.number) = some c →
    Run (Site.Step w.toWire) (reconcilePendingNativeStackLandingCheckpoints w.toWire status config).run s
      (some (.ok changed)) t →
    ∀ (later : StatusOutput) (caravan : Caravan) (policy : Config.CaravanConfig) (p : SyncProgress) r,
      Run (Site.Step w.toWire)
        ((drainNativeStack w later caravan c.plan.before.number policy).run p).run ⟨t.files,[]⟩ (some r) u →
      PlannedAfresh c.plan.before.number u

theorem freshPlan_closed (status : StatusOutput) (n : ℕ) :
    LandClosed w status fun log c => FreshPlan n log c.plan where
  mono _ _ _ hlog h := by
    obtain ⟨hsome,repository,generation,count,hread,hplan⟩ := h
    exact ⟨hsome,repository,generation,count,hlog.subset hread,hplan⟩
  locked log c c' _ h hreturns := by
    obtain ⟨_,hrun⟩ := hreturns
    have hplan := ((nativeStackLandLock_plan w.toWire).holds (fun _ _ _ => trivial)
      (fun _ => trivial) []).run hrun |>.2 c' rfl
    rw [hplan]
    exact h
  marked log c c' _ h _ hmarked := by
    rw [marked_plan hmarked]
    exact h
  moved log c c' _ h hplan := by
    rw [hplan]
    exact h

theorem drainNativeStack_afresh {status : StatusOutput} {caravan : Caravan} {n : ℕ}
    {config : Config.CaravanConfig} {p : SyncProgress} {files : Files} (hfile : files (landKey n) = none)
    {u : Site} {r : Except SyncError (Unit × SyncProgress)}
    (hrun : Run (Site.Step w.toWire) ((drainNativeStack w status caravan n config).run p).run ⟨files,[]⟩
      (some r) u) : PlannedAfresh n u := by
  have hstart : FileKept (landKey n) False [] (fun log c => FreshPlan n log c.plan) ⟨files,[]⟩ := by
    refine ⟨?_,fun h => h.elim,?_⟩
    · intro c hc
      exact absurd (hfile.symm.trans hc) (by simp)
    · exact ⟨[],rfl,fun repository c answer hmem => by cases hmem⟩
  have hkept := (drainNativeStack_kept (freshPlan_closed w status n) p hstart caravan config
    fun _ _ _ h => h).holds.run hrun
  have hend : FileKept (landKey n) False [] (fun log c => FreshPlan n log c.plan) u := by
    cases r <;> exact hkept
  obtain ⟨rows,hrows,hsubmitted⟩ := hend.submitted
  rw [List.nil_append] at hrows
  exact ⟨hend.file,hrows ▸ hsubmitted⟩

/-- A released landing retires exactly on convergence if and only if nothing had landed before
its selection. -/
theorem retiresOnConvergence_iff {c : StackLandCheckpoint} (hverify : c.verify w.toWire = true)
    (hphase : c.phase = .released) (hstatus : c.terminalStatus = some .merged)
    (hvalid : validateMergePlan c.repository c.plan = .ok ())
    (hobserved : Observed c.repository c.plan.before.topology) :
    RetiresOnConvergence w c ↔ selectedStart c.plan = 0 := by
  have hrelease : c.lockRelease.isSome = true := by
    simp only [StackLandCheckpoint.verify,Bool.and_eq_true] at hverify
    have hshape := hverify.1.1.2
    unfold Github.phaseShape at hshape
    rw [hphase] at hshape
    simp only [Bool.and_eq_true] at hshape
    exact hshape.2
  have hjudged : ∀ status,nativeStackLandingConverged status c = true ↔
      selectedStart c.plan = 0 ∧ LandingConverged status c.plan := fun status =>
    nativeStackLandingConverged_iff hphase hrelease hstatus hvalid hobserved.distinct
  constructor
  · intro h
    exact ((hjudged _).mp ((h.judged _).mpr
      (landingConverged_landedStatus hobserved.distinct))).1
  · intro hzero
    have hremoved : ∀ status (config : Config.CaravanConfig) (s t : Site) changed,
        LandingConverged status c.plan → c.repository = status.repository →
        config.stackType = .github → s.files (landKey c.plan.before.number) = some c →
        Run (Site.Step w.toWire)
          (reconcilePendingNativeStackLandingCheckpoints w.toWire status config).run s
          (some (.ok changed)) t → t.files (landKey c.plan.before.number) = none := by
      intro status config s t changed hconverged hrepository htype hfile hrun
      exact (reconcilePending_retires htype hfile hverify hrepository hphase hstatus
        ((hjudged status).mpr ⟨hzero,hconverged⟩)).run hrun
    refine ⟨?_,hremoved,?_⟩
    · intro status
      rw [hjudged]
      exact and_iff_right hzero
    · intro status config s t u changed hconverged hrepository htype hfile hrun later caravan policy p r
        hdrain
      exact drainNativeStack_afresh w
        (hremoved status config s t changed hconverged hrepository htype hfile hrun) hdrain

def releasedLock (plan : StackAsyncMergePlan) : Github.StackBranchLockGeneration :=
  { Github.singleLock "cara-stack-merge-lock" with
    repository := plan.before.topology.base.repository
    selectedPullRequests := plan.before.topology.entries.map (·.pr)
    selectedRefs := [] }

/-- A landing of the plan that ended merged and released its lock. -/
def releasedLanding (repository : RepositoryId) (plan : StackAsyncMergePlan) : StackLandCheckpoint :=
  StackLandCheckpoint.sealed w.toWire {
    schemaVersion := Github.landSchemaVersion
    repository := repository
    plan := plan
    phase := .released
    branchLock := some (releasedLock plan)
    terminalStatus := some .merged
    lockRelease := some {
      schemaVersion := 1
      operationId := plan.operationId
      actor := plan.actor
      repository := repository
      operation := .release
      disposition := .completed
      requestMethod := "DELETE"
      requestPath := "repos/octo/repo/rulesets/7" } }

theorem releasedLanding_verify (repository : RepositoryId) (plan : StackAsyncMergePlan) :
    (releasedLanding w repository plan).verify w.toWire = true :=
  (Github.verify_sealed_iff w.toWire _).mpr ⟨rfl,rfl,rfl,rfl⟩

def documentsWire (d : Github.Documents) : SyncWire where
  toWire := d.wire
  nativeMergeAudit _ := []
  squashMergeAudit _ := []

/-- The entry above the single one. -/
def secondEntry : StackEntryGeneration where
  position := 1
  pr := 12
  stackState := "open"
  pullRequestState := .open
  draft := false
  base := ⟨⟨"octo","repo"⟩,"feature","c1"⟩
  head := ⟨⟨"octo","repo"⟩,"second","c2"⟩

/-- Two selected entries below an open one. -/
def prefixPlan : StackAsyncMergePlan :=
  let before := Github.singlePlan.before
  { Github.singlePlan with
    before := { before with
      topology := ⟨before.topology.base,[Github.singleEntry,secondEntry,
        { secondEntry with
          position := 2
          pr := 13
          base := secondEntry.head
          head := ⟨⟨"octo","repo"⟩,"third","c3"⟩ }]⟩ }
    selected := [Github.singleEntry,secondEntry] }

theorem retiresOnConvergence_iff_prefix : RetiresOnConvergence (documentsWire {})
    (releasedLanding (documentsWire {}) ⟨"octo","repo"⟩ prefixPlan) := by
  have hvalid : validateMergePlan ⟨"octo","repo"⟩ prefixPlan = .ok () := by decide +kernel
  have hobserved : Observed ⟨"octo","repo"⟩ prefixPlan.before.topology :=
    ⟨1,none,none,by decide +kernel⟩
  have hstart : selectedStart prefixPlan = 0 := by decide +kernel
  exact (retiresOnConvergence_iff (documentsWire {}) (releasedLanding_verify _ _ _) rfl rfl hvalid
    hobserved).mpr hstart

/-- A merged first entry, the selection and one pull request above it. -/
def historyPlan : StackAsyncMergePlan where
  operationId := "land-1"
  actor := "cara"
  before := { Github.singlePlan.before with
    topology := ⟨⟨⟨"octo","repo"⟩,"main","c0"⟩,[
      { position := 0
        pr := 10
        stackState := "merged"
        pullRequestState := .merged
        draft := false
        base := ⟨⟨"octo","repo"⟩,"main","b0"⟩
        head := ⟨⟨"octo","repo"⟩,"first","c9"⟩
        mergedAt := some "2026-01-01T00:00:00Z" },
      { Github.singleEntry with position := 1 },
      { secondEntry with position := 2 }]⟩ }
  selected := [{ Github.singleEntry with position := 1 }]

/-- With merged history the judgement stays false on the status that proves convergence. -/
theorem nativeStackLandingConverged_history :
    (releasedLanding (documentsWire {}) ⟨"octo","repo"⟩ historyPlan).verify (documentsWire {}).toWire = true ∧
      validateMergePlan ⟨"octo","repo"⟩ historyPlan = .ok () ∧
      Observed ⟨"octo","repo"⟩ historyPlan.before.topology ∧
      LandingConverged (landedStatus historyPlan) historyPlan ∧
      nativeStackLandingConverged (landedStatus historyPlan)
        (releasedLanding (documentsWire {}) ⟨"octo","repo"⟩ historyPlan) = false ∧
      ¬ RetiresOnConvergence (documentsWire {})
        (releasedLanding (documentsWire {}) ⟨"octo","repo"⟩ historyPlan) := by
  have hobserved : Observed ⟨"octo","repo"⟩ historyPlan.before.topology := ⟨1,none,none,by decide +kernel⟩
  have hconverged := landingConverged_landedStatus hobserved.distinct
  have hjudged : nativeStackLandingConverged (landedStatus historyPlan)
      (releasedLanding (documentsWire {}) ⟨"octo","repo"⟩ historyPlan) = false := by decide +kernel
  refine ⟨releasedLanding_verify _ _ _,by decide +kernel,hobserved,hconverged,hjudged,?_⟩
  intro h
  have hjudgedTrue := (h.judged (landedStatus historyPlan)).mpr hconverged
  rw [hjudged] at hjudgedTrue
  cases hjudgedTrue

end Retirement

end Sync
end Cara
