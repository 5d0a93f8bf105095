import Cara.Model
import Cara.Lib.Text
import Cara.Lib.KeyedMax

/-! Reduction of a check rollup to its current rows. A rollup is a lineage: retried and
cancelled runs stay on the same head, and supersession is claimed from provider
timestamps of one check or from the run ids of its owning workflow. -/
namespace Cara
open KeyedMax

structure CheckIdentity where
  name : String
  providerKind : Option String
  workflowName : Option String
  appId : Option ℕ
  headOid : Option CommitOid
deriving DecidableEq

structure WorkflowIdentity where
  providerKind : Option String
  workflowName : String
  appId : Option ℕ
  headOid : Option CommitOid
deriving DecidableEq

namespace CheckSnapshot

def identity (c : CheckSnapshot) : CheckIdentity :=
  ⟨c.name,c.providerKind,c.workflowName,c.appId,c.headOid⟩

/-- The zero-value sentinel of an unfinished check is absence, not an early time. -/
def validStamp (stamp : String) : Bool :=
  decide (stamp ≠ "") && !("0001-01-01T".toList.isPrefixOf stamp.toList)

/-- Ordering evidence for supersession; `none` means that it cannot be proven. -/
def observedAt (c : CheckSnapshot) : Option String :=
  match c.startedAt.filter validStamp,c.completedAt.filter validStamp with
  | some left,some right => some (if left < right then right else left)
  | some stamp,none | none,some stamp => some stamp
  | none,none => none

/-- Run id between `/actions/runs/` and the next slash of a details URL. -/
def runIdOfUrl (url : String) : Option ℕ := do
  let (_,suffix) ← Text.splitOnce "/actions/runs/".toList url.toList
  Text.parseU64 (Text.firstField '/' suffix)

def workflowGeneration (c : CheckSnapshot) : Option (WorkflowIdentity × ℕ) := do
  let workflowName ← c.workflowName
  let url ← c.detailsUrl
  let runId ← runIdOfUrl url
  return (⟨c.providerKind,workflowName,c.appId,c.headOid⟩,runId)

end CheckSnapshot

open CheckSnapshot

def newestObservationPerIdentity (checks : List CheckSnapshot) : CheckIdentity → Option String :=
  keyedMax (checks.filterMap fun c => c.observedAt.map fun observed => (c.identity,observed))

def newestWorkflowGeneration (checks : List CheckSnapshot) : WorkflowIdentity → Option ℕ :=
  keyedMax (checks.filterMap workflowGeneration)

/-- Whether identity or workflow-generation evidence proves the row historical. -/
def isSuperseded (check : CheckSnapshot) (newest : CheckIdentity → Option String)
    (newestWorkflow : WorkflowIdentity → Option ℕ) : Bool :=
  let newerSameCheck := match newest check.identity,check.observedAt with
    | some best,some observed => decide (observed < best)
    | _,_ => false
  let newerWorkflowGeneration := (check.workflowGeneration.bind fun generation =>
    (newestWorkflow generation.1).map fun newestRunId => decide (generation.2 < newestRunId)).getD
      false
  newerSameCheck || newerWorkflowGeneration

def supersededIn (checks : List CheckSnapshot) (check : CheckSnapshot) : Bool :=
  isSuperseded check (newestObservationPerIdentity checks) (newestWorkflowGeneration checks)

def latestChecksPerIdentity (checks : List CheckSnapshot) :
    List CheckSnapshot × List CheckSnapshot :=
  checks.partition fun check => !supersededIn checks check

/-- `r` is a strictly later valid observation of the same check as `s`. -/
def LaterObservation (s r : CheckSnapshot) : Prop :=
  r.identity = s.identity ∧
    ∃ before after, s.observedAt = some before ∧ r.observedAt = some after ∧ before < after

/-- `r` belongs to a strictly greater run of the workflow that owns `s`. -/
def GreaterRun (s r : CheckSnapshot) : Prop :=
  ∃ workflow old new, s.workflowGeneration = some (workflow,old) ∧
    r.workflowGeneration = some (workflow,new) ∧ old < new

def ObservationStale (checks : List CheckSnapshot) (s : CheckSnapshot) : Prop :=
  ∃ r ∈ checks, LaterObservation s r

def RunStale (checks : List CheckSnapshot) (s : CheckSnapshot) : Prop :=
  ∃ r ∈ checks, GreaterRun s r

theorem newestObservation_lt_iff (checks : List CheckSnapshot) (s : CheckSnapshot) :
    (∃ best observed, newestObservationPerIdentity checks s.identity = some best ∧
      s.observedAt = some observed ∧ observed < best) ↔ ObservationStale checks s := by
  have hrows : ∀ stamp, (s.identity,stamp) ∈ checks.filterMap
      (fun c => c.observedAt.map fun observed => (c.identity,observed)) ↔
      ∃ r ∈ checks, r.identity = s.identity ∧ r.observedAt = some stamp := by
    intro stamp
    simp only [List.mem_filterMap,Option.map_eq_some_iff,Prod.mk.injEq]
    constructor
    · rintro ⟨r,hr,observed,hobserved,hid,rfl⟩
      exact ⟨r,hr,hid,hobserved⟩
    · rintro ⟨r,hr,hid,hobserved⟩
      exact ⟨r,hr,stamp,hobserved,hid,rfl⟩
  constructor
  · rintro ⟨best,observed,hbest,hobserved,hlt⟩
    obtain ⟨after,hafter,hlt'⟩ := lt_keyedMax_iff.mp ⟨best,hbest,hlt⟩
    obtain ⟨r,hr,hid,hr'⟩ := (hrows after).mp hafter
    exact ⟨r,hr,hid,observed,after,hobserved,hr',hlt'⟩
  · rintro ⟨r,hr,hid,before,after,hbefore,hafter,hlt⟩
    obtain ⟨best,hbest,hlt'⟩ :=
      lt_keyedMax_iff.mpr ⟨after,(hrows after).mpr ⟨r,hr,hid,hafter⟩,hlt⟩
    exact ⟨best,before,hbest,hbefore,hlt'⟩

theorem newestWorkflow_lt_iff (checks : List CheckSnapshot) (s : CheckSnapshot) :
    (∃ workflow run best, s.workflowGeneration = some (workflow,run) ∧
      newestWorkflowGeneration checks workflow = some best ∧ run < best) ↔ RunStale checks s := by
  constructor
  · rintro ⟨workflow,run,best,hrun,hbest,hlt⟩
    obtain ⟨new,hnew,hlt'⟩ := lt_keyedMax_iff.mp ⟨best,hbest,hlt⟩
    obtain ⟨r,hr,hr'⟩ := List.mem_filterMap.mp hnew
    exact ⟨r,hr,workflow,run,new,hrun,hr',hlt'⟩
  · rintro ⟨r,hr,workflow,old,new,hold,hnew,hlt⟩
    obtain ⟨best,hbest,hlt'⟩ :=
      lt_keyedMax_iff.mpr ⟨new,List.mem_filterMap.mpr ⟨r,hr,hnew⟩,hlt⟩
    exact ⟨workflow,old,best,hold,hbest,hlt'⟩

/-- The two maps retire a row exactly when the rollup holds a row that outdates it. -/
theorem supersededIn_iff (checks : List CheckSnapshot) (s : CheckSnapshot) :
    supersededIn checks s = true ↔ ObservationStale checks s ∨ RunStale checks s := by
  rw [← newestObservation_lt_iff,← newestWorkflow_lt_iff,supersededIn,isSuperseded,
    Bool.or_eq_true]
  refine or_congr ?_ ?_
  · cases hbest : newestObservationPerIdentity checks s.identity <;>
      cases hobserved : s.observedAt <;> simp
  · cases hrun : s.workflowGeneration with
    | none => simp
    | some generation =>
      obtain ⟨workflow,run⟩ := generation
      cases hbest : newestWorkflowGeneration checks workflow <;> simp [hbest]

theorem mem_current_iff {checks : List CheckSnapshot} {r : CheckSnapshot} :
    r ∈ (latestChecksPerIdentity checks).1 ↔
      r ∈ checks ∧ ¬ObservationStale checks r ∧ ¬RunStale checks r := by
  rw [latestChecksPerIdentity,List.partition_eq_filter_filter,List.mem_filter,
    Bool.not_eq_true',Bool.eq_false_iff,ne_eq,supersededIn_iff,not_or]

theorem mem_superseded_iff {checks : List CheckSnapshot} {s : CheckSnapshot} :
    s ∈ (latestChecksPerIdentity checks).2 ↔
      s ∈ checks ∧ (ObservationStale checks s ∨ RunStale checks s) := by
  rw [latestChecksPerIdentity,List.partition_eq_filter_filter,List.mem_filter]
  simp [supersededIn_iff]

/-- The rollup is split in order, every retired row is outdated by a current one, a
verdict always remains, and the newest observation of a check inside the newest run of
its workflow stays current. -/
structure LineageSound (checks : List CheckSnapshot) : Prop where
  current_sublist : (latestChecksPerIdentity checks).1.Sublist checks
  superseded_sublist : (latestChecksPerIdentity checks).2.Sublist checks
  partition : ((latestChecksPerIdentity checks).1 ++ (latestChecksPerIdentity checks).2).Perm
    checks
  justified : ∀ s ∈ (latestChecksPerIdentity checks).2, ∃ r ∈ (latestChecksPerIdentity checks).1,
    LaterObservation s r ∨ GreaterRun s r
  nonempty : checks ≠ [] → (latestChecksPerIdentity checks).1 ≠ []
  newest_kept : ∀ r ∈ checks, ∀ workflow run, r.workflowGeneration = some (workflow,run) →
    (∀ q ∈ checks, ∀ n, q.workflowGeneration = some (workflow,n) → n ≤ run) →
    (∀ q ∈ checks, q.workflowGeneration = some (workflow,run) → ¬LaterObservation r q) →
    r ∈ (latestChecksPerIdentity checks).1

/-- The row carries the newest observation of its check. -/
def NewestObservation (checks : List CheckSnapshot) (r : CheckSnapshot) : Prop :=
  ∃ newest, r.observedAt = some newest ∧ ∀ q ∈ checks, q.identity = r.identity →
    ∀ stamp, q.observedAt = some stamp → stamp ≤ newest

/-- No check has its newest observation only in outdated runs of its workflow while some
observed row of it lies outside them. -/
def ObservationsFollowRuns (checks : List CheckSnapshot) : Prop :=
  ∀ s ∈ checks, s.observedAt.isSome → ¬RunStale checks s →
    ∃ r ∈ checks, r.identity = s.identity ∧ NewestObservation checks r ∧ ¬RunStale checks r ∧
      (s.workflowGeneration.isSome → r.workflowGeneration.isSome)

theorem NewestObservation.not_stale {checks : List CheckSnapshot} {r : CheckSnapshot}
    (h : NewestObservation checks r) : ¬ObservationStale checks r := by
  rintro ⟨q,hq,hid,before,after,hbefore,hafter,hlt⟩
  obtain ⟨newest,hnewest,hmax⟩ := h
  have hle := hmax q hq hid after hafter
  rw [hnewest,Option.some.injEq] at hbefore
  exact absurd hlt (not_lt.mpr (hbefore ▸ hle))

theorem newestObservation_of_not_stale {checks : List CheckSnapshot} {r : CheckSnapshot}
    {stamp : String} (hstamp : r.observedAt = some stamp) (h : ¬ObservationStale checks r) :
    NewestObservation checks r := by
  refine ⟨stamp,hstamp,fun q hq hid after hafter => ?_⟩
  by_contra hlt
  exact h ⟨q,hq,hid,stamp,after,hstamp,hafter,not_le.mp hlt⟩

/-- Rows of one check that carry a run carry runs of the same workflow. -/
theorem workflow_eq_of_identity_eq {a b : CheckSnapshot} {v w : WorkflowIdentity} {m n : ℕ}
    (h : a.identity = b.identity) (ha : a.workflowGeneration = some (v,m))
    (hb : b.workflowGeneration = some (w,n)) : v = w := by
  simp only [identity,CheckIdentity.mk.injEq] at h
  obtain ⟨-,hkind,hname,happ,hhead⟩ := h
  simp only [workflowGeneration,Option.bind_eq_bind,Option.bind_eq_some_iff,Option.pure_def,
    Option.some.injEq,Prod.mk.injEq] at ha hb
  obtain ⟨x,hx,-,-,-,-,rfl,-⟩ := ha
  obtain ⟨y,hy,-,-,-,-,rfl,-⟩ := hb
  have hxy : x = y := by
    rw [hname,hy,Option.some.injEq] at hx
    exact hx.symm
  rw [hkind,happ,hhead,hxy]

theorem exists_newest_run {checks : List CheckSnapshot} {s : CheckSnapshot}
    {workflow : WorkflowIdentity} {run : ℕ} (hs : s ∈ checks)
    (hrun : s.workflowGeneration = some (workflow,run)) :
    ∃ r ∈ checks, ∃ newest, r.workflowGeneration = some (workflow,newest) ∧ run ≤ newest ∧
      ¬RunStale checks r := by
  have hmem : (workflow,run) ∈ checks.filterMap workflowGeneration :=
    List.mem_filterMap.mpr ⟨s,hs,hrun⟩
  obtain ⟨newest,hnewest⟩ := keyedMax_isSome_of_mem hmem
  obtain ⟨hin,hmax⟩ := keyedMax_spec _ _ _ hnewest
  obtain ⟨r,hr,hr'⟩ := List.mem_filterMap.mp hin
  refine ⟨r,hr,newest,hr',hmax run hmem,?_⟩
  rintro ⟨q,hq,w,old,new,hold,hnew,hlt⟩
  rw [hr',Option.some.injEq,Prod.mk.injEq] at hold
  obtain ⟨rfl,rfl⟩ := hold
  exact absurd hlt (not_lt.mpr (hmax new (List.mem_filterMap.mpr ⟨q,hq,hnew⟩)))

private theorem not_runStale_of_newest {checks : List CheckSnapshot} {r : CheckSnapshot}
    {workflow : WorkflowIdentity} {run : ℕ} (hrun : r.workflowGeneration = some (workflow,run))
    (hmax : ∀ q ∈ checks, ∀ n, q.workflowGeneration = some (workflow,n) → n ≤ run) :
    ¬RunStale checks r := by
  rintro ⟨q,hq,w,old,new,hold,hnew,hlt⟩
  rw [hrun,Option.some.injEq,Prod.mk.injEq] at hold
  obtain ⟨rfl,rfl⟩ := hold
  exact absurd hlt (not_lt.mpr (hmax q hq new hnew))

theorem ObservationsFollowRuns.exists_current {checks : List CheckSnapshot}
    (h : ObservationsFollowRuns checks) {s : CheckSnapshot} (hs : s ∈ checks)
    (hobs : ObservationStale checks s) (hrun : ¬RunStale checks s) :
    ∃ r ∈ (latestChecksPerIdentity checks).1, LaterObservation s r ∧
      (s.workflowGeneration.isSome → r.workflowGeneration.isSome) := by
  obtain ⟨q,hq,hid,before,after,hbefore,hafter,hlt⟩ := hobs
  obtain ⟨r,hr,hrid,hnewest,hrrun,hcarry⟩ := h s hs (by simp [hbefore]) hrun
  refine ⟨r,mem_current_iff.mpr ⟨hr,hnewest.not_stale,hrrun⟩,⟨hrid,?_⟩,hcarry⟩
  obtain ⟨newest,hnewest,hmax⟩ := hnewest
  exact ⟨before,newest,hbefore,hnewest,hlt.trans_le (hmax q hq (hid.trans hrid.symm) after hafter)⟩

theorem ObservationsFollowRuns.justified {checks : List CheckSnapshot}
    (h : ObservationsFollowRuns checks) {s : CheckSnapshot}
    (hs : s ∈ (latestChecksPerIdentity checks).2) :
    ∃ r ∈ (latestChecksPerIdentity checks).1, LaterObservation s r ∨ GreaterRun s r := by
  obtain ⟨hmem,hstale⟩ := mem_superseded_iff.mp hs
  by_cases hrun : RunStale checks s
  · -- A row of the newest run justifies `s`, or a later observation inside that run does.
    obtain ⟨q,hq,workflow,old,new,hold,hnew,hlt⟩ := hrun
    obtain ⟨r,hr,newest,hnewest,hle,hrrun⟩ := exists_newest_run hq hnew
    by_cases hobs : ObservationStale checks r
    · obtain ⟨c,hc,hlater,hcarry⟩ := h.exists_current hr hobs hrrun
      obtain ⟨⟨w,n⟩,hn⟩ := Option.isSome_iff_exists.mp (hcarry (by simp [hnewest]))
      have hw := workflow_eq_of_identity_eq hlater.1 hn hnewest
      subst hw
      have hge : newest ≤ n := by
        by_contra hn'
        exact (mem_current_iff.mp hc).2.2 ⟨r,hr,w,n,newest,hn,hnewest,not_le.mp hn'⟩
      exact ⟨c,hc,.inr ⟨w,old,n,hold,hn,by omega⟩⟩
    · exact ⟨r,mem_current_iff.mpr ⟨hr,hobs,hrrun⟩,
        .inr ⟨workflow,old,newest,hold,hnewest,by omega⟩⟩
  · obtain ⟨r,hr,hlater,-⟩ := h.exists_current hmem (hstale.resolve_right hrun) hrun
    exact ⟨r,hr,.inl hlater⟩

theorem ObservationsFollowRuns.newest_kept {checks : List CheckSnapshot}
    (h : ObservationsFollowRuns checks) {r : CheckSnapshot} (hr : r ∈ checks)
    {workflow : WorkflowIdentity} {run : ℕ} (hrun : r.workflowGeneration = some (workflow,run))
    (hmax : ∀ q ∈ checks, ∀ n, q.workflowGeneration = some (workflow,n) → n ≤ run)
    (hlast : ∀ q ∈ checks, q.workflowGeneration = some (workflow,run) → ¬LaterObservation r q) :
    r ∈ (latestChecksPerIdentity checks).1 := by
  have hfresh := not_runStale_of_newest hrun hmax
  refine mem_current_iff.mpr ⟨hr,fun hobs => ?_,hfresh⟩
  obtain ⟨c,hc,hlater,hcarry⟩ := h.exists_current hr hobs hfresh
  obtain ⟨⟨w,n⟩,hn⟩ := Option.isSome_iff_exists.mp (hcarry (by simp [hrun]))
  have hw := workflow_eq_of_identity_eq hlater.1 hn hrun
  subst hw
  obtain ⟨hcmem,-,hcrun⟩ := mem_current_iff.mp hc
  have hge : run ≤ n := by
    by_contra hn'
    exact hcrun ⟨r,hr,w,n,run,hn,hrun,not_le.mp hn'⟩
  have hrun' : n = run := Nat.le_antisymm (hmax c hcmem n hn) hge
  exact hlast c hcmem (hrun' ▸ hn) hlater

/-- Of the observed rows of one check inside one run, some row is observed last. -/
theorem exists_last_observation {checks : List CheckSnapshot} {s : CheckSnapshot}
    {workflow : WorkflowIdentity} {run : ℕ} (hs : s ∈ checks) (hobs : s.observedAt.isSome)
    (hrun : s.workflowGeneration = some (workflow,run)) :
    ∃ r ∈ checks, r.identity = s.identity ∧ r.workflowGeneration = some (workflow,run) ∧
      r.observedAt.isSome ∧
      ∀ q ∈ checks, q.workflowGeneration = some (workflow,run) → ¬LaterObservation r q := by
  let peers := checks.filter fun q => decide (q.identity = s.identity ∧
    q.workflowGeneration = some (workflow,run))
  obtain ⟨stamp,hstamp⟩ := Option.isSome_iff_exists.mp hobs
  have hpeer : ∀ q, q ∈ peers ↔ q ∈ checks ∧ q.identity = s.identity ∧
      q.workflowGeneration = some (workflow,run) := by
    intro q
    simp [peers]
  have hrow : (s.identity,stamp) ∈ peers.filterMap
      (fun c => c.observedAt.map fun observed => (c.identity,observed)) :=
    List.mem_filterMap.mpr ⟨s,(hpeer s).mpr ⟨hs,rfl,hrun⟩,by simp [hstamp]⟩
  obtain ⟨newest,hnewest⟩ := keyedMax_isSome_of_mem hrow
  obtain ⟨hin,hmax⟩ := keyedMax_spec _ _ _ hnewest
  obtain ⟨r,hr,hr'⟩ := List.mem_filterMap.mp hin
  obtain ⟨observed,hobserved,heq⟩ := Option.map_eq_some_iff.mp hr'
  obtain ⟨hrid,rfl⟩ := Prod.mk.inj heq
  obtain ⟨hrmem,-,hrrun⟩ := (hpeer r).mp hr
  refine ⟨r,hrmem,hrid,hrrun,by simp [hobserved],?_⟩
  rintro q hq hqrun ⟨hqid,before,after,hbefore,hafter,hlt⟩
  have hle : after ≤ observed := hmax after (List.mem_filterMap.mpr
    ⟨q,(hpeer q).mpr ⟨hq,hqid.trans hrid,hqrun⟩,by simp [hafter,hqid,hrid]⟩)
  rw [hobserved,Option.some.injEq] at hbefore
  exact absurd hlt (not_lt.mpr (hbefore ▸ hle))

theorem LineageSound.observationsFollowRuns {checks : List CheckSnapshot}
    (h : LineageSound checks) : ObservationsFollowRuns checks := by
  intro s hs hobs hrun
  obtain ⟨stamp,hstamp⟩ := Option.isSome_iff_exists.mp hobs
  cases hgen : s.workflowGeneration with
  | some generation =>
    obtain ⟨workflow,run⟩ := generation
    have hnewest : ∀ q ∈ checks, ∀ n, q.workflowGeneration = some (workflow,n) → n ≤ run := by
      intro q hq n hn
      by_contra hlt
      exact hrun ⟨q,hq,workflow,run,n,hgen,hn,not_le.mp hlt⟩
    obtain ⟨r,hr,hrid,hrrun,hrobs,hlast⟩ := exists_last_observation hs hobs hgen
    obtain ⟨observed,hobserved⟩ := Option.isSome_iff_exists.mp hrobs
    obtain ⟨-,hfresh,hnot⟩ := mem_current_iff.mp (h.newest_kept r hr workflow run hrrun hnewest hlast)
    exact ⟨r,hr,hrid,newestObservation_of_not_stale hobserved hfresh,hnot,fun _ => by simp [hrrun]⟩
  | none =>
    by_cases hstale : ObservationStale checks s
    · obtain ⟨r,hr,hlater | ⟨workflow,old,new,hold,-,-⟩⟩ :=
        h.justified s (mem_superseded_iff.mpr ⟨hs,.inl hstale⟩)
      · obtain ⟨hrmem,hfresh,hnot⟩ := mem_current_iff.mp hr
        obtain ⟨hid,-,after,-,hafter,-⟩ := hlater
        exact ⟨r,hrmem,hid,newestObservation_of_not_stale hafter hfresh,hnot,by simp⟩
      · simp [hgen] at hold
    · exact ⟨s,hs,rfl,newestObservation_of_not_stale hstamp hstale,hrun,by simp⟩

/-- The reduction keeps a justified current verdict exactly on the rollups whose newest
observations are not confined to outdated runs. -/
theorem lineageSound_iff_observationsFollowRuns (checks : List CheckSnapshot) :
    LineageSound checks ↔ ObservationsFollowRuns checks := by
  constructor
  · exact LineageSound.observationsFollowRuns
  · intro h
    have hsplit : latestChecksPerIdentity checks =
        (checks.filter (fun c => !supersededIn checks c),
          checks.filter (fun c => !!supersededIn checks c)) := by
      rw [latestChecksPerIdentity,List.partition_eq_filter_filter]
      rfl
    refine ⟨?_,?_,?_,fun s hs => h.justified hs,fun hne hempty => ?_,?_⟩
    · rw [hsplit]
      exact List.filter_sublist
    · rw [hsplit]
      exact List.filter_sublist
    · rw [hsplit]
      exact List.filter_append_perm _ checks
    · obtain ⟨s,hs⟩ := List.exists_mem_of_ne_nil checks hne
      have hold : s ∈ (latestChecksPerIdentity checks).2 := by
        by_contra hcur
        have hcurrent : s ∈ (latestChecksPerIdentity checks).1 := by
          rw [mem_superseded_iff] at hcur
          push Not at hcur
          exact mem_current_iff.mpr ⟨hs,hcur hs⟩
        simp [hempty] at hcurrent
      obtain ⟨r,hr,-⟩ := h.justified hold
      simp [hempty] at hr
    · intro r hr workflow run hrun hmax hlast
      exact h.newest_kept hr hrun hmax hlast

/-- A rerun of run 100 observed after run 200 of the same workflow. -/
def crossedRunRows : List CheckSnapshot :=
  [{ name := "test", state := .failure, workflowName := some "ci",
     detailsUrl := some "https://github.com/o/r/actions/runs/100/job/1",
     startedAt := some "2026-01-01T02:00:00Z" },
   { name := "test", state := .success, workflowName := some "ci",
     detailsUrl := some "https://github.com/o/r/actions/runs/200/job/1",
     startedAt := some "2026-01-01T01:00:00Z" }]

/-- Each of the two rows retires the other and no verdict is left. -/
theorem crossedRunRows_not_lineageSound :
    (latestChecksPerIdentity crossedRunRows).1 = [] ∧ ¬LineageSound crossedRunRows := by
  have hempty : (latestChecksPerIdentity crossedRunRows).1 = [] := by decide +kernel
  exact ⟨hempty,fun h => h.nonempty (by simp [crossedRunRows]) hempty⟩

end Cara
