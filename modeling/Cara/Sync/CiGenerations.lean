import Cara.Sync.RootMerge
import Cara.Sync.AutoSkip

/-! Workflow generations of one exact head. Rows of the rollup that a listed generation outdates are
replaced by votes of the newest generation of their workflow; every other row is kept. -/
namespace Cara
namespace Sync

open RequiredRuns (HeadRunLineage WorkflowRunLineage CheckSuiteLineage)

section Model

def providerGenerationIsComplete (status : String) : Bool := Text.eqIgnoreAsciiCase status "completed"

def successfulGenerationConclusion (conclusion : String) : Bool :=
  ["success","neutral","skipped"].any fun candidate => Text.eqIgnoreAsciiCase conclusion candidate

structure CiGenerationSelection where
  workflowRun : WorkflowRunLineage
  checkSuite : CheckSuiteLineage
deriving DecidableEq

def CiGenerationSelection.concluded (g : CiGenerationSelection) (conclusion : String) : Bool :=
  Text.eqIgnoreAsciiCase g.workflowRun.conclusion conclusion ||
    Text.eqIgnoreAsciiCase g.checkSuite.conclusion conclusion

/-- A failed job is no verdict while either half of the generation still produces checks. -/
def generationCheckState (g : CiGenerationSelection) : CheckState :=
  if !providerGenerationIsComplete g.workflowRun.status || !providerGenerationIsComplete g.checkSuite.status then
    .inProgress
  else if successfulGenerationConclusion g.workflowRun.conclusion &&
      successfulGenerationConclusion g.checkSuite.conclusion then .success
  else if g.concluded "cancelled" || g.concluded "stale" then .cancelled
  else if g.concluded "timed_out" then .timedOut
  else if g.concluded "action_required" then .actionRequired
  else if g.workflowRun.conclusion = "" ∨ g.checkSuite.conclusion = "" then .unknown
  else .failure

/-- Incomplete, cross-head or duplicate provider identities cannot replace raw checks. -/
def hasExactUnambiguousLineage (lineage : HeadRunLineage) (headOid : CommitOid) : Bool :=
  lineage.complete && decide (lineage.headSha = headOid ∧ (lineage.workflowRuns.map (·.runId)).Nodup ∧
    (lineage.checkSuites.map (·.id)).Nodup)

variable (lineage : HeadRunLineage) (headOid : CommitOid)

def namedRuns : List WorkflowRunLineage :=
  lineage.workflowRuns.filter fun run => decide (run.headSha = headOid ∧ run.workflowName ≠ "")

def suiteOfRun (run : WorkflowRunLineage) : Option CheckSuiteLineage :=
  lineage.checkSuites.find? fun suite => decide (suite.headSha = headOid ∧ suite.id = run.checkSuiteId)

/-- A run whose suite is not listed on the head is no generation. -/
def generations : List CiGenerationSelection :=
  (namedRuns lineage headOid).filterMap fun run => (suiteOfRun lineage headOid run).map (⟨run,·⟩)

def newerGeneration (best : Option CiGenerationSelection) (g : CiGenerationSelection) :
    Option CiGenerationSelection :=
  match best with
  | none => some g
  | some current => if current.workflowRun.runId < g.workflowRun.runId then some g else some current

def newestGeneration (workflow : String) : Option CiGenerationSelection :=
  ((generations lineage headOid).filter fun g => decide (g.workflowRun.workflowName = workflow)).foldl
    newerGeneration none

def generationWorkflows : List String :=
  Vec.dedupAdjacent (((generations lineage headOid).map (·.workflowRun.workflowName)).insertionSort (· ≤ ·))

def selectedGenerations : List CiGenerationSelection :=
  (generationWorkflows lineage headOid).filterMap (newestGeneration lineage headOid)

def checkRunId (check : CheckSnapshot) : Option ℕ := check.detailsUrl.bind workflowRunId

/-- The workflow a row names, or that of the listed run its URL names. -/
def workflowOf (check : CheckSnapshot) : Option String :=
  check.workflowName.or ((checkRunId check).bind fun id =>
    ((namedRuns lineage headOid).find? fun run => decide (run.runId = id)).map (·.workflowName))

/-- The workflow whose newest generation outdates the row. -/
def ownerOf (check : CheckSnapshot) : Option String := do
  let workflow ← workflowOf lineage headOid check
  let selected ← newestGeneration lineage headOid workflow
  let id ← checkRunId check
  if id ≤ selected.workflowRun.runId then some workflow else none

/-- Order by name, then by App with an absent one first. -/
def namedLe (a b : String × Option ℕ) : Prop :=
  a.1 < b.1 ∨ a.1 = b.1 ∧
    match a.2,b.2 with
    | none,_ => True
    | some _,none => False
    | some x,some y => x ≤ y

instance : DecidableRel namedLe := fun a b => by
  unfold namedLe
  cases a.2 <;> cases b.2 <;> infer_instance

/-- The names and Apps that the votes of a workflow take over. -/
def replacementNames (checks : List CheckSnapshot) (workflow : String) : List (String × Option ℕ) :=
  let names := Vec.dedupAdjacent (((checks.filter fun check =>
    decide (ownerOf lineage headOid check = some workflow)).map fun check =>
      (check.name,check.appId)).insertionSort namedLe)
  if names = [] then [("workflow generation: " ++ workflow,none)] else names

def generationCheck (g : CiGenerationSelection) (row : String × Option ℕ) : CheckSnapshot where
  name := row.1
  state := generationCheckState g
  providerState := some ("run=" ++ g.workflowRun.status ++ "/" ++ g.workflowRun.conclusion ++ " suite=" ++
    g.checkSuite.status ++ "/" ++ g.checkSuite.conclusion)
  detailsUrl := some ("/actions/runs/" ++ toString g.workflowRun.runId)
  providerKind := some "WorkflowRunLineage"
  workflowName := some g.workflowRun.workflowName
  appId := row.2
  checkSuiteId := some g.checkSuite.id
  headOid := some headOid

def generationVotes (checks : List CheckSnapshot) (g : CiGenerationSelection) : List CheckSnapshot :=
  (replacementNames lineage headOid checks g.workflowRun.workflowName).map (generationCheck headOid g)

structure CiGenerationEvidence where
  effectiveChecks : List CheckSnapshot
  supersededChecks : List CheckSnapshot
  selectedGenerations : List CiGenerationSelection := []
deriving DecidableEq

/-- A row without a run or a workflow of the lineage is ambiguous and stays. -/
def keptChecks (checks : List CheckSnapshot) : List CheckSnapshot :=
  checks.filter fun check => (ownerOf lineage headOid check).isNone

def ciGenerationEvidence (checks : List CheckSnapshot) (headOid : CommitOid) (lineage : Option HeadRunLineage) :
    CiGenerationEvidence :=
  let superseded := (latestChecksPerIdentity checks).2
  match lineage with
  | none => { effectiveChecks := checks,supersededChecks := superseded }
  | some lineage =>
      if !hasExactUnambiguousLineage lineage headOid || (generations lineage headOid).isEmpty then
        { effectiveChecks := checks,supersededChecks := superseded }
      else {
        effectiveChecks := keptChecks lineage headOid checks ++
          (selectedGenerations lineage headOid).flatMap (generationVotes lineage headOid checks)
        supersededChecks := (checks.filter fun check => (ownerOf lineage headOid check).isSome).foldl
          (fun rows check => if check ∈ rows then rows else rows ++ [check]) superseded
        selectedGenerations := selectedGenerations lineage headOid }

end Model

section Selection

variable {lineage : HeadRunLineage} {headOid : CommitOid} {workflow : String} {g g' : CiGenerationSelection}

structure Newest (lineage : HeadRunLineage) (headOid : CommitOid) (workflow : String)
    (g : CiGenerationSelection) : Prop where
  listed : g ∈ generations lineage headOid
  name : g.workflowRun.workflowName = workflow
  greatest : ∀ other ∈ generations lineage headOid,other.workflowRun.workflowName = workflow →
    other.workflowRun.runId ≤ g.workflowRun.runId

theorem foldl_newerGeneration {rows : List CiGenerationSelection} {best : Option CiGenerationSelection}
    (h : rows.foldl newerGeneration best = some g) :
    (best = some g ∨ g ∈ rows) ∧ (∀ b,best = some b → b.workflowRun.runId ≤ g.workflowRun.runId) ∧
      ∀ row ∈ rows,row.workflowRun.runId ≤ g.workflowRun.runId := by
  induction rows generalizing best with
  | nil =>
    have hbest : best = some g := h
    refine ⟨.inl hbest,fun b hb => ?_,fun row hrow => by cases hrow⟩
    rw [hbest] at hb
    cases hb
    exact le_rfl
  | cons row rows ih =>
    obtain ⟨hfrom,hbest,hrows⟩ := ih h
    have hrow : row.workflowRun.runId ≤ g.workflowRun.runId ∧
        ∀ b,best = some b → b.workflowRun.runId ≤ g.workflowRun.runId := by
      cases best with
      | none => exact ⟨hbest row rfl,fun b hb => by cases hb⟩
      | some current =>
        by_cases hlt : current.workflowRun.runId < row.workflowRun.runId
        · have hle := hbest row (if_pos hlt)
          exact ⟨hle,fun b hb => by cases hb; omega⟩
        · have hle := hbest current (if_neg hlt)
          exact ⟨by omega,fun b hb => by cases hb; exact hle⟩
    refine ⟨?_,hrow.2,?_⟩
    · rcases hfrom with hfrom | hfrom
      · cases best with
        | none =>
          cases hfrom
          exact .inr List.mem_cons_self
        | some current =>
          by_cases hlt : current.workflowRun.runId < row.workflowRun.runId
          · have hnew : some row = some g := (if_pos hlt).symm.trans hfrom
            cases hnew
            exact .inr List.mem_cons_self
          · have hold : some current = some g := (if_neg hlt).symm.trans hfrom
            exact .inl hold
      · exact .inr (List.mem_cons_of_mem _ hfrom)
    · intro other hother
      rcases List.mem_cons.mp hother with rfl | hother
      · exact hrow.1
      · exact hrows other hother

theorem foldl_newerGeneration_isSome {rows : List CiGenerationSelection} {best : Option CiGenerationSelection}
    (h : best.isSome = true ∨ rows ≠ []) : (rows.foldl newerGeneration best).isSome = true := by
  induction rows generalizing best with
  | nil => simpa using h
  | cons row rows ih =>
    apply ih
    left
    cases best with
    | none => rfl
    | some current =>
      unfold newerGeneration
      dsimp only
      split <;> rfl

theorem newest_of_newestGeneration (h : newestGeneration lineage headOid workflow = some g) :
    Newest lineage headOid workflow g := by
  obtain ⟨hfrom,_,hgreatest⟩ := foldl_newerGeneration h
  rcases hfrom with hfrom | hfrom
  · cases hfrom
  · obtain ⟨hlisted,hname⟩ := List.mem_filter.mp hfrom
    exact ⟨hlisted,of_decide_eq_true hname,fun other hother hsame =>
      hgreatest other (List.mem_filter.mpr ⟨hother,decide_eq_true hsame⟩)⟩

theorem newestGeneration_of_listed (h : g ∈ generations lineage headOid) :
    ∃ selected,newestGeneration lineage headOid g.workflowRun.workflowName = some selected := by
  apply Option.isSome_iff_exists.mp
  apply foldl_newerGeneration_isSome
  right
  exact List.ne_nil_of_mem (List.mem_filter.mpr ⟨h,decide_eq_true rfl⟩)

theorem mem_selectedGenerations : g ∈ selectedGenerations lineage headOid ↔
    newestGeneration lineage headOid g.workflowRun.workflowName = some g := by
  unfold selectedGenerations
  rw [List.mem_filterMap]
  constructor
  · rintro ⟨workflow,_,hnewest⟩
    rw [(newest_of_newestGeneration hnewest).name]
    exact hnewest
  · intro h
    refine ⟨g.workflowRun.workflowName,?_,h⟩
    unfold generationWorkflows
    rw [Vec.mem_dedupAdjacent,List.mem_insertionSort]
    exact List.mem_map_of_mem (newest_of_newestGeneration h).listed

theorem run_of_listed (h : g ∈ generations lineage headOid) : g.workflowRun ∈ lineage.workflowRuns := by
  obtain ⟨run,hrun,hg⟩ := List.mem_filterMap.mp h
  obtain ⟨suite,_,rfl⟩ := Option.map_eq_some_iff.mp hg
  exact (List.mem_filter.mp hrun).1

theorem Newest.unique (hexact : hasExactUnambiguousLineage lineage headOid = true)
    (h : Newest lineage headOid workflow g) (h' : Newest lineage headOid workflow g') :
    g.workflowRun = g'.workflowRun := by
  have hid : g.workflowRun.runId = g'.workflowRun.runId :=
    le_antisymm (h'.greatest g h.listed h.name) (h.greatest g' h'.listed h'.name)
  have hnodup := (of_decide_eq_true (Bool.and_eq_true_iff.mp hexact).2).2.1
  exact List.inj_on_of_nodup_map hnodup (run_of_listed h.listed) (run_of_listed h'.listed) hid

end Selection

section Votes

variable {lineage : HeadRunLineage} {headOid : CommitOid} {workflow : String} {g g' : CiGenerationSelection}
  {checks : List CheckSnapshot} {row : String × Option ℕ}

theorem replacementNames_ne_nil (checks : List CheckSnapshot) (workflow : String) :
    replacementNames lineage headOid checks workflow ≠ [] := by
  unfold replacementNames
  dsimp only
  split
  · exact List.cons_ne_nil _ _
  · assumption

/-- The votes of a workflow take over the names of the rows that it outdates. -/
theorem mem_replacementNames {check : CheckSnapshot} (hcheck : check ∈ checks)
    (howner : ownerOf lineage headOid check = some workflow) :
    (check.name,check.appId) ∈ replacementNames lineage headOid checks workflow := by
  have hmem : (check.name,check.appId) ∈ Vec.dedupAdjacent (((checks.filter fun check =>
      decide (ownerOf lineage headOid check = some workflow)).map fun check =>
        (check.name,check.appId)).insertionSort namedLe) := by
    rw [Vec.mem_dedupAdjacent,List.mem_insertionSort]
    exact List.mem_map_of_mem (List.mem_filter.mpr ⟨hcheck,decide_eq_true howner⟩)
  unfold replacementNames
  dsimp only
  rw [if_neg (List.ne_nil_of_mem hmem)]
  exact hmem

theorem owner_spec {check : CheckSnapshot} (h : ownerOf lineage headOid check = some workflow) :
    workflowOf lineage headOid check = some workflow ∧
      ∃ selected id,newestGeneration lineage headOid workflow = some selected ∧
        checkRunId check = some id ∧ id ≤ selected.workflowRun.runId := by
  unfold ownerOf at h
  obtain ⟨named,hnamed,h⟩ := Option.bind_eq_some_iff.mp h
  obtain ⟨selected,hselected,h⟩ := Option.bind_eq_some_iff.mp h
  obtain ⟨id,hid,h⟩ := Option.bind_eq_some_iff.mp h
  split at h
  case isFalse => cases h
  case isTrue hle =>
    cases h
    exact ⟨hnamed,selected,id,hselected,hid,hle⟩

theorem effectiveChecks_eq (hexact : hasExactUnambiguousLineage lineage headOid = true)
    (hsome : generations lineage headOid ≠ []) :
    (ciGenerationEvidence checks headOid (some lineage)).effectiveChecks =
      keptChecks lineage headOid checks ++
        (selectedGenerations lineage headOid).flatMap (generationVotes lineage headOid checks) := by
  have hgate : ¬((!hasExactUnambiguousLineage lineage headOid ||
      (generations lineage headOid).isEmpty) = true) := by
    rw [hexact]
    simpa using hsome
  unfold ciGenerationEvidence
  dsimp only
  rw [if_neg hgate]

theorem effectiveChecks_raw (h : hasExactUnambiguousLineage lineage headOid = false ∨
    generations lineage headOid = []) :
    (ciGenerationEvidence checks headOid (some lineage)).effectiveChecks = checks := by
  have hgate : (!hasExactUnambiguousLineage lineage headOid ||
      (generations lineage headOid).isEmpty) = true := by
    rcases h with h | h
    · rw [h]
      rfl
    · rw [h]
      simp
  unfold ciGenerationEvidence
  dsimp only
  rw [if_pos hgate]

theorem mem_votes (hexact : hasExactUnambiguousLineage lineage headOid = true)
    (hselected : newestGeneration lineage headOid g.workflowRun.workflowName = some g)
    (hrow : row ∈ replacementNames lineage headOid checks g.workflowRun.workflowName) :
    generationCheck headOid g row ∈ (ciGenerationEvidence checks headOid (some lineage)).effectiveChecks := by
  have hlisted := (newest_of_newestGeneration hselected).listed
  rw [effectiveChecks_eq hexact (List.ne_nil_of_mem hlisted)]
  exact List.mem_append_right _ (List.mem_flatMap.mpr
    ⟨g,mem_selectedGenerations.mpr hselected,List.mem_map_of_mem hrow⟩)

/-- A row of the internal kind is a vote, once the provider has sent none. -/
theorem vote_of_kind (hexact : hasExactUnambiguousLineage lineage headOid = true)
    (hprovider : ∀ check ∈ checks,check.providerKind ≠ some "WorkflowRunLineage") {check : CheckSnapshot}
    (hcheck : check ∈ (ciGenerationEvidence checks headOid (some lineage)).effectiveChecks)
    (hkind : check.providerKind = some "WorkflowRunLineage") :
    ∃ g row,newestGeneration lineage headOid g.workflowRun.workflowName = some g ∧
      check = generationCheck headOid g row := by
  by_cases hsome : generations lineage headOid = []
  · rw [effectiveChecks_raw (.inr hsome)] at hcheck
    exact absurd hkind (hprovider check hcheck)
  · rw [effectiveChecks_eq hexact hsome] at hcheck
    rcases List.mem_append.mp hcheck with hkept | hvote
    · exact absurd hkind (hprovider check (List.mem_filter.mp hkept).1)
    · obtain ⟨g,hg,hvote⟩ := List.mem_flatMap.mp hvote
      obtain ⟨row,_,rfl⟩ := List.mem_map.mp hvote
      exact ⟨g,row,mem_selectedGenerations.mp hg,rfl⟩

theorem workflowGeneration_eq {check : CheckSnapshot} {identity : WorkflowIdentity} {id : ℕ}
    (h : check.workflowGeneration = some (identity,id)) : check.providerKind = identity.providerKind ∧
      check.workflowName = some identity.workflowName ∧ check.detailsUrl.bind CheckSnapshot.runIdOfUrl = some id := by
  unfold CheckSnapshot.workflowGeneration at h
  obtain ⟨name,hname,h⟩ := Option.bind_eq_some_iff.mp h
  obtain ⟨url,hurl,h⟩ := Option.bind_eq_some_iff.mp h
  obtain ⟨found,hfound,h⟩ := Option.bind_eq_some_iff.mp h
  cases h
  refine ⟨rfl,hname,?_⟩
  rw [hurl]
  exact hfound

theorem vote_current (hexact : hasExactUnambiguousLineage lineage headOid = true)
    (hprovider : ∀ check ∈ checks,check.providerKind ≠ some "WorkflowRunLineage")
    (hselected : newestGeneration lineage headOid g.workflowRun.workflowName = some g)
    (hrow : row ∈ replacementNames lineage headOid checks g.workflowRun.workflowName) :
    generationCheck headOid g row ∈
      (latestChecksPerIdentity (ciGenerationEvidence checks headOid (some lineage)).effectiveChecks).1 := by
  rw [mem_current_iff]
  refine ⟨mem_votes hexact hselected hrow,?_,?_⟩
  · rintro ⟨other,_,_,before,_,hbefore,_⟩
    cases hbefore
  · rintro ⟨other,hother,identity,old,new,hold,hnew,hlt⟩
    obtain ⟨hkind,hname,hold⟩ := workflowGeneration_eq hold
    obtain ⟨hkind',hname',hnew⟩ := workflowGeneration_eq hnew
    obtain ⟨g',row',hselected',rfl⟩ := vote_of_kind hexact hprovider hother (hkind'.trans hkind.symm)
    -- one workflow has one newest generation, so both rows name one run
    have hworkflow : g'.workflowRun.workflowName = g.workflowRun.workflowName :=
      Option.some.inj (hname'.trans hname.symm)
    rw [hworkflow,hselected] at hselected'
    cases hselected'
    have hsame : old = new := Option.some.inj (hold.symm.trans hnew)
    omega

theorem run_of_success (h : generationCheckState g = .success) :
    providerGenerationIsComplete g.workflowRun.status = true ∧
      successfulGenerationConclusion g.workflowRun.conclusion = true := by
  unfold generationCheckState at h
  split at h
  · cases h
  case isFalse hcomplete =>
    split at h
    case isTrue hsuccess =>
      simp only [Bool.or_eq_true,Bool.not_eq_true',not_or,Bool.not_eq_false] at hcomplete
      exact ⟨hcomplete.1,(Bool.and_eq_true_iff.mp hsuccess).1⟩
    case isFalse =>
      split at h
      · cases h
      · split at h
        · cases h
        · split at h
          · cases h
          · split at h <;> cases h

theorem generationCheckState_decisive (headOid : CommitOid) (g : CiGenerationSelection) (row : String × Option ℕ) :
    generationCheckState g = .success ∨ checkFailed (generationCheck headOid g row) = true ∨
      (generationCheck headOid g row).state = .inProgress := by
  show _ ∨ checkFailed _ = true ∨ generationCheckState g = .inProgress
  unfold checkFailed
  show _ ∨ decide (generationCheckState g ∈ _) = true ∨ _
  unfold generationCheckState
  split
  · exact .inr (.inr rfl)
  · split
    · exact .inl rfl
    · split
      · exact .inr (.inl rfl)
      · split
        · exact .inr (.inl rfl)
        · split
          · exact .inr (.inl rfl)
          · split <;> exact .inr (.inl rfl)

/-- A passing classification has neither a failed nor a running current row. -/
theorem passing_spec (h : classifyChecks checks false = .passing) {check : CheckSnapshot}
    (hcheck : check ∈ (latestChecksPerIdentity checks).1) :
    checkFailed check = false ∧ check.state ≠ .inProgress := by
  unfold classifyChecks at h
  dsimp only at h
  rw [if_neg Bool.false_ne_true] at h
  split at h
  · cases h
  case isFalse hfailed =>
    split at h
    · cases h
    case isFalse hpending =>
      constructor
      · by_contra hbad
        exact hfailed (List.any_eq_true.mpr ⟨check,hcheck,by simpa using hbad⟩)
      · intro hstate
        apply hpending
        rw [Bool.or_eq_true]
        right
        exact List.any_eq_true.mpr ⟨check,hcheck,by rw [hstate]; rfl⟩

structure Represents (headOid : CommitOid) (g : CiGenerationSelection) (check vote : CheckSnapshot) : Prop where
  generated : vote = generationCheck headOid g (check.name,check.appId)
  name : vote.name = check.name
  app : vote.appId = check.appId

/-- A row that the newest generation of its workflow outdates and represents. -/
def Outdated (lineage : HeadRunLineage) (headOid : CommitOid) (check : CheckSnapshot)
    (effective : List CheckSnapshot) : Prop :=
  ∃ workflow g id,workflowOf lineage headOid check = some workflow ∧ Newest lineage headOid workflow g ∧
    checkRunId check = some id ∧ id ≤ g.workflowRun.runId ∧ ∃ vote ∈ effective,Represents headOid g check vote

theorem kept_or_outdated (hexact : hasExactUnambiguousLineage lineage headOid = true) {check : CheckSnapshot}
    (hcheck : check ∈ checks) :
    check ∈ (ciGenerationEvidence checks headOid (some lineage)).effectiveChecks ∨
      Outdated lineage headOid check (ciGenerationEvidence checks headOid (some lineage)).effectiveChecks := by
  cases howner : ownerOf lineage headOid check with
  | none =>
    left
    by_cases hsome : generations lineage headOid = []
    · rw [effectiveChecks_raw (.inr hsome)]
      exact hcheck
    · rw [effectiveChecks_eq hexact hsome]
      exact List.mem_append_left _ (List.mem_filter.mpr ⟨hcheck,by rw [howner]; rfl⟩)
  | some workflow =>
    right
    obtain ⟨hworkflow,g,id,hselected,hid,hle⟩ := owner_spec howner
    have hnewest := newest_of_newestGeneration hselected
    rw [← hnewest.name] at hselected howner
    exact ⟨workflow,g,id,hworkflow,hnewest,hid,hle,_,
      mem_votes hexact hselected (mem_replacementNames hcheck howner),rfl,rfl,rfl⟩

/-- Lineage never turns red green: what it cannot prove leaves the rollup alone, what it outdates it
represents by the newest generation, and the result passes only when these have all succeeded. -/
theorem lineage_never_greens (checks : List CheckSnapshot) (headOid : CommitOid) (lineage : Option HeadRunLineage)
    (hprovider : ∀ check ∈ checks,check.providerKind ≠ some "WorkflowRunLineage") :
    ((∀ l,lineage = some l → hasExactUnambiguousLineage l headOid = false) →
      (ciGenerationEvidence checks headOid lineage).effectiveChecks = checks) ∧
    ∀ l,lineage = some l → hasExactUnambiguousLineage l headOid = true →
      (∀ check ∈ checks,check ∈ (ciGenerationEvidence checks headOid lineage).effectiveChecks ∨
        Outdated l headOid check (ciGenerationEvidence checks headOid lineage).effectiveChecks) ∧
      (classifyChecks (ciGenerationEvidence checks headOid lineage).effectiveChecks false = .passing →
        ∀ workflow g,Newest l headOid workflow g →
          providerGenerationIsComplete g.workflowRun.status = true ∧
            successfulGenerationConclusion g.workflowRun.conclusion = true) := by
  constructor
  · intro h
    cases lineage with
    | none => rfl
    | some l => exact effectiveChecks_raw (.inl (h l rfl))
  · rintro l rfl hexact
    refine ⟨fun check hcheck => kept_or_outdated hexact hcheck,fun hpassing workflow g hnewest => ?_⟩
    obtain ⟨selected,hselected⟩ := newestGeneration_of_listed hnewest.listed
    have hselectedNewest := newest_of_newestGeneration hselected
    rw [hnewest.name] at hselectedNewest
    rw [← hselectedNewest.name.trans hnewest.name.symm] at hselected
    rw [hnewest.unique hexact hselectedNewest]
    -- the workflow votes at least once, and its votes are current rows
    have hnames : replacementNames l headOid checks selected.workflowRun.workflowName ≠ [] :=
      replacementNames_ne_nil checks _
    obtain ⟨row,hrow⟩ := List.exists_mem_of_ne_nil _ hnames
    obtain ⟨hgreen,hdone⟩ := passing_spec hpassing (vote_current hexact hprovider hselected hrow)
    rcases generationCheckState_decisive headOid selected row with hstate | hstate | hstate
    · exact run_of_success hstate
    · rw [hstate] at hgreen
      cases hgreen
    · exact absurd hstate hdone

end Votes

section Samples

def lintRow (run : String) (state : CheckState) : CheckSnapshot where
  name := "lint"
  state := state
  detailsUrl := some ("https://github.com/octo/repo/actions/runs/" ++ run ++ "/job/1")
  providerKind := some "CheckRun"
  workflowName := some "CI"
  headOid := some "h1"

def ciRun (runId suiteId : ℕ) (status conclusion : String) : WorkflowRunLineage where
  runId := runId
  checkSuiteId := suiteId
  workflowName := "CI"
  headSha := "h1"
  status := status
  conclusion := conclusion
  event := "pull_request"

def ciSuite (id : ℕ) (status conclusion : String) : CheckSuiteLineage where
  id := id
  headSha := "h1"
  status := status
  conclusion := conclusion
  appSlug := "github-actions"
  rerequestable := true

def unsuitedLineage : HeadRunLineage where
  headSha := "h1"
  checkSuites := [ciSuite 1 "completed" "success"]
  workflowRuns := [ciRun 100 1 "completed" "success",ciRun 200 2 "in_progress" ""]
  complete := true

def failedLineage : HeadRunLineage where
  headSha := "h1"
  checkSuites := [ciSuite 1 "completed" "failure"]
  workflowRuns := [ciRun 100 1 "completed" "failure"]
  complete := true

theorem lint_kept_or_outdated :
    lintRow "90" .failure ∈
        (ciGenerationEvidence [lintRow "90" .failure] "h1" (some unsuitedLineage)).effectiveChecks ∨
      Outdated unsuitedLineage "h1" (lintRow "90" .failure)
        (ciGenerationEvidence [lintRow "90" .failure] "h1" (some unsuitedLineage)).effectiveChecks := by
  have hprovider : ∀ check ∈ [lintRow "90" .failure],check.providerKind ≠ some "WorkflowRunLineage" := by
    intro check hcheck
    rw [List.mem_singleton.mp hcheck]
    decide
  exact ((lineage_never_greens _ "h1" (some unsuitedLineage) hprovider).2 _ rfl (by decide +kernel)).1 _
    (List.mem_singleton_self _)

/-- The newest run of the workflow is still in progress, yet it has no suite and the result passes. A row of
the internal kind would even outdate the vote of a failed generation. -/
theorem unsuited_run_ignored :
    (hasExactUnambiguousLineage unsuitedLineage "h1" = true ∧
      ciRun 200 2 "in_progress" "" ∈ namedRuns unsuitedLineage "h1" ∧
      (∀ run ∈ namedRuns unsuitedLineage "h1",run.runId ≤ 200) ∧
      providerGenerationIsComplete "in_progress" = false ∧
      classifyChecks (ciGenerationEvidence [lintRow "90" .failure] "h1" (some unsuitedLineage)).effectiveChecks
        false = .passing) ∧
    hasExactUnambiguousLineage failedLineage "h1" = true ∧
    namedRuns failedLineage "h1" = [ciRun 100 1 "completed" "failure"] ∧
    classifyChecks (ciGenerationEvidence
      [{ lintRow "300" .success with providerKind := some "WorkflowRunLineage" }] "h1"
      (some failedLineage)).effectiveChecks false = .passing := by
  decide +kernel

end Samples

end Sync
end Cara
