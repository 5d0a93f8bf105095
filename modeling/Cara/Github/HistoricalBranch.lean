import Cara.GraphMembership
import Cara.Github.StackModel
import Cara.Lib.Guard
import Cara.Lib.FunctionalGraph
import Cara.Lib.Loop
import Cara.Lib.Vec

/-! A checkout that sits on a branch of landed work: the pull request the branch names, and the walk from
it over merged successors to the open member that took its place. -/
namespace Cara
namespace HistoricalBranch

open Github (DiscoveryError)
open Cara.Graph (Indexed rowsOf mem_rowsOf_iff)
open Relation (ReflTransGen TransGen)

section Answers

structure DiscoveryOptions where
  label : String := "caravan"
  allowUnlabelledHistoricalPrCreation : Bool := false
  requireCurrentPrResolution : Bool := true
deriving DecidableEq

inductive ResolutionError where
  | provider (error : DiscoveryError)
  | historicalCurrentPullRequest (reason branch : String) (candidates : List PrNumber)
deriving DecidableEq

/-- Earlier base names of pull requests; a later row of a number replaces an earlier one. -/
abbrev BaseHistory := List (PrNumber × List String)

structure BranchAnswers where
  history : Except DiscoveryError (List PullRequestSnapshot)
  localHead : Except DiscoveryError CommitOid
  remoteHead : Except DiscoveryError CommitOid
  ancestor : Except DiscoveryError Bool
  baseHistory : Except DiscoveryError BaseHistory

structure Pulls where
  prs : PullRequestMap
  indexed : Indexed prs

end Answers

section Subject

variable (options : DiscoveryOptions) (repository : RepositoryId) (branch : String)
  (answers : BranchAnswers)

def provided {α : Type} (read : Except DiscoveryError α) : Except ResolutionError α :=
  read.mapError .provider

def fail {α : Type} (reason : String) (candidates : List PrNumber) : Except ResolutionError α :=
  .error (.historicalCurrentPullRequest reason branch candidates)

def forkOnly (pull : PullRequestSnapshot) : Bool :=
  pull.crossRepository || decide (pull.head.repository ≠ repository)

/-- One exact open head of the repository takes precedence over retained history. -/
def resolveExactOpenReusedBranch (history : List PullRequestSnapshot) :
    Except ResolutionError (Option PullRequestSnapshot) :=
  match history.filter fun pull => decide (pull.state = .open) with
  | [] => .ok none
  | [current] =>
      if forkOnly repository current then fail branch "fork_only_open_head" [current.number]
      else do
        let localOid ← provided answers.localHead
        let remote ← provided answers.remoteHead
        if current.head.oid ≠ localOid ∨ remote ≠ localOid then
          fail branch "exact_open_head_mismatch" [current.number]
        else if history.any fun pull => decide (pull.number ≠ current.number) &&
            (pull.hasLabel options.label || pull.hasLabel "caravan-evicted") then
          fail branch "historical_membership_conflict" [current.number]
        else return some current
  | opened => fail branch "open_branch_reuse_ambiguous" (opened.map (·.number))

def validateReusedHistoricalHead (historical : PullRequestSnapshot) : Except ResolutionError Unit := do
  let localOid ← provided answers.localHead
  let remote ← provided answers.remoteHead
  if localOid = historical.head.oid ∨ remote = historical.head.oid then
    fail branch "unchanged_merged_head" [historical.number]
  else if localOid ≠ remote then fail branch "unpublished_generation" [historical.number]
  else
    let ancestor ← provided answers.ancestor
    if ancestor then return ()
    else fail branch "historical_head_not_ancestor" [historical.number]

/-- A branch that the provider no longer has is told apart from a read that failed. -/
def remoteOfHistorical (historical : PullRequestSnapshot) : Except ResolutionError CommitOid :=
  match answers.remoteHead with
  | .ok remote => .ok remote
  | .error (.commandFailed command code stderr) =>
      if code = some 1 ∧ Text.contains stderr "404" then fail branch "deleted_head" [historical.number]
      else .error (.provider (.commandFailed command code stderr))
  | .error error => .error (.provider error)

def validateHistoricalHead (historical : PullRequestSnapshot) : Except ResolutionError Unit := do
  let localOid ← provided answers.localHead
  let remote ← remoteOfHistorical branch answers historical
  if localOid ≠ historical.head.oid ∨ remote ≠ historical.head.oid then
    fail branch "stale_oid" [historical.number]
  else return ()

inductive Subject where
  | absent
  | reused (current : PullRequestSnapshot)
  | landed (historical : PullRequestSnapshot)
deriving DecidableEq

def subject : Except ResolutionError Subject := do
  let rows ← provided answers.history
  let history := (rows.filter fun pull => decide (pull.head.name = branch)).insertionSort
    fun a b => a.number ≤ b.number
  if history.isEmpty then return .absent
  else
    match ← resolveExactOpenReusedBranch options repository branch answers history with
    | some current => return .reused current
    | none =>
        match history with
        | [historical] =>
            if historical.state ≠ .merged then fail branch "closed_unmerged" [historical.number]
            else if !historical.hasLabel options.label then
              if !options.allowUnlabelledHistoricalPrCreation then
                fail branch "missing_caravan_label" [historical.number]
              else if forkOnly repository historical then
                fail branch "fork_only_head" [historical.number]
              else do
                validateReusedHistoricalHead branch answers historical
                return .absent
            else if forkOnly repository historical then
              fail branch "fork_only_head" [historical.number]
            else do
              validateHistoricalHead branch answers historical
              return .landed historical
        | _ => fail branch "branch_reuse_ambiguous" (history.map (·.number))

end Subject

section Walk

variable (options : DiscoveryOptions) (repository : RepositoryId) (branch : String) (pulls : Pulls)
  (answers : BranchAnswers) (historical : PullRequestSnapshot)

def predecessor (current : PrNumber) : PullRequestSnapshot := (pulls.prs[current]?).getD historical

/-- A labelled pull request of the repository other than the current one. -/
def eligible (current : PrNumber) (candidate : PullRequestSnapshot) : Bool :=
  decide (candidate.number ≠ current) && candidate.hasLabel options.label &&
    decide (candidate.head.repository = repository) && !candidate.crossRepository

def basedOn (name : String) (candidate : PullRequestSnapshot) : Bool := decide (candidate.base.name = name)

def formerlyBasedOn (table : BaseHistory) (name : String) (candidate : PullRequestSnapshot) : Bool :=
  (table.reverse.lookup candidate.number).any fun names => decide (name ∈ names)

/-- Numbers of the eligible rows with a property, in order and without repetition. -/
def successors (current : PrNumber) (property : PullRequestSnapshot → Bool) : List PrNumber :=
  Vec.dedupAdjacent ((((rowsOf pulls.prs).filter fun candidate =>
    eligible options repository current candidate && property candidate).map
      (·.number)).insertionSort (· ≤ ·))

def baseRefHistory : Except ResolutionError BaseHistory :=
  if (rowsOf pulls.prs).isEmpty then .ok [] else provided answers.baseHistory

structure WalkState where
  current : PrNumber
  baseHistory : BaseHistory := []
deriving DecidableEq

def chooseSuccessor (state : WalkState) :
    List PrNumber → Turn WalkState (Except ResolutionError (Option PrNumber))
  | [] => .done (.ok none)
  | [successor] =>
      match pulls.prs[successor]? with
      | none => .done (.ok none)
      | some pull =>
          if pull.state = .open ∧ pull.isActiveCaravanMember then .done (.ok (some successor))
          else if pull.state ≠ .merged then
            .done (fail branch "successor_not_active_or_merged" [historical.number])
          else .again { state with current := successor }
  | found => .done (fail branch "ambiguous_successor" found)

/-- One turn of the walk: current bases first, former base names when there is none. -/
def walkTurn (_ : ℕ) (state : WalkState) : Turn WalkState (Except ResolutionError (Option PrNumber)) :=
  let name := (predecessor pulls historical state.current).head.name
  match successors options repository pulls state.current (basedOn name) with
  | [] =>
      let read := if state.baseHistory.isEmpty then baseRefHistory pulls answers
        else .ok state.baseHistory
      match read with
      | .error error => .done (.error error)
      | .ok table => chooseSuccessor branch pulls historical { state with baseHistory := table }
          (successors options repository pulls state.current (formerlyBasedOn table name))
  | found => chooseSuccessor branch pulls historical state found

/-- The loop of the source has no bound; `fuel` is how many turns are looked at. -/
def resolveHistoricalCurrentPr (fuel : ℕ) :
    Option (Except ResolutionError (Option (PullRequestSnapshot × Option PrNumber))) :=
  match subject options repository branch answers with
  | .error error => some (.error error)
  | .ok .absent => some (.ok none)
  | .ok (.reused current) => some (.ok (some (current,some current.number)))
  | .ok (.landed historical) =>
      (Loop.run (walkTurn options repository branch pulls answers historical) fuel 0
        { current := historical.number }).map fun result =>
          result.map fun successor => some (historical,successor)

def knownHistory : BaseHistory := answers.baseHistory.toOption.getD []

structure OnlyRow (current : PrNumber) (property : PullRequestSnapshot → Bool) (next : PrNumber) : Prop where
  held : ∃ row ∈ rowsOf pulls.prs,(eligible options repository current row && property row) = true ∧
    row.number = next
  unique : ∀ row ∈ rowsOf pulls.prs,(eligible options repository current row && property row) = true →
    row.number = next

def NoRow (current : PrNumber) (property : PullRequestSnapshot → Bool) : Prop :=
  ∀ row ∈ rowsOf pulls.prs,(eligible options repository current row && property row) = false

/-- The head branch that successors of a pull request are based on. -/
def headName (current : PrNumber) : String := (predecessor pulls historical current).head.name

/-- `next` is the one row based on the head branch now, or failing any such row formerly. -/
inductive Link (current next : PrNumber) : Prop
  | now : OnlyRow options repository pulls current (basedOn (headName pulls historical current)) next →
      Link current next
  | formerly : NoRow options repository pulls current (basedOn (headName pulls historical current)) →
      OnlyRow options repository pulls current
        (formerlyBasedOn (knownHistory answers) (headName pulls historical current)) next →
      Link current next

structure MergedLink (current next : PrNumber) : Prop where
  link : Link options repository pulls answers historical current next
  merged : ∃ pull,pulls.prs[next]? = some pull ∧ pull.state = .merged

structure ReachedMember (next : PrNumber) : Prop where
  chain : ∃ last,ReflTransGen (MergedLink options repository pulls answers historical) historical.number
    last ∧ Link options repository pulls answers historical last next
  member : ∃ pull,pulls.prs[next]? = some pull ∧ pull.isActiveCaravanMember = true

/-- Every branch and every graph of bases is resolved, and only to the member the chain leads to. -/
structure ResolvesExactly : Prop where
  terminates : ∃ fuel result,
    resolveHistoricalCurrentPr options repository branch pulls answers fuel = some result
  exact : ∀ fuel historical next,resolveHistoricalCurrentPr options repository branch pulls answers fuel =
    some (.ok (some (historical,some next))) → historical.state = .merged →
      ReachedMember options repository pulls answers historical next

end Walk

section Successors

variable {options : DiscoveryOptions} {repository : RepositoryId} {branch : String} {pulls : Pulls}
  {answers : BranchAnswers} {historical : PullRequestSnapshot} {current next : PrNumber}
  {property : PullRequestSnapshot → Bool}

theorem mem_successors_iff : next ∈ successors options repository pulls current property ↔
    ∃ row ∈ rowsOf pulls.prs,(eligible options repository current row && property row) = true ∧
      row.number = next := by
  unfold successors
  rw [Vec.mem_dedupAdjacent,List.mem_insertionSort,List.mem_map]
  simp only [List.mem_filter,and_assoc]

theorem successors_eq_nil_iff :
    successors options repository pulls current property = [] ↔
      NoRow options repository pulls current property := by
  rw [List.eq_nil_iff_forall_not_mem]
  constructor
  · intro h row hrow
    rw [Bool.eq_false_iff]
    intro hheld
    exact h row.number (mem_successors_iff.mpr ⟨row,hrow,hheld,rfl⟩)
  · intro h number hnumber
    obtain ⟨row,hrow,hheld,_⟩ := mem_successors_iff.mp hnumber
    rw [h row hrow] at hheld
    cases hheld

theorem successors_eq_singleton_iff :
    successors options repository pulls current property = [next] ↔
      OnlyRow options repository pulls current property next := by
  constructor
  · intro h
    refine ⟨mem_successors_iff.mp (h ▸ List.mem_singleton_self next),?_⟩
    intro row hrow hheld
    have hmem := mem_successors_iff.mpr ⟨row,hrow,hheld,rfl⟩
    rw [h] at hmem
    exact List.mem_singleton.mp hmem
  · intro h
    apply Vec.eq_singleton_of_isChain (Vec.isChain_dedupAdjacent _) (mem_successors_iff.mpr h.held)
    intro number hnumber
    obtain ⟨row,hrow,hheld,heq⟩ := mem_successors_iff.mp hnumber
    exact heq ▸ h.unique row hrow hheld

theorem successors_of_not (h : ∀ row,property row = false) :
    successors options repository pulls current property = [] := by
  rw [successors_eq_nil_iff]
  intro row _
  rw [h row,Bool.and_false]

variable (options repository pulls answers historical) in
/-- The successors of a pull request, were the base history always read. -/
def candidates (current : PrNumber) : List PrNumber :=
  match successors options repository pulls current (basedOn (headName pulls historical current)) with
  | [] => successors options repository pulls current
      (formerlyBasedOn (knownHistory answers) (headName pulls historical current))
  | found => found

theorem candidates_eq_singleton_iff :
    candidates options repository pulls answers historical current = [next] ↔
      Link options repository pulls answers historical current next := by
  unfold candidates
  constructor
  · intro h
    split at h
    case h_1 hnone => exact .formerly (successors_eq_nil_iff.mp hnone) (successors_eq_singleton_iff.mp h)
    case h_2 => exact .now (successors_eq_singleton_iff.mp h)
  · intro h
    cases h with
    | now honly => rw [successors_eq_singleton_iff.mpr honly]
    | formerly hnone honly =>
      rw [successors_eq_nil_iff.mpr hnone]
      exact successors_eq_singleton_iff.mpr honly

variable (options repository pulls answers historical) in
def nextMerged (current : PrNumber) : Option PrNumber :=
  match candidates options repository pulls answers historical current with
  | [next] => if pulls.prs[next]?.any fun pull => decide (pull.state = .merged) then some next else none
  | _ => none

theorem nextMerged_eq_some_iff :
    nextMerged options repository pulls answers historical current = some next ↔
      MergedLink options repository pulls answers historical current next := by
  unfold nextMerged
  constructor
  · intro h
    split at h
    case h_1 only honly =>
      split at h
      case isTrue hmerged =>
        cases h
        obtain ⟨pull,hpull,hstate⟩ := (Option.any_eq_true _ _).mp hmerged
        exact ⟨candidates_eq_singleton_iff.mp honly,pull,hpull,of_decide_eq_true hstate⟩
      case isFalse => cases h
    case h_2 => cases h
  · rintro ⟨hlink,pull,hpull,hstate⟩
    rw [candidates_eq_singleton_iff.mpr hlink]
    simp [hpull,hstate]

end Successors

section Turns

variable {options : DiscoveryOptions} {repository : RepositoryId} {branch : String} {pulls : Pulls}
  {answers : BranchAnswers} {historical : PullRequestSnapshot} {state state' : WalkState} {i : ℕ}
  {result : Except ResolutionError (Option PrNumber)} {found : List PrNumber}

/-- The base history of the walk is unread or the one that was answered. -/
def Known (answers : BranchAnswers) (state : WalkState) : Prop :=
  state.baseHistory = [] ∨ state.baseHistory = knownHistory answers

theorem formerlyBasedOn_nil (name : String) (row : PullRequestSnapshot) :
    formerlyBasedOn [] name row = false := rfl

/-- A turn ends on a read that failed where there is no successor, or it chooses among the candidates. -/
theorem walkTurn_cases (hknown : Known answers state) :
    (candidates options repository pulls answers historical state.current = [] ∧ ∃ error,
      walkTurn options repository branch pulls answers historical i state = .done (.error error)) ∨
    ∃ table,(table = [] ∨ table = knownHistory answers) ∧
      walkTurn options repository branch pulls answers historical i state =
        chooseSuccessor branch pulls historical { state with baseHistory := table }
          (candidates options repository pulls answers historical state.current) := by
  unfold walkTurn candidates headName
  dsimp only
  cases hnow : successors options repository pulls state.current
      (basedOn (predecessor pulls historical state.current).head.name) with
  | cons first rest => exact .inr ⟨state.baseHistory,hknown,rfl⟩
  | nil =>
    dsimp only
    by_cases hread : state.baseHistory.isEmpty = true
    · rw [if_pos hread]
      unfold baseRefHistory
      by_cases hrows : (rowsOf pulls.prs).isEmpty = true
      · rw [if_pos hrows]
        have hnil : rowsOf pulls.prs = [] := List.isEmpty_iff.mp hrows
        have hnone (property : PullRequestSnapshot → Bool) :
            successors options repository pulls state.current property = [] := by
          rw [successors_eq_nil_iff]
          intro row hrow
          rw [hnil] at hrow
          cases hrow
        refine .inr ⟨[],.inl rfl,?_⟩
        dsimp only
        rw [hnone,hnone]
      · rw [if_neg hrows]
        unfold provided knownHistory
        cases answers.baseHistory with
        | error error => exact .inl ⟨successors_of_not (formerlyBasedOn_nil _),_,rfl⟩
        | ok table => exact .inr ⟨table,.inr rfl,rfl⟩
    · rw [if_neg hread]
      have htable : state.baseHistory = knownHistory answers := by
        apply hknown.resolve_left
        intro hnil
        exact hread (List.isEmpty_iff.mpr hnil)
      refine .inr ⟨state.baseHistory,.inr htable,?_⟩
      rw [htable]

theorem chooseSuccessor_again (h : chooseSuccessor branch pulls historical state found = .again state') :
    ∃ next pull,found = [next] ∧ state' = { state with current := next } ∧
      pulls.prs[next]? = some pull ∧ pull.state = .merged := by
  unfold chooseSuccessor at h
  split at h
  · cases h
  case h_2 next =>
    split at h
    · cases h
    case h_2 pull hpull =>
      split at h
      · cases h
      · split at h
        · cases h
        case isFalse hmerged =>
          cases h
          exact ⟨next,pull,rfl,rfl,hpull,not_not.mp hmerged⟩
  · cases h

theorem chooseSuccessor_done (h : chooseSuccessor branch pulls historical state found = .done result) :
    (∀ next pull,found = [next] → pulls.prs[next]? = some pull → pull.state ≠ .merged) ∧
      ∀ next,result = .ok (some next) → found = [next] ∧
        ∃ pull,pulls.prs[next]? = some pull ∧ pull.isActiveCaravanMember = true := by
  unfold chooseSuccessor at h
  split at h
  · cases h
    exact ⟨fun _ _ hfound => (by cases hfound),fun _ hresult => (by cases hresult)⟩
  case h_2 only =>
    split at h
    case h_1 hnone =>
      cases h
      refine ⟨?_,fun _ hresult => (by cases hresult)⟩
      intro next pull hfound hpull
      cases hfound
      rw [hnone] at hpull
      cases hpull
    case h_2 pull hpull =>
      split at h
      case isTrue hactive =>
        cases h
        constructor
        · intro next other hfound hother
          cases hfound
          cases hpull.symm.trans hother
          rw [hactive.1]
          decide
        · intro next hresult
          cases hresult
          exact ⟨rfl,pull,hpull,hactive.2⟩
      case isFalse =>
        split at h
        case isTrue hstate =>
          cases h
          refine ⟨?_,fun _ hresult => (by cases hresult)⟩
          intro next other hfound hother
          cases hfound
          cases hpull.symm.trans hother
          exact hstate
        case isFalse => cases h
  case h_3 hnil hsingle =>
    cases h
    exact ⟨fun next _ hfound => absurd hfound (hsingle next),fun _ hresult => (by cases hresult)⟩

theorem walkTurn_again (hknown : Known answers state)
    (h : walkTurn options repository branch pulls answers historical i state = .again state') :
    nextMerged options repository pulls answers historical state.current = some state'.current ∧
      Known answers state' := by
  rcases walkTurn_cases hknown with ⟨_,error,herror⟩ | ⟨table,htable,hturn⟩
  · rw [herror] at h
    cases h
  · rw [hturn] at h
    obtain ⟨next,pull,hfound,rfl,hpull,hmerged⟩ := chooseSuccessor_again h
    exact ⟨nextMerged_eq_some_iff.mpr ⟨candidates_eq_singleton_iff.mp hfound,pull,hpull,hmerged⟩,htable⟩

theorem walkTurn_done (hknown : Known answers state)
    (h : walkTurn options repository branch pulls answers historical i state = .done result) :
    nextMerged options repository pulls answers historical state.current = none ∧
      ∀ next,result = .ok (some next) →
        Link options repository pulls answers historical state.current next ∧
          ∃ pull,pulls.prs[next]? = some pull ∧ pull.isActiveCaravanMember = true := by
  rcases walkTurn_cases hknown with ⟨hnone,error,herror⟩ | ⟨table,_,hturn⟩
  · rw [herror] at h
    cases h
    refine ⟨?_,fun _ hresult => (by cases hresult)⟩
    unfold nextMerged
    rw [hnone]
  · rw [hturn] at h
    obtain ⟨hstop,hmember⟩ := chooseSuccessor_done h
    constructor
    · rw [Option.eq_none_iff_forall_ne_some]
      intro next hnext
      obtain ⟨hlink,pull,hpull,hmerged⟩ := nextMerged_eq_some_iff.mp hnext
      exact hstop next pull (candidates_eq_singleton_iff.mpr hlink) hpull hmerged
    · intro next hresult
      obtain ⟨hfound,hpull⟩ := hmember next hresult
      exact ⟨candidates_eq_singleton_iff.mp hfound,hpull⟩

end Turns

section Runs

variable {options : DiscoveryOptions} {repository : RepositoryId} {branch : String} {pulls : Pulls}
  {answers : BranchAnswers} {historical : PullRequestSnapshot} {fuel : ℕ}

theorem walk_reaches {next : PrNumber}
    (h : Loop.run (walkTurn options repository branch pulls answers historical) fuel 0
      { current := historical.number } = some (.ok (some next))) :
    ReachedMember options repository pulls answers historical next := by
  refine Loop.run_rule (fun _ state => Known answers state ∧
    ReflTransGen (MergedLink options repository pulls answers historical) historical.number
      state.current) (fun result => result = .ok (some next) →
    ReachedMember options repository pulls answers historical next) ?_ ?_ ⟨.inl rfl,.refl⟩ h rfl
  · rintro i state state' ⟨hknown,hchain⟩ hagain
    obtain ⟨hnext,hknown'⟩ := walkTurn_again hknown hagain
    exact ⟨hknown',hchain.tail (nextMerged_eq_some_iff.mp hnext)⟩
  · rintro i state result ⟨hknown,hchain⟩ hdone hresult
    obtain ⟨hlink,hmember⟩ := (walkTurn_done hknown hdone).2 next hresult
    exact ⟨⟨state.current,hchain,hlink⟩,hmember⟩

/-- The merged links never come back to a pull request that they left. -/
def NeverReturns (options : DiscoveryOptions) (repository : RepositoryId) (pulls : Pulls)
    (answers : BranchAnswers) (historical : PullRequestSnapshot) : Prop :=
  ¬∃ pr,ReflTransGen (MergedLink options repository pulls answers historical) historical.number pr ∧
    TransGen (MergedLink options repository pulls answers historical) pr pr

theorem step_nextMerged :
    FunctionalGraph.Step (nextMerged options repository pulls answers historical) =
      MergedLink options repository pulls answers historical := by
  funext current next
  exact propext nextMerged_eq_some_iff

def visitable (pulls : Pulls) (historical : PullRequestSnapshot) : Finset PrNumber :=
  insert historical.number ((rowsOf pulls.prs).map (·.number)).toFinset

theorem visitable_closed (current next : PrNumber)
    (h : nextMerged options repository pulls answers historical current = some next) :
    next ∈ visitable pulls historical := by
  obtain ⟨_,pull,hpull,_⟩ := nextMerged_eq_some_iff.mp h
  unfold visitable
  rw [Finset.mem_insert,List.mem_toFinset,List.mem_map]
  exact .inr ⟨pull,mem_rowsOf_iff.mpr ⟨next,hpull⟩,pulls.indexed next pull hpull⟩

theorem walk_ends_iff :
    (∃ fuel result,Loop.run (walkTurn options repository branch pulls answers historical) fuel 0
      { current := historical.number } = some result) ↔
      NeverReturns options repository pulls answers historical := by
  unfold NeverReturns
  rw [Loop.run_follows_iff (nextMerged options repository pulls answers historical) WalkState.current
    (Known answers) (fun _ _ _ hknown => walkTurn_again hknown)
    (fun _ _ _ hknown hdone => (walkTurn_done hknown hdone).1) (.inl rfl),← step_nextMerged]
  exact FunctionalGraph.ends_iff_no_return (fun _ _ next h => visitable_closed _ next h)
    (Finset.mem_insert_self _ _)

theorem reused_open {current : PullRequestSnapshot} {history : List PullRequestSnapshot}
    (h : resolveExactOpenReusedBranch options repository branch answers history = .ok (some current)) :
    current.state = .open := by
  unfold resolveExactOpenReusedBranch at h
  split at h
  · cases h
  case h_2 only honly =>
    have hopen : only.state = .open := by
      have hmem : only ∈ history.filter fun pull => decide (pull.state = .open) := by
        rw [honly]
        exact List.mem_singleton_self only
      exact of_decide_eq_true (List.mem_filter.mp hmem).2
    split at h
    · cases h
    · obtain ⟨localOid,_,h⟩ := Guard.bind_eq_ok.mp h
      obtain ⟨remote,_,h⟩ := Guard.bind_eq_ok.mp h
      split at h
      · cases h
      · split at h
        · cases h
        · cases h
          exact hopen
  · cases h

theorem subject_reused {current : PullRequestSnapshot}
    (h : subject options repository branch answers = .ok (.reused current)) : current.state = .open := by
  unfold subject at h
  obtain ⟨rows,_,h⟩ := Guard.bind_eq_ok.mp h
  dsimp only at h
  split at h
  · cases h
  · obtain ⟨found,hfound,h⟩ := Guard.bind_eq_ok.mp h
    cases found with
    | some pull =>
      cases h
      exact reused_open hfound
    | none =>
      dsimp only at h
      split at h
      · split at h
        · cases h
        · split at h
          · split at h
            · cases h
            · split at h
              · cases h
              · obtain ⟨_,_,h⟩ := Guard.bind_eq_ok.mp h
                cases h
          · split at h
            · cases h
            · obtain ⟨_,_,h⟩ := Guard.bind_eq_ok.mp h
              cases h
      · cases h

/-- Resolution is exact and always ends, unless landed work leads back to itself. -/
theorem resolvesExactly_iff : ResolvesExactly options repository branch pulls answers ↔
    ∀ historical,subject options repository branch answers = .ok (.landed historical) →
      NeverReturns options repository pulls answers historical := by
  constructor
  · intro h historical hsubject
    obtain ⟨fuel,result,hresult⟩ := h.terminates
    unfold resolveHistoricalCurrentPr at hresult
    rw [hsubject] at hresult
    obtain ⟨end',hend,_⟩ := Option.map_eq_some_iff.mp hresult
    exact walk_ends_iff.mp ⟨fuel,end',hend⟩
  · intro h
    constructor
    · unfold resolveHistoricalCurrentPr
      cases hsubject : subject options repository branch answers with
      | error error => exact ⟨0,_,rfl⟩
      | ok found =>
        cases found with
        | absent => exact ⟨0,_,rfl⟩
        | reused current => exact ⟨0,_,rfl⟩
        | landed historical =>
          have hends : ∃ fuel result,Loop.run (walkTurn options repository branch pulls answers historical)
              fuel 0 { current := historical.number } = some result :=
            walk_ends_iff.mpr (h historical hsubject)
          obtain ⟨fuel,result,hrun⟩ := hends
          exact ⟨fuel,_,Option.map_eq_some_iff.mpr ⟨result,hrun,rfl⟩⟩
    · intro fuel historical next hresult hmerged
      unfold resolveHistoricalCurrentPr at hresult
      cases hsubject : subject options repository branch answers with
      | error error =>
        rw [hsubject] at hresult
        cases hresult
      | ok found =>
        rw [hsubject] at hresult
        cases found with
        | absent => cases hresult
        | reused current =>
          cases hresult
          rw [subject_reused hsubject] at hmerged
          cases hmerged
        | landed landed =>
          obtain ⟨end',hrun,hend⟩ := Option.map_eq_some_iff.mp hresult
          cases end' with
          | error error => cases hend
          | ok successor =>
            cases hend
            exact walk_reaches hrun

end Runs

section Example

private def loopRepository : RepositoryId := ⟨"octo","repo"⟩

private def loopBranch (name : String) : BranchSnapshot := ⟨loopRepository,name,name ++ "-oid"⟩

private def landedRow (number : PrNumber) (head base : String) : PullRequestSnapshot where
  number := number
  state := .merged
  head := loopBranch head
  base := loopBranch base
  labels := {"caravan"}
  autoMerge := .disabled

/-- Two landed pull requests, each based on the other's head branch. -/
private def loopPulls : Pulls where
  prs := ((∅ : PullRequestMap).insert 1 (landedRow 1 "a" "b")).insert 2 (landedRow 2 "b" "a")
  indexed := (Graph.indexed_empty.insert (landedRow 1 "a" "b")).insert (landedRow 2 "b" "a")

private def loopAnswers : BranchAnswers where
  history := .ok [landedRow 1 "a" "b"]
  localHead := .ok "a-oid"
  remoteHead := .ok "a-oid"
  ancestor := .ok true
  baseHistory := .ok []

/-- The walk goes from one to the other for ever. -/
theorem resolvesExactly_not_mutual :
    ¬ResolvesExactly {} loopRepository "a" loopPulls loopAnswers := by
  intro h
  obtain ⟨fuel,result,hresult⟩ := h.terminates
  have hsubject : subject {} loopRepository "a" loopAnswers = .ok (.landed (landedRow 1 "a" "b")) := by
    decide
  unfold resolveHistoricalCurrentPr at hresult
  rw [hsubject] at hresult
  obtain ⟨last,hrun,_⟩ := Option.map_eq_some_iff.mp hresult
  have hforth : MergedLink {} loopRepository loopPulls loopAnswers (landedRow 1 "a" "b") 1 2 :=
    nextMerged_eq_some_iff.mp (by decide +kernel)
  have hback : MergedLink {} loopRepository loopPulls loopAnswers (landedRow 1 "a" "b") 2 1 :=
    nextMerged_eq_some_iff.mp (by decide +kernel)
  exact walk_ends_iff.mp ⟨fuel,last,hrun⟩ ⟨1,.refl,.tail (.single hforth) hback⟩

end Example

end HistoricalBranch
end Cara
