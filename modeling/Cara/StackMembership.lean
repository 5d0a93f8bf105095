import Cara.Lib.Observe
import Cara.Github.StackWrite
import Cara.Membership.Execute

/-! Native Stack convergence after ordinary membership: the completed operation is mapped to the Stack
create or append that represents the same caravan, and an append is judged by the whole Stack. -/
namespace Cara
namespace StackMembership

open Github (StackGeneration StackTopology StackEntryGeneration StackCreatePlan StackAddPlan
  StackMutationReceipt StackMutationError Wire Command Response)
open Cara.Membership (MembershipOutput)
open Prog (mapError ofResult Yields Unchanged)

inductive NativeMembershipError where
  | invalidPlan (code message : String)
  | stack (error : StackMutationError)
deriving DecidableEq

inductive NativeMembershipPlan where
  | absentSingleton (repository : RepositoryId) (operationId : String) (caravanId member : PrNumber)
  | create (plan : StackCreatePlan)
  | add (repository : RepositoryId) (operationId actor : String) (stackNumber : ℕ)
      (expectedMembers : List PrNumber) (candidate : PullRequestSnapshot)
deriving DecidableEq

structure NativeMembershipFacts where
  repository : RepositoryId
  defaultBranch : BranchSnapshot
  caravans : List Caravan
  pullRequests : PullRequestMap
  nativeStacks : List NativeStackStatus

section Plan

def refused {α : Type} (code message : String) : Except NativeMembershipError α :=
  .error (.invalidPlan code message)

def entryFromPull (position : ℕ) (pull : PullRequestSnapshot) (predecessor : Option BranchSnapshot) :
    Except NativeMembershipError StackEntryGeneration :=
  if pull.state ≠ .open ∨ pull.draft then
    refused "github_stack_membership_candidate_ineligible" "Stack members must be open and non-draft"
  else if predecessor.any fun head => decide (pull.base ≠ head) then
    refused "github_stack_membership_base_chain_invalid"
      "member does not target the exact predecessor generation"
  else if Saturating.maxU32 < position then
    refused "github_stack_membership_too_large" "Stack position exceeds u32"
  else .ok {
    position := position
    pr := pull.number
    stackState := "open"
    pullRequestState := pull.state
    draft := pull.draft
    mergedAt := pull.mergedAt
    base := pull.base
    head := pull.head }

def lastHead (entries : List StackEntryGeneration) : Option BranchSnapshot := entries.getLast?.map (·.head)

def topologyFromMembers (base : BranchSnapshot) (members : List PullRequestSnapshot) :
    Except NativeMembershipError StackTopology := do
  let entries ← members.foldlM (fun entries member => do
    let entry ← entryFromPull entries.length member (lastHead entries)
    return entries ++ [entry]) []
  return ⟨base,entries⟩

variable (facts : NativeMembershipFacts) (output : MembershipOutput) (actor : String)

/-- A singleton caravan becomes a Stack of two, leased to the current default branch. -/
def planCreate (member : PrNumber) : Except NativeMembershipError NativeMembershipPlan :=
  match facts.pullRequests[member]? with
  | none => refused "github_stack_membership_root_missing" "the singleton root facts are absent"
  | some root =>
      if root.base.repository ≠ facts.defaultBranch.repository ∨ root.base.name ≠ facts.defaultBranch.name then
        refused "github_stack_membership_root_base_ref_invalid"
          "the singleton root must target the configured default branch ref"
      else do
        let topology ← topologyFromMembers facts.defaultBranch [root,output.pullRequest]
        return .create ⟨output.receipt.operationId,actor,topology⟩

def openMembers (native : NativeStackStatus) : List PrNumber :=
  (native.stack.pullRequests.filter fun row => Text.eqIgnoreAsciiCase row.state "open").map (·.number)

/-- Only the open rows of the provider Stack are compared with the caravan. -/
def planAdd (caravan : Caravan) : Except NativeMembershipError NativeMembershipPlan :=
  match facts.nativeStacks.filter fun native => decide (native.caravanId = some caravan.id) with
  | [native] =>
      let lostAppendResponse := decide (openMembers native = caravan.members ++ [output.pullRequest.number])
      if native.consistency ≠ .exact ∧ lostAppendResponse = false then
        refused "github_stack_membership_generation_drifted"
          ("the existing provider Stack must be exact before append unless it already contains this exact " ++
            "candidate tail")
      else .ok (.add facts.repository output.receipt.operationId actor native.stack.number caravan.members
        output.pullRequest)
  | _ => refused "github_stack_membership_mapping_ambiguous"
      "an existing multi-member caravan must map to exactly one provider Stack"

def planNativeMembership : Except NativeMembershipError NativeMembershipPlan :=
  if output.receipt.operation = "new" ∨ output.receipt.operation = "renew" then
    .ok (.absentSingleton facts.repository output.receipt.operationId output.caravanId
      output.pullRequest.number)
  else if output.receipt.operation ≠ "join" ∧ output.receipt.operation ≠ "rejoin" then
    refused "github_stack_membership_operation_invalid"
      "native membership supports only new/renew/join/rejoin receipts"
  else match facts.caravans.find? fun caravan => decide (caravan.id = output.caravanId) with
    | none => refused "github_stack_membership_caravan_missing"
        "the target caravan is absent from the exact pre-membership status"
    | some caravan =>
        if output.pullRequest.number ∈ caravan.members then
          refused "github_stack_membership_candidate_already_present"
            "the candidate already belonged to the pre-membership caravan"
        else match caravan.members with
          | [member] => planCreate facts output actor member
          | _ => planAdd facts output actor caravan

end Plan

section Converge

/-- The Stack to lease and the topology to ask for. A Stack that already ends with the candidate is cut
back to what it was before the lost append. -/
def appendIntent (before : StackGeneration) (expectedMembers : List PrNumber) (candidate : PullRequestSnapshot) :
    Except NativeMembershipError (StackGeneration × StackTopology) :=
  let actual := before.topology.entries.map (·.pr)
  let expectedFull := expectedMembers ++ [candidate.number]
  if actual ≠ expectedMembers ∧ actual ≠ expectedFull then
    refused "github_stack_membership_members_drifted" "provider Stack members changed before append"
  else if actual = expectedFull then do
    let kept := before.topology.entries.take expectedMembers.length
    let expected ← entryFromPull expectedMembers.length candidate (lastHead kept)
    if Github.providerConvergedAddTopology ⟨before.topology.base,kept⟩
        ⟨before.topology.base,kept ++ [expected]⟩ before.topology then
      return ({ before with topology := ⟨before.topology.base,kept⟩ },before.topology)
    else
      refused "github_stack_membership_candidate_drifted"
        ("already-appended provider entry changed existing members or does not represent the exact " ++
          "converged tail")
  else do
    let entry ← entryFromPull before.topology.entries.length candidate (lastHead before.topology.entries)
    return (before,⟨before.topology.base,before.topology.entries ++ [entry]⟩)

def convergeNativeAdd (w : Wire) (repository : RepositoryId) (operationId actor : String) (stackNumber : ℕ)
    (expectedMembers : List PrNumber) (candidate : PullRequestSnapshot) :
    Github.Io NativeMembershipError StackMutationReceipt := do
  match ← mapError .stack (Github.nativeStackGeneration w repository stackNumber) with
  | none => throw (.invalidPlan "github_stack_membership_stack_missing"
      "the exact provider Stack disappeared before append")
  | some before =>
      let intent ← ofResult (appendIntent before expectedMembers candidate)
      mapError .stack (Github.nativeStackAdd w repository ⟨operationId,actor,intent.1,intent.2⟩)

end Converge

section Append

variable {w : Wire} {provider : Command → Response} {repository : RepositoryId} {operationId actor : String}
  {number : ℕ} {members : List PrNumber} {candidate : PullRequestSnapshot} {stack : StackGeneration}
  {merged current : List StackEntryGeneration}

def membersDrifted : String := "github_stack_membership_members_drifted"

/-- Reading the Stack from this provider gives this generation. -/
def Shows (w : Wire) (provider : Command → Response) (repository : RepositoryId) (number : ℕ)
    (stack : StackGeneration) : Prop :=
  (Github.nativeStackGeneration w repository number).run.observe Command.isRead provider = some (.ok (some stack))

structure LandedThenOpen (stack : StackGeneration) (merged current : List StackEntryGeneration) : Prop where
  entries : stack.topology.entries = merged ++ current
  landed : ∀ entry ∈ merged,entry.pullRequestState = .merged
  isOpen : ∀ entry ∈ current,entry.pullRequestState = .open

/-- The same append was asked for on `before`, and the provider carried it out. -/
structure LostAppend (repository : RepositoryId) (operationId actor : String) (members : List PrNumber)
    (candidate : PullRequestSnapshot) (stack before : StackGeneration) (desired : StackTopology) : Prop where
  numbers : before.topology.entries.map (·.pr) = members
  intent : appendIntent before members candidate = .ok (before,desired)
  identity : Github.validateOperationIdentity operationId actor = .ok ()
  plan : Github.validateAddPlan repository ⟨operationId,actor,before,desired⟩ = .ok ()
  converged : Github.addConverged ⟨operationId,actor,before,desired⟩ (some stack) = true

/-- The append on an unchanged Stack: it never meets drifted members, and after a lost response it only
reads and ends in a receipt. -/
structure AppendWorks (w : Wire) (provider : Command → Response) (repository : RepositoryId)
    (operationId actor : String) (number : ℕ) (members : List PrNumber) (candidate : PullRequestSnapshot)
    (stack : StackGeneration) : Prop where
  undrifted : ∀ t r message,
    Yields (convergeNativeAdd w repository operationId actor number members candidate) t r →
    Unchanged Command.isRead provider t → r ≠ .error (.invalidPlan membersDrifted message)
  recovered : ∀ before desired,LostAppend repository operationId actor members candidate stack before desired →
    ∃ receipt,(convergeNativeAdd w repository operationId actor number members candidate).run.observe
      Command.isRead provider = some (.ok receipt)

theorem planAdd_ok {facts : NativeMembershipFacts} {output : MembershipOutput} {actor : String} {caravan : Caravan}
    {plan : NativeMembershipPlan} (h : planAdd facts output actor caravan = .ok plan) :
    ∃ stackNumber,plan = .add facts.repository output.receipt.operationId actor stackNumber caravan.members
      output.pullRequest := by
  unfold planAdd at h
  split at h
  · dsimp only at h
    split at h
    · cases h
    · cases h
      exact ⟨_,rfl⟩
  · cases h

theorem planCreate_ok {facts : NativeMembershipFacts} {output : MembershipOutput} {actor : String}
    {member : PrNumber} {plan : NativeMembershipPlan} (h : planCreate facts output actor member = .ok plan) :
    ∃ create,plan = .create create := by
  unfold planCreate at h
  split at h
  · cases h
  · split at h
    · cases h
    · obtain ⟨topology,_,hplan⟩ := Guard.bind_eq_ok.mp h
      cases hplan
      exact ⟨_,rfl⟩

/-- An append is planned for the members of one caravan that lacks the candidate. -/
theorem members_of_add {facts : NativeMembershipFacts} {output : MembershipOutput} {planner : String}
    (h : planNativeMembership facts output planner =
      .ok (.add repository operationId actor number members candidate)) :
    (∃ caravan ∈ facts.caravans,caravan.members = members) ∧ candidate.number ∉ members := by
  unfold planNativeMembership at h
  split at h
  · cases h
  · split at h
    · cases h
    · split at h
      · cases h
      · next caravan hfound =>
        split at h
        · cases h
        · next hnew =>
          split at h
          · obtain ⟨create,hcreate⟩ := planCreate_ok h
            cases hcreate
          · obtain ⟨stackNumber,hadd⟩ := planAdd_ok h
            cases hadd
            exact ⟨⟨caravan,List.mem_of_find?_eq_some hfound,rfl⟩,hnew⟩

theorem entryFromPull_error {position : ℕ} {pull : PullRequestSnapshot} {predecessor : Option BranchSnapshot}
    {message : String} : entryFromPull position pull predecessor ≠ .error (.invalidPlan membersDrifted message) := by
  unfold entryFromPull refused membersDrifted
  intro h
  split at h
  · simp at h
  · split at h
    · simp at h
    · split at h
      · simp at h
      · cases h

/-- The members count as drifted exactly when the complete entry list is neither expected one. -/
theorem appendIntent_drifted_iff : (∃ message,appendIntent stack members candidate =
      .error (.invalidPlan membersDrifted message)) ↔
    stack.topology.entries.map (·.pr) ≠ members ∧
      stack.topology.entries.map (·.pr) ≠ members ++ [candidate.number] := by
  unfold appendIntent
  dsimp only
  by_cases hdrift : stack.topology.entries.map (·.pr) ≠ members ∧
      stack.topology.entries.map (·.pr) ≠ members ++ [candidate.number]
  · rw [if_pos hdrift]
    exact iff_of_true ⟨_,rfl⟩ hdrift
  · rw [if_neg hdrift]
    refine iff_of_false ?_ hdrift
    intro h
    obtain ⟨message,h⟩ := h
    split at h
    · cases hentry : entryFromPull members.length candidate
          (lastHead (stack.topology.entries.take members.length)) with
      | error e =>
        rw [hentry] at h
        cases h
        exact entryFromPull_error hentry
      | ok expected =>
        rw [hentry] at h
        dsimp only [bind,Except.bind] at h
        split at h
        · cases h
        · simp [refused,membersDrifted] at h
    · cases hentry : entryFromPull stack.topology.entries.length candidate
          (lastHead stack.topology.entries) with
      | error e =>
        rw [hentry] at h
        cases h
        exact entryFromPull_error hentry
      | ok entry =>
        rw [hentry] at h
        cases h

/-- Any merged entry makes the complete list another one than the caravan's. -/
theorem drifted_iff_landed (hshape : LandedThenOpen stack merged current) (hmembers : members ≠ [])
    (hnew : candidate.number ∉ members)
    (hcurrent : current.map (·.pr) = members ∨ current.map (·.pr) = members ++ [candidate.number]) :
    (stack.topology.entries.map (·.pr) ≠ members ∧
      stack.topology.entries.map (·.pr) ≠ members ++ [candidate.number]) ↔ merged ≠ [] := by
  rw [hshape.entries,List.map_append]
  constructor
  · rintro ⟨hshort,hfull⟩ rfl
    rcases hcurrent with hcurrent | hcurrent
    · exact hshort hcurrent
    · exact hfull hcurrent
  · intro hmerged
    have hlength : 0 < merged.length := List.length_pos_iff.mpr hmerged
    constructor
    · intro h
      have hsizes := congrArg List.length h
      rcases hcurrent with hcurrent | hcurrent
      · rw [hcurrent,List.length_append,List.length_map] at hsizes
        omega
      · rw [hcurrent,List.length_append,List.length_append,List.length_map] at hsizes
        omega
    · intro h
      rcases hcurrent with hcurrent | hcurrent
      -- both lists end alike, so the candidate would be the last member
      · have hlast := congrArg List.getLast? h
        rw [hcurrent,List.getLast?_append_of_ne_nil _ hmembers,List.getLast?_concat] at hlast
        exact hnew (List.mem_of_getLast? hlast)
      · have hsizes := congrArg List.length h
        rw [hcurrent,List.length_append,List.length_map] at hsizes
        omega

theorem observe_read (h : Shows w provider repository number stack) :
    (mapError NativeMembershipError.stack (Github.nativeStackGeneration w repository number)).run.observe
      Command.isRead provider = some (.ok (some stack)) := by
  rw [Prog.observe_mapError,h]
  rfl

/-- On a Stack with a merged prefix the append stops at its comparison. -/
theorem converge_drifted (hshown : Shows w provider repository number stack)
    {message : String} (hintent : appendIntent stack members candidate = .error (.invalidPlan membersDrifted message)) :
    (convergeNativeAdd w repository operationId actor number members candidate).run.observe
      Command.isRead provider = some (.error (.invalidPlan membersDrifted message)) := by
  unfold convergeNativeAdd
  rw [Prog.observe_bind_ok (observe_read hshown)]
  dsimp only
  rw [hintent]
  rfl

theorem converge_undrifted {t : Github.Conversation} {r : Except NativeMembershipError StackMutationReceipt}
    {message : String} (hshown : Shows w provider repository number stack)
    (hintent : ∀ message,appendIntent stack members candidate ≠ .error (.invalidPlan membersDrifted message))
    (hrun : Yields (convergeNativeAdd w repository operationId actor number members candidate) t r)
    (hunchanged : Unchanged Command.isRead provider t) : r ≠ .error (.invalidPlan membersDrifted message) := by
  unfold convergeNativeAdd at hrun
  obtain ⟨x,t₁,t₂,rfl,hread,hrest⟩ := (Prog.yields_bind _ _ _).mp hrun
  have hx := hunchanged.observed (Github.nativeStackGeneration_readOnly w repository number).mapError hread
  rw [observe_read hshown] at hx
  cases hx
  dsimp only at hrest
  obtain ⟨y,t₃,t₄,_,hchecked,hadd⟩ := (Prog.yields_bind _ _ _).mp hrest
  obtain ⟨_,rfl⟩ := (Prog.yields_ofResult _ _).mp hchecked
  cases hresult : appendIntent stack members candidate with
  | error e =>
    rw [hresult] at hadd
    obtain ⟨_,rfl⟩ := hadd
    rintro ⟨⟩
    exact hintent message hresult
  | ok intent =>
    rw [hresult] at hadd
    obtain ⟨z,_,rfl⟩ := Prog.yields_mapError_iff.mp hadd
    cases z <;> simp [Except.mapError]

/-- A checked topology passes for every smaller size that its entries reach. -/
theorem topology_resized {topology : StackTopology} {minimum minimum' : ℕ}
    (h : Github.validateTopologyWithCollapsedFrontier repository topology minimum none none = .ok ())
    (hsize : minimum' ≤ topology.entries.length) : Github.validateTopology repository topology minimum' = .ok () := by
  unfold Github.validateTopology Github.validateTopologyAllowingStaleTailBase
  unfold Github.validateTopologyWithCollapsedFrontier at h ⊢
  by_cases hlong : topology.entries.length < minimum ∨ 100 < topology.entries.length
  · rw [if_pos hlong] at h
    cases h
  · have hshort : ¬(topology.entries.length < minimum' ∨ 100 < topology.entries.length) := by omega
    rw [if_neg hlong] at h
    rw [if_neg hshort]
    exact h

/-- Reading a Stack whose entries are all open checks its topology without a collapsed frontier. -/
theorem topology_of_shown (h : Shows w provider repository number stack) (hne : stack.topology.entries ≠ [])
    (hopen : ∀ entry ∈ stack.topology.entries,entry.pullRequestState = .open) :
    Github.validateTopologyWithCollapsedFrontier repository stack.topology 1 none none = .ok () := by
  obtain ⟨snapshot,_,hread⟩ := Prog.observe_bind_eq_ok.mp h
  cases snapshot with
  | none => cases hread
  | some snapshot =>
    obtain ⟨generation,hobserved,hreturned⟩ := Prog.observe_bind_eq_ok.mp hread
    cases hreturned
    obtain ⟨rows,_,hrows⟩ := Prog.observe_bind_eq_ok.mp hobserved
    obtain ⟨collapsed,hcollapsed,hchecked⟩ := Prog.observe_bind_eq_ok.mp hrows
    obtain ⟨_,hvalid,hsame⟩ := Prog.observe_bind_eq_ok.mp hchecked
    cases hsame
    have hnone : collapsed = none := by
      unfold Github.proveCollapsedFrontier Github.firstOpen at hcollapsed
      cases hentries : stack.topology.entries with
      | nil => exact absurd hentries hne
      | cons entry rest =>
        have hfirst : decide (entry.pullRequestState = .open) = true :=
          decide_eq_true (hopen entry (by rw [hentries]; exact List.mem_cons_self))
        rw [hentries,List.findIdx?_cons,hfirst] at hcollapsed
        cases hcollapsed
        rfl
    rw [hnone] at hvalid
    have hchecked : some (Github.validateTopologyWithCollapsedFrontier repository stack.topology 1 none none) =
      some (.ok ()) := hvalid
    exact Option.some.inj hchecked

structure Converged (before : StackTopology) (expected observed : StackEntryGeneration)
    (actual : StackTopology) : Prop where
  base : actual.base = before.base
  entries : actual.entries = before.entries ++ [observed]
  pr : observed.pr = expected.pr
  isOpen : Github.openEntry observed = true
  /-- Judged against itself the result is converged as well. -/
  stable : Github.providerConvergedAddTopology before actual actual = true

theorem converged_of_append {before actual : StackTopology} {expected : StackEntryGeneration}
    (h : Github.providerConvergedAddTopology before ⟨before.base,before.entries ++ [expected]⟩ actual = true) :
    ∃ observed,Converged before expected observed actual := by
  unfold Github.providerConvergedAddTopology at h
  dsimp only at h
  split at h
  · cases h
  case isFalse hshape =>
    simp only [not_or,not_not] at hshape
    obtain ⟨_,hbase,_,hlength,htake⟩ := hshape
    have hsize : actual.entries.length = before.entries.length + 1 := by
      rw [hlength,List.length_append,List.length_singleton]
    cases hlast : before.entries.getLast? with
    | none =>
      rw [hlast] at h
      cases h
    | some predecessor =>
      have hexpected : (before.entries ++ [expected])[before.entries.length]? = some expected :=
        List.getElem?_concat_length
      obtain ⟨observed,hobserved⟩ : ∃ observed,actual.entries[before.entries.length]? = some observed :=
        ⟨_,List.getElem?_eq_getElem (by omega)⟩
      rw [hlast,hexpected,hobserved] at h
      simp only [Bool.and_eq_true,decide_eq_true_eq] at h
      obtain ⟨⟨⟨⟨_,_,hpr,hstate⟩,hstack⟩,hdraft,hmerged,hpredecessor,_,_⟩,hblank⟩ := h
      have hentries : actual.entries = before.entries ++ [observed] := by
        rw [← List.take_append_drop before.entries.length actual.entries,htake,
          List.drop_eq_getElem?_toList_append,hobserved,List.drop_of_length_le (by omega)]
        rfl
      refine ⟨observed,hbase,hentries,hpr,?_,?_⟩
      · unfold Github.openEntry
        simp [hstate,hdraft,hstack]
      · unfold Github.providerConvergedAddTopology
        dsimp only
        rw [if_neg (by simp [hbase,hsize,htake]),hlast,hobserved]
        simp [hstate,hdraft,hstack,hmerged,hpredecessor,hblank]

/-- An append that was asked for added one entry to the expected members. -/
theorem LostAppend.appended {before : StackGeneration} {desired : StackTopology}
    (h : LostAppend repository operationId actor members candidate stack before desired) :
    ∃ tail,entryFromPull members.length candidate (lastHead before.topology.entries) = .ok tail ∧
      desired = ⟨before.topology.base,before.topology.entries ++ [tail]⟩ := by
  have hlength : before.topology.entries.length = members.length := by
    rw [← h.numbers,List.length_map]
  have hintent := h.intent
  unfold appendIntent at hintent
  dsimp only at hintent
  have hfull : members ≠ members ++ [candidate.number] := by
    intro heq
    have := congrArg List.length heq
    simp at this
  rw [h.numbers,if_neg (fun hdrift => hdrift.1 rfl),if_neg hfull] at hintent
  obtain ⟨tail,htail,hdesired⟩ := Guard.bind_eq_ok.mp hintent
  cases hdesired
  rw [hlength] at htail
  exact ⟨tail,htail,rfl⟩

theorem pr_of_entryFromPull {position : ℕ} {pull : PullRequestSnapshot} {predecessor : Option BranchSnapshot}
    {entry : StackEntryGeneration} (h : entryFromPull position pull predecessor = .ok entry) :
    entry.pr = pull.number := by
  unfold entryFromPull refused at h
  split at h
  · cases h
  · split at h
    · cases h
    · split at h
      · cases h
      · cases h
        rfl

theorem topologyFromMembers_numbers {base : BranchSnapshot} {members : List PullRequestSnapshot}
    {topology : StackTopology} (h : topologyFromMembers base members = .ok topology) :
    topology.entries.map (·.pr) = members.map (·.number) := by
  obtain ⟨entries,hentries,hpure⟩ := Guard.bind_eq_ok.mp h
  cases hpure
  clear h
  suffices hall : ∀ before,members.foldlM (fun (entries : List StackEntryGeneration) member => do
      let entry ← entryFromPull entries.length member (lastHead entries)
      return entries ++ [entry]) before = .ok entries →
      entries.map (·.pr) = before.map (·.pr) ++ members.map (·.number) from hall [] hentries
  clear hentries
  induction members with
  | nil =>
    intro before h
    cases h
    rw [List.map_nil,List.append_nil]
  | cons member rest ih =>
    intro before h
    rw [List.foldlM_cons] at h
    obtain ⟨extended,hstep,h⟩ := Guard.bind_eq_ok.mp h
    obtain ⟨entry,hentry,hextended⟩ := Guard.bind_eq_ok.mp hstep
    cases hextended
    rw [ih _ h,List.map_append,List.map_singleton,pr_of_entryFromPull hentry,List.append_assoc]
    rfl

/-- The Stack with its appended tail is cut back to what the append had been asked for on. -/
theorem LostAppend.recognised {before : StackGeneration} {desired : StackTopology}
    (h : LostAppend repository operationId actor members candidate stack before desired) :
    ∃ observed,stack.topology.entries = before.topology.entries ++ [observed] ∧
      Github.openEntry observed = true ∧ stack.topology.base = before.topology.base ∧
      Github.providerConvergedAddTopology before.topology stack.topology stack.topology = true ∧
      appendIntent stack members candidate = .ok ({ stack with topology := before.topology },stack.topology) := by
  obtain ⟨tail,htail,hdesired⟩ := h.appended
  have hadd : Github.providerConvergedAddTopology before.topology
      ⟨before.topology.base,before.topology.entries ++ [tail]⟩ stack.topology = true := by
    rw [← hdesired]
    exact (Bool.and_eq_true_iff.mp h.converged).2
  obtain ⟨observed,hobserved⟩ := converged_of_append hadd
  refine ⟨observed,hobserved.entries,hobserved.isOpen,hobserved.base,hobserved.stable,?_⟩
  have hnumbers : stack.topology.entries.map (·.pr) = members ++ [candidate.number] := by
    rw [hobserved.entries,List.map_append,h.numbers,List.map_singleton,hobserved.pr,pr_of_entryFromPull htail]
  have htake : stack.topology.entries.take members.length = before.topology.entries := by
    rw [hobserved.entries,List.take_left' (by rw [← h.numbers,List.length_map])]
  unfold appendIntent
  dsimp only
  rw [if_neg (fun hdrift => hdrift.2 hnumbers),if_pos hnumbers,htake,htail,hobserved.base]
  show (if _ then _ else _) = _
  rw [if_pos hadd]
  rfl

theorem addPlan_recovered {before : StackGeneration} {desired : StackTopology}
    (hlost : LostAppend repository operationId actor members candidate stack before desired)
    (hvalid : Github.validateTopologyWithCollapsedFrontier repository stack.topology 1 none none = .ok ()) :
    Github.validateAddPlan repository ⟨operationId,actor,{ stack with topology := before.topology },
      stack.topology⟩ = .ok () := by
  obtain ⟨observed,hentries,hopen,hbase,_,_⟩ := hlost.recognised
  have hplan := hlost.plan
  unfold Github.validateAddPlan at hplan ⊢
  obtain ⟨hbefore,_⟩ := Guard.unit_bind_eq_ok.mp hplan
  have hsize : 2 ≤ before.topology.entries.length := by
    by_contra hshort
    have hrefused : before.topology.entries.length < 2 ∨ 100 < before.topology.entries.length := by omega
    unfold Github.validateTopology Github.validateTopologyAllowingStaleTailBase
      Github.validateTopologyWithCollapsedFrontier at hbefore
    rw [if_pos hrefused] at hbefore
    cases hbefore
  have hstack : Github.validateTopology repository stack.topology 2 = .ok () :=
    topology_resized hvalid (by rw [hentries,List.length_append]; omega)
  have hlonger : ¬stack.topology.entries.length ≤ before.topology.entries.length := by
    rw [hentries,List.length_append,List.length_singleton]
    omega
  have happended : ¬(stack.topology.base ≠ before.topology.base ∨
      before.topology.entries.isPrefixOf stack.topology.entries = false) := by
    rw [not_or,not_not,Bool.not_eq_false,List.isPrefixOf_iff_prefix,hentries]
    exact ⟨hbase,List.prefix_append _ _⟩
  refine Guard.unit_bind_eq_ok.mpr ⟨hbefore,Guard.unit_bind_eq_ok.mpr ⟨hstack,?_⟩⟩
  rw [if_neg hlonger,if_neg happended]
  show Github.validateOpenEntries _ _ = _
  unfold Github.validateOpenEntries
  rw [hentries,List.drop_left,List.find?_cons,hopen]
  rfl

/-- After a lost response the append reads, recognises its own tail and writes nothing. -/
theorem converge_recovered {before : StackGeneration} {desired : StackTopology}
    (hshown : Shows w provider repository number stack) (hnumber : stack.number = number)
    (hne : stack.topology.entries ≠ [])
    (hopen : ∀ entry ∈ stack.topology.entries,entry.pullRequestState = .open)
    (hlost : LostAppend repository operationId actor members candidate stack before desired) :
    ∃ receipt,(convergeNativeAdd w repository operationId actor number members candidate).run.observe
      Command.isRead provider = some (.ok receipt) := by
  obtain ⟨_,_,_,_,hstable,hintent⟩ := hlost.recognised
  have hconverged : Github.addConverged ⟨operationId,actor,{ stack with topology := before.topology },
      stack.topology⟩ (some stack) = true := by
    unfold Github.addConverged Github.sameStackIdentity
    simp [hstable]
  have hread : (Github.nativeStackGeneration w repository stack.number).run.observe Command.isRead provider =
      some (.ok (some stack)) := by
    rw [hnumber]
    exact hshown
  unfold convergeNativeAdd
  rw [Prog.observe_bind_ok (observe_read hshown)]
  dsimp only
  rw [hintent,Prog.observe_bind_ok rfl,Prog.observe_mapError]
  unfold Github.nativeStackAdd
  rw [hlost.identity,Prog.observe_bind_ok rfl,addPlan_recovered hlost (topology_of_shown hshown hne hopen),
    Prog.observe_bind_ok rfl,Prog.observe_bind_ok hread]
  dsimp only
  rw [if_pos hconverged]
  exact ⟨_,rfl⟩

/-- An append on an unchanged Stack works exactly while no entry of the Stack has landed. -/
theorem append_works_iff {facts : NativeMembershipFacts} {output : MembershipOutput} {planner : String}
    (hplan : planNativeMembership facts output planner =
      .ok (.add repository operationId actor number members candidate))
    (hcaravans : ∀ caravan ∈ facts.caravans,caravan.members ≠ [])
    (hshape : LandedThenOpen stack merged current)
    (hcurrent : current.map (·.pr) = members ∨ current.map (·.pr) = members ++ [candidate.number])
    (hshown : Shows w provider repository number stack) (hnumber : stack.number = number) :
    AppendWorks w provider repository operationId actor number members candidate stack ↔ merged = [] := by
  obtain ⟨⟨caravan,hcaravan,hmembers⟩,hnew⟩ := members_of_add hplan
  have hne : members ≠ [] := hmembers ▸ hcaravans caravan hcaravan
  have hdrift := appendIntent_drifted_iff.trans (drifted_iff_landed hshape hne hnew hcurrent)
  constructor
  · intro h
    by_contra hmerged
    obtain ⟨message,hintent⟩ := hdrift.mpr hmerged
    have hobserved : (convergeNativeAdd w repository operationId actor number members candidate).run.observe
        Command.isRead provider = some (.error (.invalidPlan membersDrifted message)) :=
      converge_drifted hshown hintent
    obtain ⟨t,hrun,hread⟩ := Prog.observe_eq_some_iff.mp hobserved
    exact h.undrifted t _ message hrun hread.unchanged rfl
  · rintro rfl
    have hentries : stack.topology.entries = current := hshape.entries
    have hstack : stack.topology.entries ≠ [] := by
      intro hempty
      rw [hentries] at hempty
      rw [hempty] at hcurrent
      rcases hcurrent with hcurrent | hcurrent
      · exact hne hcurrent.symm
      · exact absurd (congrArg List.length hcurrent) (by simp)
    refine ⟨fun t r message hrun hunchanged => ?_,fun before desired hlost => ?_⟩
    · exact converge_undrifted hshown (fun message hintent => hdrift.mp ⟨message,hintent⟩ rfl) hrun hunchanged
    · exact converge_recovered hshown hnumber hstack (hentries ▸ hshape.isOpen) hlost

section Landed

open Github (PullRequestJson StackSnapshot Documents)

def appendBranch (name oid : String) : BranchSnapshot := ⟨⟨"octo","repo"⟩,name,oid⟩

def appendRow (number : PrNumber) (baseName baseOid : String) (mergedAt : Option String) : PullRequestJson where
  number := number
  state := if mergedAt.isSome then .merged else .open
  isDraft := false
  headRefName := "feature-" ++ toString number
  headRefOid := "c" ++ toString number
  headRepositoryNameWithOwner := some "octo/repo"
  headRepositoryName := none
  headRepositoryOwner := none
  isCrossRepository := false
  baseRefName := baseName
  baseRefOid := baseOid
  mergedAt := mergedAt

def candidateRow : PullRequestJson := appendRow 103 "feature-102" "c102" none

/-- Two open members, before and after the one in front of them has landed. -/
def openRows : List PullRequestJson := [appendRow 101 "main" "m2" none,appendRow 102 "feature-101" "c101" none]

def landedRows : List PullRequestJson := appendRow 100 "main" "m1" (some "2026-08-01T09:00:00Z")::openRows

def snapshotOf (rows : List PullRequestJson) : StackSnapshot where
  id := 1
  number := 42
  nodeId := "STK_42"
  baseRef := "main"
  isOpen := true
  createdAt := "2026-08-01T08:00:00Z"
  pullRequests := rows.map fun row => {
    number := row.number
    state := if row.mergedAt.isSome then "merged" else "open"
    draft := false
    mergedAt := row.mergedAt
    head := ⟨row.headRefName,row.headRefOid⟩ }

def generationOf (rows : List PullRequestJson) : StackGeneration where
  id := 1
  number := 42
  nodeId := "STK_42"
  isOpen := true
  createdAt := "2026-08-01T08:00:00Z"
  topology := ⟨appendBranch "main" "m2",rows.zipIdx.map fun row => {
    position := row.2
    pr := row.1.number
    stackState := if row.1.mergedAt.isSome then "merged" else "open"
    pullRequestState := row.1.state
    draft := false
    mergedAt := row.1.mergedAt
    base := appendBranch row.1.baseRefName row.1.baseRefOid
    head := appendBranch row.1.headRefName row.1.headRefOid }⟩

def wireOf (rows : List PullRequestJson) : Wire := Documents.wire {
  gitRefs := [("main","m2")]
  pullRequests := (rows ++ [candidateRow]).map fun row => (toString row.number,row)
  mergeCommits := [("squash",some "s100")]
  comparisons := [("compare","ahead")]
  snapshots := [("stack",snapshotOf rows)] }

def appendProvider : Command → Response
  | .nativeStackRead _ _ => .ok ⟨some 0,"stack",""⟩
  | .gitRef _ _ => .ok ⟨some 0,"main",""⟩
  | .pullRequest _ number => .ok ⟨some 0,toString number,""⟩
  | .mergeCommit _ _ => .ok ⟨some 0,"squash",""⟩
  | .compareCommits _ _ _ => .ok ⟨some 0,"compare",""⟩
  | _ => .error ⟨"not a read"⟩

def appendCandidate : PullRequestSnapshot where
  number := 103
  state := .open
  head := appendBranch "feature-103" "c103"
  base := appendBranch "feature-102" "c102"
  labels := {"caravan"}
  autoMerge := { enabled := false }

def appendFacts (rows : List PullRequestJson) : NativeMembershipFacts where
  repository := ⟨"octo","repo"⟩
  defaultBranch := appendBranch "main" "m2"
  caravans := [⟨101,[101,102],false⟩]
  pullRequests := ∅
  nativeStacks := [{ stack := snapshotOf rows,caravanId := some 101,consistency := .exact }]

def appendOutput : MembershipOutput where
  receipt := { operationId := "join-103",operation := "join" }
  providerReceipts := []
  pullRequest := appendCandidate
  caravanId := 101
  coexistingCaravans := []
  admissionIntent := {
    intent := .join
    selection := .explicit
    candidatePr := 103
    canonicalCandidatePr := none
    targetCaravan := some 101
    targetTail := some 102
    dependencyPrs := [] }
  admissionCompatibilityAuthorization := none

/-- While both members are open the append works, also on the Stack that a lost answer left behind. -/
theorem append_works_open :
    let joined := openRows ++ [candidateRow]
    AppendWorks (wireOf openRows) appendProvider ⟨"octo","repo"⟩ "join-103" "cara" 42 [101,102] appendCandidate
      (generationOf openRows) ∧
    AppendWorks (wireOf joined) appendProvider ⟨"octo","repo"⟩ "join-103" "cara" 42 [101,102] appendCandidate
      (generationOf joined) ∧
    LostAppend ⟨"octo","repo"⟩ "join-103" "cara" [101,102] appendCandidate (generationOf joined)
      (generationOf openRows) (generationOf joined).topology := by
  intro joined
  have hplan : planNativeMembership (appendFacts openRows) appendOutput "cara" =
      .ok (.add ⟨"octo","repo"⟩ "join-103" "cara" 42 [101,102] appendCandidate) := by decide +kernel
  have hcaravans : ∀ caravan ∈ (appendFacts openRows).caravans,caravan.members ≠ [] := by decide
  have hopen : LandedThenOpen (generationOf openRows) [] (generationOf openRows).topology.entries :=
    ⟨rfl,by decide,by decide +kernel⟩
  have hjoined : LandedThenOpen (generationOf joined) [] (generationOf joined).topology.entries :=
    ⟨rfl,by decide,by decide +kernel⟩
  have hshown : Shows (wireOf openRows) appendProvider ⟨"octo","repo"⟩ 42 (generationOf openRows) ∧
      Shows (wireOf joined) appendProvider ⟨"octo","repo"⟩ 42 (generationOf joined) := by
    unfold Shows
    decide +kernel
  refine ⟨(append_works_iff hplan hcaravans hopen (.inl (by decide +kernel)) hshown.1 rfl).mpr rfl,
    (append_works_iff hplan hcaravans hjoined (.inr (by decide +kernel)) hshown.2 rfl).mpr rfl,?_⟩
  exact ⟨by decide +kernel,by decide +kernel,by decide +kernel,by decide +kernel,by decide +kernel⟩

/-- Once the entry in front of them has landed, the append that was planned for them finds its members
drifted on the very Stack it was planned for. -/
theorem append_refused_landed :
    planNativeMembership (appendFacts landedRows) appendOutput "cara" =
      .ok (.add ⟨"octo","repo"⟩ "join-103" "cara" 42 [101,102] appendCandidate) ∧
    Shows (wireOf landedRows) appendProvider ⟨"octo","repo"⟩ 42 (generationOf landedRows) ∧
    (convergeNativeAdd (wireOf landedRows) ⟨"octo","repo"⟩ "join-103" "cara" 42 [101,102]
        appendCandidate).run.observe Command.isRead appendProvider =
      some (.error (.invalidPlan "github_stack_membership_members_drifted"
        "provider Stack members changed before append")) := by
  unfold Shows
  decide +kernel

end Landed

end Append

end StackMembership
end Cara
