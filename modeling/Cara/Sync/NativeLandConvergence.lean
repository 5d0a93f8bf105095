import Cara.Sync.NativeRequests

/-! Retirement of released landings. Convergence is judged on every sealed entry, while a
plan's selection may start behind merged history. -/
namespace Cara
namespace Sync

open Github (StackLandCheckpoint StackAsyncMergePlan StackEntryGeneration StackGeneration
  StackTopology Wire selectedStart selectedEnd validateMergePlan)
open Prog (Gives Meets Only Uses Run)

def remaining (plan : StackAsyncMergePlan) : List StackEntryGeneration :=
  plan.before.topology.entries.drop (selectedEnd plan)

/-- Pull requests each based on the branch before it, the first on `parent`. -/
inductive LinearlyBased : BranchSnapshot → List PullRequestSnapshot → Prop
  | nil (parent : BranchSnapshot) : LinearlyBased parent []
  | cons {parent : BranchSnapshot} {pull : PullRequestSnapshot} {pulls : List PullRequestSnapshot} :
      pull.base.repository = parent.repository → pull.base.name = parent.name →
      LinearlyBased pull.head pulls → LinearlyBased parent (pull::pulls)

/-- The landing took its whole selection and the later entries stand as one exact caravan. -/
structure LandingConverged (status : StatusOutput) (plan : StackAsyncMergePlan) : Prop where
  landed : ∀ entry ∈ plan.before.topology.entries.take (selectedEnd plan),
    mergedFact status plan entry.pr = true
  unmerged : ∀ entry ∈ remaining plan,mergedFact status plan entry.pr = false
  based : ∃ pulls : List PullRequestSnapshot,List.Forall₂ (fun entry pull =>
    status.analysis.pullRequests[entry.pr]? = some pull ∧ pull.state = .open) (remaining plan) pulls ∧
      LinearlyBased status.analysis.fleet.defaultBranch pulls
  caravan : remaining plan ≠ [] → ∃ c ∈ status.analysis.fleet.caravans,
    c.members = (remaining plan).map (·.pr) ∧ c.parked = false
  stack : 2 ≤ (remaining plan).length → ∃ native ∈ status.stackBackend.nativeStacks,
    native.consistency = .exact ∧ (∀ edge ∈ native.ancestry,edge.linear = true) ∧
      (native.stack.pullRequests.filter openRow).map (·.number) = (remaining plan).map (·.pr)
  single : ∀ only,remaining plan = [only] → ∀ native ∈ status.stackBackend.nativeStacks,
    (∃ row ∈ native.stack.pullRequests,row.number = only.pr ∧ openRow row = true) →
      native.consistency = .exact

section Convergence

variable {status : StatusOutput} {plan : StackAsyncMergePlan} {checkpoint : StackLandCheckpoint}

private theorem mapM_eq_some {α β : Type} {f : α → Option β} {l : List α} {out : List β} :
    l.mapM f = some out ↔ List.Forall₂ (fun a b => f a = some b) l out := by
  induction l generalizing out with
  | nil =>
    rw [List.mapM_nil,List.forall₂_nil_left_iff]
    exact ⟨fun h => (Option.some_inj.mp h).symm,fun h => by rw [h]; rfl⟩
  | cons a l ih =>
    rw [List.mapM_cons,List.forall₂_cons_left_iff]
    simp only [Option.pure_def,Option.bind_eq_bind,Option.bind_eq_some_iff,Option.some.injEq]
    constructor
    · intro h
      obtain ⟨b,hb,bs,hbs,hout⟩ := h
      exact ⟨b,bs,hb,ih.mp hbs,hout.symm⟩
    · intro h
      obtain ⟨b,bs,hb,hbs,hout⟩ := h
      exact ⟨b,hb,bs,ih.mpr hbs,hout.symm⟩

theorem linearFrom_iff (parent : BranchSnapshot) (pulls : List PullRequestSnapshot) :
    linearFrom parent pulls = true ↔
      (∀ pull ∈ pulls,pull.state = .open) ∧ LinearlyBased parent pulls := by
  induction pulls generalizing parent with
  | nil => simp [linearFrom,LinearlyBased.nil]
  | cons pull pulls ih =>
    unfold linearFrom sameBranch
    rw [Bool.and_eq_true,Bool.and_eq_true,decide_eq_true_eq,decide_eq_true_eq,ih]
    constructor
    · intro h
      obtain ⟨⟨hopen,hrepository,hname⟩,hrest,hbased⟩ := h
      refine ⟨?_,.cons hrepository hname hbased⟩
      intro p hp
      obtain hp | hp := List.mem_cons.mp hp
      · rw [hp]
        exact hopen
      · exact hrest p hp
    · intro h
      obtain ⟨hopen,hbased⟩ := h
      cases hbased with
      | cons hrepository hname hbased =>
        exact ⟨⟨hopen pull (by simp),hrepository,hname⟩,fun p hp => hopen p (by simp [hp]),hbased⟩

private theorem forall₂_and_right {α β : Type} {R : α → β → Prop} {p : β → Prop} {l : List α}
    {u : List β} : List.Forall₂ (fun a b => R a b ∧ p b) l u ↔ List.Forall₂ R l u ∧ ∀ b ∈ u,p b := by
  induction l generalizing u with
  | nil =>
    rw [List.forall₂_nil_left_iff,List.forall₂_nil_left_iff]
    constructor
    · intro hu
      exact ⟨hu,by simp [hu]⟩
    · exact fun h => h.1
  | cons a l ih =>
    cases u with
    | nil => simp
    | cons b u =>
      rw [List.forall₂_cons,List.forall₂_cons,ih,List.forall_mem_cons]
      tauto

theorem based_iff (entries : List StackEntryGeneration) (P : Prop) :
    (∃ pulls,(entries.map (·.pr)).mapM (fun pr => status.analysis.pullRequests[pr]?) = some pulls ∧
      linearFrom status.analysis.fleet.defaultBranch pulls = true ∧ P) ↔
    (∃ pulls : List PullRequestSnapshot,List.Forall₂ (fun entry pull =>
      status.analysis.pullRequests[entry.pr]? = some pull ∧ pull.state = .open) entries pulls ∧
        LinearlyBased status.analysis.fleet.defaultBranch pulls) ∧ P := by
  rw [← exists_and_right]
  apply exists_congr
  intro pulls
  rw [mapM_eq_some,linearFrom_iff,List.forall₂_map_left_iff,forall₂_and_right]
  tauto

theorem suffixStackExact_iff {entries : List StackEntryGeneration} (h : entries ≠ []) :
    suffixStackExact status (entries.map (·.pr)) = true ↔
      (2 ≤ entries.length → ∃ native ∈ status.stackBackend.nativeStacks,
        native.consistency = .exact ∧ (∀ edge ∈ native.ancestry,edge.linear = true) ∧
          (native.stack.pullRequests.filter openRow).map (·.number) = entries.map (·.pr)) ∧
      ∀ only,entries = [only] → ∀ native ∈ status.stackBackend.nativeStacks,
        (∃ row ∈ native.stack.pullRequests,row.number = only.pr ∧ openRow row = true) →
          native.consistency = .exact := by
  match entries,h with
  | [only],_ =>
    have hsingle : ∀ native : NativeStackStatus,
        (!((native.stack.pullRequests.any fun entry => decide (entry.number = only.pr) && openRow entry) &&
          decide (native.consistency ≠ .exact))) = true ↔
        ((∃ row ∈ native.stack.pullRequests,row.number = only.pr ∧ openRow row = true) →
          native.consistency = .exact) := by
      intro native
      simp only [Bool.not_eq_true',Bool.and_eq_false_iff,List.any_eq_false,decide_eq_false_iff_not,
        Bool.and_eq_true,decide_eq_true_eq,not_not]
      constructor
      · intro h hrow
        obtain ⟨row,hmem,hrow⟩ := hrow
        exact h.resolve_left fun hnone => hnone row hmem hrow
      · intro h
        by_cases hexact : native.consistency = .exact
        · exact .inr hexact
        · exact .inl fun row hmem hrow => hexact (h ⟨row,hmem,hrow⟩)
    show (!status.stackBackend.nativeStacks.any _) = true ↔ _
    rw [List.not_any_eq_all_not,List.all_eq_true]
    constructor
    · intro h
      refine ⟨fun hlong => absurd hlong (by simp),?_⟩
      intro only' honly native hnative
      obtain ⟨rfl,_⟩ := List.cons.inj honly
      exact (hsingle native).mp (h native hnative)
    · exact fun h native hnative => (hsingle native).mpr (h.2 only rfl native hnative)
  | first::second::rest,_ =>
    show status.stackBackend.nativeStacks.any _ = true ↔ _
    rw [List.any_eq_true]
    simp only [Bool.and_eq_true,decide_eq_true_eq,List.all_eq_true,and_assoc]
    constructor
    · exact fun h => ⟨fun _ => h,fun only honly => by cases honly⟩
    · exact fun h => h.1 (by simp)

theorem suffixConverged_iff (hlanded : ∀ entry ∈ plan.before.topology.entries.take (selectedEnd plan),
      mergedFact status plan entry.pr = true)
    (hunmerged : ∀ entry ∈ remaining plan,mergedFact status plan entry.pr = false) :
    suffixConverged status ((remaining plan).map (·.pr)) = true ↔ LandingConverged status plan := by
  unfold suffixConverged
  by_cases hempty : remaining plan = []
  · rw [hempty]
    simp only [List.map_nil,List.isEmpty_nil,Bool.true_or,true_iff]
    refine ⟨hlanded,hunmerged,⟨[],?_,.nil _⟩,fun h => absurd hempty h,?_,?_⟩
    · rw [hempty]
      exact .nil
    · intro hlong
      rw [hempty] at hlong
      exact absurd hlong (by simp)
    · intro only honly
      rw [hempty] at honly
      cases honly
  · have hsome : ((remaining plan).map (·.pr)).isEmpty = false := by simp [hempty]
    rw [hsome,Bool.false_or,Option.any_eq_true]
    simp only [Bool.and_eq_true,List.any_eq_true,decide_eq_true_eq,Bool.not_eq_true',and_assoc,
      suffixStackExact_iff hempty]
    rw [based_iff]
    constructor
    · intro h
      exact ⟨hlanded,hunmerged,h.1,fun _ => h.2.1,h.2.2.1,h.2.2.2⟩
    · exact fun h => ⟨h.based,h.caravan hempty,h.stack,h.single⟩

end Convergence

section Prefix

variable {E : Type} (merged : E → Bool) {history selected rest : List E} (key : E → PrNumber)

private theorem takeWhile_of_none (h : ∀ e ∈ rest,merged e = false) :
    rest.takeWhile merged = [] ∧ rest.dropWhile merged = rest := by
  cases rest with
  | nil => exact ⟨rfl,rfl⟩
  | cons e rest =>
    have he := h e (by simp)
    exact ⟨List.takeWhile_cons_of_neg (by simp [he]),List.dropWhile_cons_of_neg (by simp [he])⟩

/-- Among distinct entries, a merged prefix that is exactly the selection leaves no room for
history before it. -/
theorem mergedPrefix_iff (hdistinct : ((history ++ (selected ++ rest)).map key).Nodup)
    (hselected : selected ≠ []) :
    ((history ++ (selected ++ rest)).takeWhile merged ≠ [] ∧
      (∀ e ∈ (history ++ (selected ++ rest)).dropWhile merged,merged e = false) ∧
      (∀ e ∈ (history ++ (selected ++ rest)).takeWhile merged,key e ∈ selected.map key) ∧
      ∀ e ∈ selected,merged e = true) ↔
    history = [] ∧ (∀ e ∈ selected,merged e = true) ∧ ∀ e ∈ rest,merged e = false := by
  constructor
  · intro h
    obtain ⟨hsome,hafter,hown,hall⟩ := h
    have hhistory : history = [] := by
      cases history with
      | nil => rfl
      | cons e history =>
        have hfirst : merged e = true := by
          by_contra hnot
          exact hsome (List.takeWhile_cons_of_neg hnot)
        have hmem : e ∈ (e::history ++ (selected ++ rest)).takeWhile merged := by
          show e ∈ List.takeWhile merged (e::(history ++ (selected ++ rest)))
          rw [List.takeWhile_cons_of_pos hfirst]
          simp
        have hkey := hown e hmem
        rw [List.cons_append,List.map_cons,List.nodup_cons,List.map_append,List.map_append] at hdistinct
        exact absurd (List.mem_append_right _ (List.mem_append_left _ hkey)) hdistinct.1
    rw [hhistory,List.nil_append] at hafter hown hdistinct
    refine ⟨hhistory,hall,?_⟩
    intro e he
    by_contra hnot
    have hmerged : merged e = true := by simpa using hnot
    have hmem : e ∈ (selected ++ rest).takeWhile merged ++ (selected ++ rest).dropWhile merged := by
      rw [List.takeWhile_append_dropWhile]
      exact List.mem_append_right _ he
    obtain hmem | hmem := List.mem_append.mp hmem
    · have hkey := hown e hmem
      rw [List.map_append] at hdistinct
      exact (List.nodup_append.mp hdistinct).2.2 _ hkey _ (List.mem_map_of_mem he) rfl
    · exact hnot (hafter e hmem)
  · intro h
    obtain ⟨hhistory,hall,hnone⟩ := h
    obtain ⟨htake,hdrop⟩ := takeWhile_of_none merged hnone
    rw [hhistory,List.nil_append,List.takeWhile_append_of_pos hall,List.dropWhile_append_of_pos hall,
      htake,hdrop,List.append_nil]
    exact ⟨hselected,hnone,fun e he => List.mem_map_of_mem he,hall⟩

theorem dropWhile_merged {entries : List E} (hsplit : entries = history ++ (selected ++ rest))
    (hhistory : history = []) (hselected : ∀ e ∈ selected,merged e = true)
    (hrest : ∀ e ∈ rest,merged e = false) : entries.dropWhile merged = rest := by
  rw [hsplit,hhistory,List.nil_append,List.dropWhile_append_of_pos hselected]
  exact (takeWhile_of_none merged hrest).2

end Prefix

section Judgement

variable {repository : RepositoryId} {plan : StackAsyncMergePlan} {status : StatusOutput}
  {checkpoint : StackLandCheckpoint}

/-- An accepted plan's entries are its history, its selection and what remains. -/
theorem entries_split (h : validateMergePlan repository plan = .ok ()) :
    plan.selected ≠ [] ∧ plan.before.topology.entries =
      plan.before.topology.entries.take (selectedStart plan) ++ (plan.selected ++ remaining plan) := by
  have hparts : plan.selected ≠ [] ∧ plan.selected =
      (plan.before.topology.entries.take (selectedEnd plan)).drop (selectedStart plan) := by
    unfold validateMergePlan at h
    dsimp only at h
    split at h
    · cases h
    · split at h
      · cases h
      · split at h
        · cases h
        · split at h
          · cases h
          case isFalse hbounded =>
            split at h
            · cases h
            · split at h
              · cases h
              case isFalse hshape =>
                simp only [not_or,not_not,ne_eq] at hbounded hshape
                exact ⟨hbounded.1,hshape.2.2⟩
  refine ⟨hparts.1,?_⟩
  have hend : selectedEnd plan = selectedStart plan + plan.selected.length := rfl
  have hselected : plan.selected =
      (plan.before.topology.entries.drop (selectedStart plan)).take plan.selected.length := by
    conv_lhs => rw [hparts.2,hend,List.drop_take,Nat.add_sub_cancel_left]
  have hrest : remaining plan =
      (plan.before.topology.entries.drop (selectedStart plan)).drop plan.selected.length := by
    unfold remaining
    rw [hend,List.drop_drop]
  conv_rhs => rw [hrest]; rhs; lhs; rw [hselected]
  rw [List.take_append_drop,List.take_append_drop]

theorem take_selectedEnd (h : validateMergePlan repository plan = .ok ())
    (hstart : selectedStart plan = 0) :
    plan.before.topology.entries.take (selectedEnd plan) = plan.selected := by
  have hsplit := (entries_split h).2
  rw [hstart,List.take_zero,List.nil_append] at hsplit
  have hend : selectedEnd plan = plan.selected.length := by
    unfold selectedEnd
    omega
  rw [hend]
  conv_lhs => rw [hsplit]
  exact List.take_left

/-- A released and merged landing is judged converged exactly when no history precedes its
selection and fresh status shows the landing converged. -/
theorem nativeStackLandingConverged_iff (hphase : checkpoint.phase = .released)
    (hrelease : checkpoint.lockRelease.isSome = true)
    (hstatus : checkpoint.terminalStatus = some .merged)
    (hvalid : validateMergePlan repository checkpoint.plan = .ok ())
    (hdistinct : (checkpoint.plan.before.topology.entries.map (·.pr)).Nodup) :
    nativeStackLandingConverged status checkpoint = true ↔
      selectedStart checkpoint.plan = 0 ∧ LandingConverged status checkpoint.plan := by
  obtain ⟨hselected,hsplit⟩ := entries_split hvalid
  have hprefix := mergedPrefix_iff (fun entry : StackEntryGeneration =>
    mergedFact status checkpoint.plan entry.pr) (·.pr) (hsplit ▸ hdistinct) hselected
  rw [← hsplit] at hprefix
  have hstart : checkpoint.plan.before.topology.entries.take (selectedStart checkpoint.plan) = [] ↔
      selectedStart checkpoint.plan = 0 := by
    rw [List.take_eq_nil_iff]
    apply or_iff_left
    intro hnone
    rw [hnone,List.take_nil,List.nil_append] at hsplit
    exact hselected (List.append_eq_nil_iff.mp hsplit.symm).1
  unfold nativeStackLandingConverged
  simp only [hphase,hrelease,hstatus,decide_true,Bool.true_and,true_or,ne_eq,not_true_eq_false,
    decide_false,Bool.false_or,Bool.and_eq_true,Bool.not_eq_true',List.isEmpty_eq_false_iff,
    List.any_eq_false,List.all_eq_true,decide_eq_true_eq,List.forall_mem_map,Bool.not_eq_true]
  constructor
  · intro h
    obtain ⟨⟨⟨⟨hsome,hafter⟩,hown⟩,hall⟩,hsuffix⟩ := h
    obtain ⟨hnone,hmerged,hunmerged⟩ := hprefix.mp ⟨hsome,hafter,hown,hall⟩
    have hzero := hstart.mp hnone
    have hrest := dropWhile_merged _ hsplit hnone hmerged hunmerged
    rw [hrest] at hsuffix
    refine ⟨hzero,(suffixConverged_iff ?_ hunmerged).mp hsuffix⟩
    rw [take_selectedEnd hvalid hzero]
    exact hmerged
  · intro h
    obtain ⟨hzero,hconverged⟩ := h
    have hmerged := hconverged.landed
    rw [take_selectedEnd hvalid hzero] at hmerged
    have hnone := hstart.mpr hzero
    obtain ⟨hsome,hafter,hown,hall⟩ := hprefix.mpr ⟨hnone,hmerged,hconverged.unmerged⟩
    have hrest := dropWhile_merged _ hsplit hnone hmerged hconverged.unmerged
    refine ⟨⟨⟨⟨hsome,hafter⟩,hown⟩,hall⟩,?_⟩
    rw [hrest]
    exact (suffixConverged_iff hconverged.landed hconverged.unmerged).mpr hconverged

end Judgement

section Landed

variable (plan : StackAsyncMergePlan)

/-- The open pull requests of a Stack after everything below them landed. -/
def stacked (parent : BranchSnapshot) : List StackEntryGeneration → List PullRequestSnapshot
  | [] => []
  | entry::entries => {
      number := entry.pr
      state := .open
      head := entry.head
      base := parent
      autoMerge := ⟨false,none,none⟩ }::stacked entry.head entries

def stackRow (state : String) (mergedAt : Option String) (entry : StackEntryGeneration) :
    Github.StackPullRequest where
  number := entry.pr
  state := state
  draft := false
  mergedAt := mergedAt
  head := ⟨entry.head.name,entry.head.oid⟩

/-- The Stack after the landing: its selection merged, the remaining entries open. -/
def landedStack : NativeStackStatus where
  stack := {
    id := plan.before.id
    number := plan.before.number
    nodeId := plan.before.nodeId
    baseRef := plan.before.topology.base.name
    isOpen := true
    createdAt := plan.before.createdAt
    pullRequests :=
      (plan.before.topology.entries.take (selectedEnd plan)).map (stackRow "merged" (some "")) ++
        (remaining plan).map (stackRow "open" none) }
  consistency := .exact

/-- Fresh status right after a plan landed and its suffix was promoted. -/
def landedStatus : StatusOutput where
  repository := plan.before.topology.base.repository
  defaultBranch := plan.before.topology.base.name
  analysis := {
    fleet := {
      repository := plan.before.topology.base.repository
      defaultBranch := plan.before.topology.base
      caravans := (Caravan.new ((remaining plan).map (·.pr))).toList }
    pullRequests := .ofList ((stacked plan.before.topology.base (remaining plan)).map fun pull =>
      (pull.number,pull)) }
  stackBackend := { nativeStacks := [landedStack plan] }

theorem stacked_numbers (parent : BranchSnapshot) (entries : List StackEntryGeneration) :
    (stacked parent entries).map (·.number) = entries.map (·.pr) := by
  induction entries generalizing parent with
  | nil => rfl
  | cons entry entries ih => simp [stacked,ih]

theorem stacked_linear (parent : BranchSnapshot) (entries : List StackEntryGeneration) :
    (∀ pull ∈ stacked parent entries,pull.state = .open ∧ pull.mergedAt = none) ∧
      LinearlyBased parent (stacked parent entries) := by
  induction entries generalizing parent with
  | nil => exact ⟨by simp [stacked],.nil parent⟩
  | cons entry entries ih =>
    obtain ⟨hopen,hbased⟩ := ih entry.head
    refine ⟨?_,.cons rfl rfl hbased⟩
    intro pull hpull
    obtain hpull | hpull := List.mem_cons.mp hpull
    · rw [hpull]
      exact ⟨rfl,rfl⟩
    · exact hopen pull hpull

theorem stacked_lookup {prs : PullRequestMap} {parent : BranchSnapshot}
    {entries : List StackEntryGeneration}
    (h : ∀ pull ∈ stacked parent entries,prs[pull.number]? = some pull) :
    List.Forall₂ (fun (entry : StackEntryGeneration) pull =>
      prs[entry.pr]? = some pull ∧ pull.state = .open) entries (stacked parent entries) := by
  induction entries generalizing parent with
  | nil => exact .nil
  | cons entry entries ih =>
    unfold stacked at h ⊢
    exact .cons ⟨h _ List.mem_cons_self,rfl⟩ (ih fun pull hpull => h pull (List.mem_cons_of_mem _ hpull))

variable {plan}

theorem landedStatus_lookup (hdistinct : (plan.before.topology.entries.map (·.pr)).Nodup)
    {pull : PullRequestSnapshot} (h : pull ∈ stacked plan.before.topology.base (remaining plan)) :
    (landedStatus plan).analysis.pullRequests[pull.number]? = some pull := by
  apply Std.ExtTreeMap.getElem?_ofList_of_mem (k := pull.number)
  · exact Std.ReflCmp.compare_self
  · rw [List.pairwise_map]
    have hkeys : ((stacked plan.before.topology.base (remaining plan)).map (·.number)).Nodup := by
      rw [stacked_numbers]
      exact hdistinct.sublist ((List.drop_sublist _ _).map _)
    rw [List.Nodup,List.pairwise_map] at hkeys
    exact hkeys.imp fun hne heq => hne (Std.LawfulEqCmp.eq_of_compare heq)
  · exact List.mem_map.mpr ⟨pull,h,rfl⟩

theorem landedStatus_row (pr : PrNumber) :
    ((landedStatus plan).stackBackend.nativeStacks.find? fun native =>
      decide (native.stack.number = plan.before.number)).any (fun native =>
        native.stack.pullRequests.any (mergedRow pr)) =
      (plan.before.topology.entries.take (selectedEnd plan)).any fun entry =>
        decide (entry.pr = pr) := by
  have hfind : (landedStatus plan).stackBackend.nativeStacks.find? (fun native =>
      decide (native.stack.number = plan.before.number)) = some (landedStack plan) := by
    simp [landedStatus,landedStack]
  have hopen : ∀ entry : StackEntryGeneration,mergedRow pr (stackRow "open" none entry) = false := by
    simp [mergedRow,stackRow]
  have hmerged : ∀ entry : StackEntryGeneration,
      mergedRow pr (stackRow "merged" (some "") entry) = decide (entry.pr = pr) := by
    intro entry
    have hword : Text.eqIgnoreAsciiCase "merged" "merged" = true := by decide +kernel
    simp only [mergedRow,stackRow,hword,Option.isSome_some,Bool.and_true,Bool.or_true]
    exact decide_eq_decide.mpr Iff.rfl
  rw [hfind]
  show (((plan.before.topology.entries.take (selectedEnd plan)).map (stackRow "merged" (some "")) ++
    (remaining plan).map (stackRow "open" none)).any (mergedRow pr)) = _
  rw [List.any_append,List.any_map,List.any_map]
  have hnone : ((remaining plan).any (mergedRow pr ∘ stackRow "open" none)) = false := by
    rw [List.any_eq_false]
    intro entry _
    simp [hopen entry]
  rw [hnone,Bool.or_false]
  congr 1
  funext entry
  exact hmerged entry

theorem landingConverged_landedStatus (hdistinct : (plan.before.topology.entries.map (·.pr)).Nodup) :
    LandingConverged (landedStatus plan) plan := by
  obtain ⟨hopen,hbased⟩ := stacked_linear plan.before.topology.base (remaining plan)
  have hparts : (((plan.before.topology.entries.take (selectedEnd plan)).map (·.pr)) ++
      (remaining plan).map (·.pr)).Nodup := by
    unfold remaining
    rw [← List.map_append,List.take_append_drop]
    exact hdistinct
  have hword : ∀ entry : StackEntryGeneration,openRow (stackRow "open" none entry) = true := by
    intro entry
    show Text.eqIgnoreAsciiCase "open" "open" = true
    decide +kernel
  have hclosed : ∀ entry : StackEntryGeneration,
      openRow (stackRow "merged" (some "") entry) = false := by
    intro entry
    show Text.eqIgnoreAsciiCase "merged" "open" = false
    decide +kernel
  have hmember : ∀ entry ∈ remaining plan,
      ∃ pull ∈ stacked plan.before.topology.base (remaining plan),pull.number = entry.pr := by
    intro entry hentry
    have hnumber : entry.pr ∈ (stacked plan.before.topology.base (remaining plan)).map (·.number) := by
      rw [stacked_numbers]
      exact List.mem_map_of_mem hentry
    obtain ⟨pull,hpull,hnumber⟩ := List.mem_map.mp hnumber
    exact ⟨pull,hpull,hnumber⟩
  refine ⟨?_,?_,⟨stacked plan.before.topology.base (remaining plan),?_,hbased⟩,?_,?_,?_⟩
  · intro entry hentry
    unfold mergedFact
    rw [landedStatus_row,Bool.or_eq_true]
    exact .inr (List.any_eq_true.mpr ⟨entry,hentry,by simp⟩)
  · intro entry hentry
    obtain ⟨pull,hpull,hnumber⟩ := hmember entry hentry
    have hlookup := landedStatus_lookup hdistinct hpull
    rw [hnumber] at hlookup
    obtain ⟨hstate,htime⟩ := hopen pull hpull
    unfold mergedFact
    rw [landedStatus_row,hlookup]
    simp only [Option.any_some,PullRequestSnapshot.isMerged,hstate,htime,Bool.or_eq_false_iff]
    refine ⟨by decide,?_⟩
    rw [List.any_eq_false]
    intro other hother
    rw [decide_eq_true_eq]
    exact fun heq => (List.nodup_append.mp hparts).2.2 _ (List.mem_map_of_mem hother) _
      (List.mem_map_of_mem hentry) heq
  · exact stacked_lookup fun pull hpull => landedStatus_lookup hdistinct hpull
  · intro hsome
    cases hrest : remaining plan with
    | nil => exact absurd hrest hsome
    | cons entry entries =>
      refine ⟨⟨entry.pr,(entry::entries).map (·.pr),false⟩,?_,rfl,rfl⟩
      simp [landedStatus,hrest,Caravan.new]
  · intro _
    refine ⟨landedStack plan,by simp [landedStatus],rfl,by simp [landedStack],?_⟩
    have hkeep : (remaining plan).filter (openRow ∘ stackRow "open" none) = remaining plan :=
      List.filter_eq_self.mpr fun entry _ => hword entry
    have hdrop : (plan.before.topology.entries.take (selectedEnd plan)).filter
        (openRow ∘ stackRow "merged" (some "")) = [] :=
      List.filter_eq_nil_iff.mpr fun entry _ => by simp [hclosed entry]
    simp only [landedStack,List.filter_append,List.filter_map,hkeep,hdrop,List.map_nil,
      List.nil_append,List.map_map]
    rfl
  · intro only _ native hnative _
    rw [List.mem_singleton.mp hnative]
    rfl

end Landed

end Sync
end Cara
