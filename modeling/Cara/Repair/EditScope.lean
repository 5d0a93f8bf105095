import Cara.Lib.Observe
import Cara.Repair.Resolution

/-! The edit scope of a repair: the checked-out commit, the mechanical merge and the staged index as maps
from paths to entries, and what the verification of a resolution makes of where they differ. -/
namespace Cara
namespace Repair

open Prog

section Staged

structure PathMap where
  entries : Index
  unique : (entries.map (·.1)).Nodup
deriving DecidableEq

def PathMap.at (tree : PathMap) (path : String) : Option IndexEntry := tree.entries.lookup path

/-- The paths where the index differs from the checked-out commit. -/
def changes (head index : PathMap) : List String :=
  ((head.entries ++ index.entries).map (·.1)).filter fun path => decide (index.at path ≠ head.at path)

structure StagedWorkspace where
  head : PathMap
  index : PathMap
  mergeHead : Option CommitOid
  diffIsClean : Bool
  now : ℕ
deriving DecidableEq

def conflictMarkersPresent : RepairError := ⟨.executionFailure,"repair_conflict_markers_present",
  "staged repair still contains conflict markers or whitespace errors",none⟩

def inspects : RepairRequest → Bool
  | .clock | .revParse _ | .unmergedEntries | .unstagedChanges | .untrackedFiles | .checkStaged
  | .changedPaths _ | .stagedEntries | .pathEntry _ | .stagedDiff _ => true
  | _ => false

def StagedWorkspace.answer (w : StagedWorkspace) : RepairRequest → RepairAnswer
  | .clock => .time w.now
  | .revParse _ => .revision w.mergeHead
  | .unmergedEntries => .paths []
  | .unstagedChanges => .flag false
  | .untrackedFiles => .paths []
  | .checkStaged => if w.diffIsClean then .done else .failed conflictMarkersPresent
  | .changedPaths _ => .paths (changes w.head w.index)
  | .stagedEntries => .entries w.index.entries
  | .pathEntry path => .entry (w.index.at path)
  | .stagedDiff _ => .text ""
  | _ => .done

/-- What a program that only inspects this workspace comes to. -/
def StagedWorkspace.gives {α : Type} (w : StagedWorkspace) (p : RepairIo α) : Option (Except RepairError α) :=
  p.run.observe inspects w.answer

/-- The objects of the entries that differ from the checked-out commit. -/
def stagedObjects (head index : PathMap) : List (String × String) :=
  (index.entries.filter fun row => decide (row.1 ∈ changes head index)).map fun row => (row.1,row.2.oid)

/-- The same workspace when the merge had just been made. -/
def StagedWorkspace.prepared (w : StagedWorkspace) (merged : PathMap) : StagedWorkspace :=
  { w with index := merged }

end Staged

section Spec

variable (repair : RepairSession) (w : StagedWorkspace) (merged : PathMap)

/-- A reported conflict, or an applied grant in time that is staged to exactly its expected result. -/
def InScope (path : String) : Prop :=
  path ∈ repair.conflictingPaths ∨ ∃ grant ∈ repair.semanticGrants,grant.path = path ∧
    grant.applied = true ∧ w.now ≤ grant.expiresUnixMs ∧
      (w.index.at path).map (·.oid) = some grant.expectedResultOid

/-- Every path that differs from the mechanical merge is in scope. -/
def ScopeExact : Prop := ∀ path,w.index.at path ≠ merged.at path → InScope repair w path

/-- The verification succeeds, with or without a receipt of broad edits. -/
def Accepts (context : RepairContext) (actor : Option String) : Prop :=
  ∃ receipt,w.gives (verifyResolution context repair actor) = some (.ok receipt)

/-- The merge is the recorded one, its diff is clean, and every grant stands as a change to its result. -/
structure Ready : Prop where
  mergeHead : w.mergeHead = some repair.target.oid
  diffIsClean : w.diffIsClean = true
  grants : ∀ grant ∈ repair.semanticGrants,grant.applied = true ∧ w.now ≤ grant.expiresUnixMs ∧
    w.index.at grant.path ≠ w.head.at grant.path ∧
      (w.index.at grant.path).map (·.oid) = some grant.expectedResultOid

def Uncovered (path : String) : Prop :=
  path ∉ repair.conflictingPaths ∧ path ∉ repair.semanticGrants.map (·.path)

def CleanDeletion (path : String) : Prop :=
  w.index.at path = none ∧ merged.at path = none ∧ w.head.at path ≠ none

/-- Another mode for the merged object, or a path back that the merge had deleted. -/
def Tolerated (path : String) : Prop :=
  (∃ entry mechanical,w.index.at path = some entry ∧ merged.at path = some mechanical ∧
    entry ≠ mechanical ∧ entry.oid = mechanical.oid ∧ w.head.at path ≠ some entry ∧
      w.head.at path ≠ some mechanical) ∨
  (w.index.at path = w.head.at path ∧ merged.at path = none ∧ w.head.at path ≠ none)

def Visible (path : String) : Prop :=
  w.index.at path ≠ merged.at path ∧ ¬Tolerated w merged path

/-- The verification and the exact scope come to the same. -/
def Agrees : Prop :=
  (Ready repair w ∧ ((∃ path,Uncovered repair path ∧ Visible w merged path) ∨
    ((∃ path,Uncovered repair path ∧ CleanDeletion w merged path) ↔
      ∃ path,Uncovered repair path ∧ Tolerated w merged path))) ∨
  (¬Ready repair w ∧ ∃ path,w.index.at path ≠ merged.at path ∧ ¬InScope repair w path)

end Spec

section Paths

variable {head index : PathMap} {path : String}

theorem mem_changes_iff : path ∈ changes head index ↔ index.at path ≠ head.at path := by
  unfold changes
  rw [List.mem_filter,decide_eq_true_eq]
  refine ⟨And.right,fun hne => ⟨?_,hne⟩⟩
  by_contra hout
  have hnone (tree : PathMap) (hkeys : path ∉ tree.entries.map (·.1)) : tree.at path = none := by
    unfold PathMap.at
    rw [List.lookup_eq_none_iff]
    intro row hrow
    rw [bne_iff_ne]
    intro heq
    rw [heq] at hkeys
    exact hkeys (List.mem_map_of_mem hrow)
  rw [List.map_append,List.mem_append,not_or] at hout
  exact hne ((hnone index hout.2).trans (hnone head hout.1).symm)

theorem stagedObjects_lookup : (stagedObjects head index).lookup path =
    if index.at path ≠ head.at path then (index.at path).map (·.oid) else none := by
  have hlookup (rows : Index) : ((rows.filter fun row => decide (row.1 ∈ changes head index)).map
      fun row => (row.1,row.2.oid)).lookup path =
        if path ∈ changes head index then (rows.lookup path).map (·.oid) else none := by
    induction rows with
    | nil =>
      show none = _
      split <;> rfl
    | cons row rows ih =>
      rw [List.filter_cons,List.lookup_cons]
      by_cases hpath : path = row.1
      · rw [← hpath,beq_self_eq_true]
        by_cases hchanged : path ∈ changes head index
        · rw [if_pos (decide_eq_true hchanged),if_pos hchanged,List.map_cons,List.lookup_cons,← hpath,
            beq_self_eq_true]
          rfl
        · rw [if_neg (by simpa using hchanged),ih,if_neg hchanged,if_neg hchanged]
      · have hbeq : (path == row.1) = false := by simpa using hpath
        rw [hbeq]
        split
        · rw [List.map_cons,List.lookup_cons]
          dsimp only
          rw [hbeq,ih]
        · exact ih
  unfold stagedObjects
  rw [hlookup]
  by_cases hchanged : path ∈ changes head index
  · rw [if_pos hchanged,if_pos (mem_changes_iff.mp hchanged)]
    rfl
  · rw [if_neg hchanged,if_neg fun hne => hchanged (mem_changes_iff.mpr hne)]

theorem mem_stagedObjects_iff {oid : String} :
    (path,oid) ∈ stagedObjects head index ↔ (stagedObjects head index).lookup path = some oid := by
  have hunique : ((stagedObjects head index).map (·.1)).Nodup := by
    unfold stagedObjects
    rw [List.map_map]
    exact (List.Sublist.map _ List.filter_sublist).nodup index.unique
  generalize stagedObjects head index = rows at hunique ⊢
  induction rows with
  | nil => simp
  | cons row rows ih =>
    obtain ⟨hout,hunique⟩ := List.nodup_cons.mp hunique
    rw [List.mem_cons,List.lookup_cons]
    by_cases hpath : path = row.1
    · rw [hpath,beq_self_eq_true,Option.some_inj]
      constructor
      · rintro (hrow | hrow)
        · rw [← hrow]
        · exact absurd (List.mem_map_of_mem (f := (·.1)) hrow) hout
      · intro hoid
        exact .inl (by rw [← hoid])
    · have hbeq : (path == row.1) = false := by simpa using hpath
      have hrest := ih hunique
      rw [hbeq]
      constructor
      · rintro (hrow | hrow)
        · exact absurd (congrArg Prod.fst hrow) hpath
        · exact hrest.mp hrow
      · exact fun hrow => .inr (hrest.mpr hrow)

end Paths

section Verification

variable {context : RepairContext} {repair : RepairSession} {actor : Option String} {w : StagedWorkspace}
  {merged : PathMap} {path : String} {objects : List (String × String)} {allowed broad : List String}

theorem gives_bind {α β : Type} {p : RepairIo α} {f : α → RepairIo β} {b : β} :
    w.gives (p >>= f) = some (.ok b) ↔ ∃ a,w.gives p = some (.ok a) ∧ w.gives (f a) = some (.ok b) :=
  observe_bind_eq_ok

theorem gives_stagedIndex : w.gives stagedIndex = some (.ok (stagedObjects w.head w.index)) := rfl

theorem gives_clock : w.gives clock = some (.ok w.now) := rfl

theorem gives_changed : w.gives (ask (.changedPaths false) pathsOf) = some (.ok (changes w.head w.index)) := rfl

theorem gives_revParse {revision : String} {oid : CommitOid} :
    w.gives (revParse revision) = some (.ok oid) ↔ w.mergeHead = some oid := by
  obtain ⟨head,index,mergeHead,diffIsClean,now⟩ := w
  cases mergeHead with
  | none =>
    constructor
    · intro h
      cases h
    · intro h
      cases h
  | some actual =>
    constructor
    · intro h
      cases h
      rfl
    · intro h
      cases h
      rfl

theorem gives_checkStaged : w.gives (perform .checkStaged) = some (.ok ()) ↔ w.diffIsClean = true := by
  obtain ⟨head,index,mergeHead,diffIsClean,now⟩ := w
  cases diffIsClean with
  | true => exact iff_of_true rfl rfl
  | false =>
    constructor
    · intro h
      cases h
    · intro h
      cases h

theorem gives_requireStaged : w.gives (requireStaged repair) = some (.ok ()) ↔
    w.mergeHead = some repair.target.oid ∧ w.diffIsClean = true := by
  unfold requireStaged
  constructor
  · intro h
    obtain ⟨oid,hmergeHead,h⟩ := gives_bind.mp h
    obtain ⟨_,hrefuse,h⟩ := gives_bind.mp h
    obtain ⟨_,_,h⟩ := gives_bind.mp h
    obtain ⟨_,_,h⟩ := gives_bind.mp h
    obtain ⟨_,_,h⟩ := gives_bind.mp h
    obtain ⟨_,_,h⟩ := gives_bind.mp h
    obtain ⟨_,_,h⟩ := gives_bind.mp h
    obtain ⟨_,_,h⟩ := gives_bind.mp h
    have htarget : oid = repair.target.oid := by simpa using observe_refuseIf.mp hrefuse
    exact ⟨htarget ▸ gives_revParse.mp hmergeHead,gives_checkStaged.mp h⟩
  · rintro ⟨hmergeHead,hclean⟩
    refine gives_bind.mpr ⟨_,gives_revParse.mpr hmergeHead,gives_bind.mpr ⟨(),?_,?_⟩⟩
    · exact observe_refuseIf.mpr (by simp)
    · refine gives_bind.mpr ⟨[],rfl,gives_bind.mpr ⟨(),rfl,gives_bind.mpr ⟨false,rfl,gives_bind.mpr ⟨(),rfl,?_⟩⟩⟩⟩
      exact gives_bind.mpr ⟨[],rfl,gives_bind.mpr ⟨(),rfl,gives_checkStaged.mpr hclean⟩⟩

theorem gives_broadReceipt (hauthorization : repair.agentEditAuthorization = none) :
    (∃ receipt,w.gives (broadReceipt context repair actor objects broad) = some (.ok receipt)) ↔ broad = [] := by
  constructor
  · rintro ⟨receipt,h⟩
    cases broad with
    | nil => rfl
    | cons path rest =>
      obtain ⟨_,h,_⟩ := gives_bind.mp h
      obtain ⟨_,_,h⟩ := gives_bind.mp h
      obtain ⟨_,h,_⟩ := gives_bind.mp h
      unfold verifyAgentEditAuthorization at h
      rw [hauthorization] at h
      cases h
  · intro h
    rw [h]
    exact ⟨none,rfl⟩

theorem allowedRepairPaths_ok {now : ℕ} : allowedRepairPaths repair now = .ok allowed ↔
    (∀ grant ∈ repair.semanticGrants,grant.applied = true ∧ now ≤ grant.expiresUnixMs) ∧
      allowed = repair.conflictingPaths ++ repair.semanticGrants.map (·.path) := by
  have hgrant (grant : RepairPathGrant) (path : String) : (do
      Guard.refuse (!grant.applied) (grantIncomplete grant.path)
      Guard.refuse (decide (grant.expiresUnixMs < now)) (grantExpired grant.path)
      return grant.path : Except RepairError String) = .ok path ↔
        (grant.applied = true ∧ now ≤ grant.expiresUnixMs) ∧ path = grant.path := by
    rw [Guard.refuse_bind_eq_ok,Guard.refuse_bind_eq_ok]
    constructor
    · rintro ⟨happlied,htime,hpure⟩
      cases hpure
      exact ⟨⟨by simpa using happlied,by simpa using htime⟩,rfl⟩
    · rintro ⟨⟨happlied,htime⟩,rfl⟩
      exact ⟨by simpa using happlied,by simpa using htime,rfl⟩
  unfold allowedRepairPaths
  constructor
  · intro h
    obtain ⟨granted,hgranted,hpure⟩ := Guard.bind_eq_ok.mp h
    cases hpure
    refine ⟨?_,?_⟩
    · intro grant hmember
      obtain ⟨path,_,hpath⟩ := Guard.mem_of_mapM_eq_ok hgranted hmember
      exact ((hgrant grant path).mp hpath).1
    · rw [Guard.eq_map_of_mapM_eq_ok hgranted fun grant _ path hpath => ((hgrant grant path).mp hpath).2]
  · rintro ⟨hall,rfl⟩
    obtain ⟨granted,hgranted⟩ := Guard.mapM_ok fun grant hmember =>
      ⟨grant.path,(hgrant grant grant.path).mpr ⟨hall grant hmember,rfl⟩⟩
    refine Guard.bind_eq_ok.mpr ⟨granted,hgranted,?_⟩
    rw [Guard.eq_map_of_mapM_eq_ok hgranted fun grant _ path hpath => ((hgrant grant path).mp hpath).2]
    rfl

theorem broadPaths_eq_nil {changed : List String} : broadPaths repair allowed objects changed = [] ↔
    ∀ path ∈ changed,path ∈ allowed ∨
      ∃ oid,repair.baselineIndex.lookup path = some oid ∧ objects.lookup path = some oid := by
  unfold broadPaths
  rw [List.filter_eq_nil_iff]
  apply forall_congr'
  intro path
  apply imp_congr_right
  intro _
  cases repair.baselineIndex.lookup path with
  | none => simp
  | some oid =>
    simp only [Bool.and_eq_true,decide_eq_true_eq,not_and_or,not_not,Option.some_inj]
    rw [exists_eq_left']

theorem outsideScope_eq_none : outsideScope repair allowed [] objects = none ↔
    (∀ row ∈ repair.baselineIndex,row.1 ∈ allowed ∨ objects.lookup row.1 = some row.2) ∧
      ∀ row ∈ objects,row.1 ∈ allowed ∨ repair.baselineIndex.lookup row.1 ≠ none := by
  unfold outsideScope
  rw [Option.or_eq_none_iff,Option.map_eq_none_iff,Option.map_eq_none_iff,List.find?_eq_none,List.find?_eq_none]
  apply and_congr
  · apply forall_congr'
    intro row
    apply imp_congr_right
    intro _
    simp [or_iff_not_imp_left]
  · apply forall_congr'
    intro row
    apply imp_congr_right
    intro _
    cases repair.baselineIndex.lookup row.1 <;> simp

/-- The three comparisons of one path, as the verification makes them on objects that differ from the
checked-out commit. -/
theorem compared_iff {staged mechanical checkedOut : Option IndexEntry} :
    ((staged ≠ checkedOut → ∃ oid,
        (if mechanical ≠ checkedOut then mechanical.map (·.oid) else none) = some oid ∧
          (if staged ≠ checkedOut then staged.map (·.oid) else none) = some oid) ∧
      (∀ oid,(if mechanical ≠ checkedOut then mechanical.map (·.oid) else none) = some oid →
        (if staged ≠ checkedOut then staged.map (·.oid) else none) = some oid) ∧
      ∀ oid,(if staged ≠ checkedOut then staged.map (·.oid) else none) = some oid →
        (if mechanical ≠ checkedOut then mechanical.map (·.oid) else none) ≠ none) ↔
    ¬(staged = none ∧ mechanical = none ∧ checkedOut ≠ none) ∧
      ¬(staged ≠ mechanical ∧
        ¬((∃ entry merged,staged = some entry ∧ mechanical = some merged ∧ entry ≠ merged ∧
            entry.oid = merged.oid ∧ checkedOut ≠ some entry ∧ checkedOut ≠ some merged) ∨
          (staged = checkedOut ∧ mechanical = none ∧ checkedOut ≠ none))) := by
  by_cases hstaged : staged = checkedOut
  · rw [← hstaged]
    cases mechanical with
    | none => cases staged <;> simp
    | some merged =>
      by_cases hmerged : some merged = staged
      · rw [← hmerged]
        simp
      · rw [if_pos hmerged]
        cases staged <;> simp_all [eq_comm]
  · cases staged with
    | none =>
      have hpresent : checkedOut ≠ none := fun h => hstaged h.symm
      cases mechanical <;> simp_all
    | some entry =>
      cases mechanical with
      | none => simp_all [eq_comm]
      | some merged =>
        by_cases hmerged : some merged = checkedOut
        · rw [← hmerged]
          simp_all [eq_comm]
        -- Both changed the path; the objects are compared, and not the modes.
        · by_cases hoid : entry.oid = merged.oid
          · simp_all [eq_comm]
          · have hentry : entry ≠ merged := fun heq => hoid (congrArg (·.oid) heq)
            simp_all [eq_comm]

theorem refuseFirst_map_iff {α : Type} {found : Option α} {error : α → RepairError} :
    refuseFirst (found.map error) = .ok () ↔ found = none := by
  cases found <;> simp [refuseFirst]

/-- What the verification checks, in its order, when nobody authorised broad edits. -/
theorem accepts_checks (hauthorization : repair.agentEditAuthorization = none) :
    Accepts repair w context actor ↔ ∃ allowed,
      (w.mergeHead = some repair.target.oid ∧ w.diffIsClean = true) ∧
      allowedRepairPaths repair w.now = .ok allowed ∧
      (∀ grant ∈ repair.semanticGrants,
        (stagedObjects w.head w.index).lookup grant.path = some grant.expectedResultOid) ∧
      broadPaths repair allowed (stagedObjects w.head w.index) (changes w.head w.index) = [] ∧
      outsideScope repair allowed [] (stagedObjects w.head w.index) = none := by
  have hdrift : (repair.semanticGrants.find? fun grant =>
      decide ((stagedObjects w.head w.index).lookup grant.path ≠ some grant.expectedResultOid)) = none ↔
        ∀ grant ∈ repair.semanticGrants,
          (stagedObjects w.head w.index).lookup grant.path = some grant.expectedResultOid := by
    simp [List.find?_eq_none]
  rw [← gives_requireStaged]
  constructor
  · rintro ⟨receipt,h⟩
    unfold verifyResolution at h
    obtain ⟨_,hstaged,h⟩ := gives_bind.mp h
    obtain ⟨objects,hobjects,h⟩ := gives_bind.mp h
    obtain rfl : stagedObjects w.head w.index = objects :=
      Except.ok.inj (Option.some_inj.mp (gives_stagedIndex.symm.trans hobjects))
    obtain ⟨now,hnow,h⟩ := gives_bind.mp h
    cases hnow
    obtain ⟨allowed,hallowed,h⟩ := gives_bind.mp h
    obtain ⟨_,hrefuse,h⟩ := gives_bind.mp h
    obtain ⟨changed,hchanged,h⟩ := gives_bind.mp h
    cases hchanged
    obtain ⟨found,hreceipt,h⟩ := gives_bind.mp h
    obtain ⟨_,hscope,_⟩ := gives_bind.mp h
    have hbroad := (gives_broadReceipt hauthorization).mp ⟨found,hreceipt⟩
    rw [hbroad] at hscope
    exact ⟨allowed,hstaged,Option.some_inj.mp hallowed,
      hdrift.mp (refuseFirst_map_iff.mp (Option.some_inj.mp hrefuse)),hbroad,
      refuseFirst_map_iff.mp (Option.some_inj.mp hscope)⟩
  · rintro ⟨allowed,hstaged,hallowed,hgrants,hbroad,hout⟩
    refine ⟨none,?_⟩
    unfold verifyResolution
    refine gives_bind.mpr ⟨(),hstaged,gives_bind.mpr ⟨_,gives_stagedIndex,gives_bind.mpr ⟨_,gives_clock,?_⟩⟩⟩
    refine gives_bind.mpr ⟨allowed,congrArg some hallowed,gives_bind.mpr ⟨(),?_,?_⟩⟩
    · exact congrArg some (refuseFirst_map_iff.mpr (hdrift.mpr hgrants))
    · refine gives_bind.mpr ⟨_,gives_changed,?_⟩
      dsimp only
      rw [hbroad,hout]
      rfl

/-- An accepted resolution: the grants stand as changes, and outside of conflicts and grants the objects that
changed are those that the merge had changed. -/
theorem accepts_iff (hbaseline : (w.prepared merged).gives stagedIndex = some (.ok repair.baselineIndex))
    (hauthorization : repair.agentEditAuthorization = none) :
    Accepts repair w context actor ↔ Ready repair w ∧ ∀ path,Uncovered repair path →
      ¬CleanDeletion w merged path ∧ ¬Visible w merged path := by
  have hmerged : repair.baselineIndex = stagedObjects w.head merged :=
    (Except.ok.inj (Option.some_inj.mp (gives_stagedIndex.symm.trans hbaseline))).symm
  have hcompared (path : String) : ((path ∈ changes w.head w.index → ∃ oid,
        repair.baselineIndex.lookup path = some oid ∧ (stagedObjects w.head w.index).lookup path = some oid) ∧
      (∀ oid,(path,oid) ∈ repair.baselineIndex → (stagedObjects w.head w.index).lookup path = some oid) ∧
      ∀ oid,(path,oid) ∈ stagedObjects w.head w.index → repair.baselineIndex.lookup path ≠ none) ↔
        ¬CleanDeletion w merged path ∧ ¬Visible w merged path := by
    rw [hmerged]
    simp only [mem_stagedObjects_iff,mem_changes_iff,stagedObjects_lookup]
    exact compared_iff
  have hgrant (grant : RepairPathGrant) :
      (stagedObjects w.head w.index).lookup grant.path = some grant.expectedResultOid ↔
        w.index.at grant.path ≠ w.head.at grant.path ∧
          (w.index.at grant.path).map (·.oid) = some grant.expectedResultOid := by
    rw [stagedObjects_lookup]
    by_cases hchanged : w.index.at grant.path = w.head.at grant.path <;> simp [hchanged]
  have huncovered (path : String) : Uncovered repair path ↔
      path ∉ repair.conflictingPaths ++ repair.semanticGrants.map (·.path) := by
    rw [List.mem_append,not_or]
    rfl
  rw [accepts_checks hauthorization]
  constructor
  · rintro ⟨allowed,⟨hmergeHead,hclean⟩,hallowed,hgrants,hbroad,hout⟩
    obtain ⟨htimes,rfl⟩ := allowedRepairPaths_ok.mp hallowed
    obtain ⟨hbaseline,hobjects⟩ := outsideScope_eq_none.mp hout
    have hbroad := broadPaths_eq_nil.mp hbroad
    refine ⟨⟨hmergeHead,hclean,?_⟩,?_⟩
    · intro grant hmember
      obtain ⟨happlied,htime⟩ := htimes grant hmember
      exact ⟨happlied,htime,(hgrant grant).mp (hgrants grant hmember)⟩
    · intro path hpath
      have hfree := (huncovered path).mp hpath
      refine (hcompared path).mp ⟨?_,?_,?_⟩
      · exact fun hchanged => (hbroad path hchanged).resolve_left hfree
      · exact fun oid hrow => (hbaseline _ hrow).resolve_left hfree
      · exact fun oid hrow => (hobjects _ hrow).resolve_left hfree
  · rintro ⟨hready,hpaths⟩
    have hfree (path : String) : path ∈ repair.conflictingPaths ++ repair.semanticGrants.map (·.path) ∨
        ¬CleanDeletion w merged path ∧ ¬Visible w merged path := by
      by_cases hpath : path ∈ repair.conflictingPaths ++ repair.semanticGrants.map (·.path)
      · exact .inl hpath
      · exact .inr (hpaths path ((huncovered path).mpr hpath))
    refine ⟨_,⟨hready.mergeHead,hready.diffIsClean⟩,allowedRepairPaths_ok.mpr ⟨?_,rfl⟩,?_,?_,?_⟩
    · exact fun grant hmember => ⟨(hready.grants grant hmember).1,(hready.grants grant hmember).2.1⟩
    · exact fun grant hmember => (hgrant grant).mpr (hready.grants grant hmember).2.2
    · rw [broadPaths_eq_nil]
      intro path hchanged
      rcases hfree path with hin | hclear
      · exact .inl hin
      · exact .inr (((hcompared path).mpr hclear).1 hchanged)
    · rw [outsideScope_eq_none]
      constructor
      · intro row hrow
        rcases hfree row.1 with hin | hclear
        · exact .inl hin
        · exact .inr (((hcompared row.1).mpr hclear).2.1 row.2 hrow)
      · intro row hrow
        rcases hfree row.1 with hin | hclear
        · exact .inl hin
        · exact .inr (((hcompared row.1).mpr hclear).2.2 row.2 hrow)

theorem Tolerated.differs (h : Tolerated w merged path) : w.index.at path ≠ merged.at path := by
  rcases h with ⟨entry,mechanical,hentry,hmechanical,hne,_⟩ | ⟨hback,hdeleted,hpresent⟩
  · rw [hentry,hmechanical]
    exact fun heq => hne (Option.some_inj.mp heq)
  · rw [hback,hdeleted]
    exact hpresent

/-- Where the grants stand, the exact scope is a matter of the paths that nothing covers. -/
theorem scopeExact_iff (hready : Ready repair w) : ScopeExact repair w merged ↔
    ∀ path,Uncovered repair path → ¬Visible w merged path ∧ ¬Tolerated w merged path := by
  constructor
  · intro hexact path hpath
    have hsame : ¬w.index.at path ≠ merged.at path := by
      intro hdiffers
      rcases hexact path hdiffers with hconflict | ⟨grant,hmember,rfl,_⟩
      · exact hpath.1 hconflict
      · exact hpath.2 (List.mem_map_of_mem hmember)
    exact ⟨fun hvisible => hsame hvisible.1,fun htolerated => hsame htolerated.differs⟩
  · intro hall path hdiffers
    by_cases hconflict : path ∈ repair.conflictingPaths
    · exact .inl hconflict
    · by_cases hgrant : path ∈ repair.semanticGrants.map (·.path)
      · obtain ⟨grant,hmember,rfl⟩ := List.mem_map.mp hgrant
        obtain ⟨happlied,htime,_,hstaged⟩ := hready.grants grant hmember
        exact .inr ⟨grant,hmember,rfl,happlied,htime,hstaged⟩
      · obtain ⟨hvisible,htolerated⟩ := hall path ⟨hconflict,hgrant⟩
        exact absurd ⟨hdiffers,htolerated⟩ hvisible

/-- The verification keeps the exact scope on these inputs, and on no others. -/
theorem verifyResolution_exact_iff
    (hbaseline : (w.prepared merged).gives stagedIndex = some (.ok repair.baselineIndex))
    (hauthorization : repair.agentEditAuthorization = none) :
    (Accepts repair w context actor ↔ ScopeExact repair w merged) ↔ Agrees repair w merged := by
  rw [accepts_iff hbaseline hauthorization]
  unfold Agrees
  by_cases hready : Ready repair w
  · have hsplit (first second : String → Prop) :
        (∀ path,Uncovered repair path → ¬first path ∧ ¬second path) ↔
          ¬(∃ path,Uncovered repair path ∧ first path) ∧ ¬∃ path,Uncovered repair path ∧ second path := by
      constructor
      · intro h
        exact ⟨fun ⟨path,hpath,hfirst⟩ => (h path hpath).1 hfirst,
          fun ⟨path,hpath,hsecond⟩ => (h path hpath).2 hsecond⟩
      · rintro ⟨hfirst,hsecond⟩ path hpath
        exact ⟨fun h => hfirst ⟨path,hpath,h⟩,fun h => hsecond ⟨path,hpath,h⟩⟩
    rw [scopeExact_iff hready,hsplit,hsplit]
    by_cases hvisible : ∃ path,Uncovered repair path ∧ Visible w merged path
    · simp only [hready,hvisible,not_true_eq_false,and_false,false_and,true_or,and_true,iff_self]
    · simp only [hready,hvisible,not_true_eq_false,not_false_eq_true,and_true,true_and,false_or,false_and,
        or_false]
      exact not_iff_not
  · have hscope : (∃ path,w.index.at path ≠ merged.at path ∧ ¬InScope repair w path) ↔
        ¬ScopeExact repair w merged := by
      unfold ScopeExact
      simp only [not_forall,exists_prop]
    rw [hscope]
    simp [hready]

end Verification

section Example

private def scopeRepository : RepositoryId := ⟨"octo","repo"⟩

/-- One reported conflict in a merge that also deletes a file. -/
private def scopeRepair : RepairSession where
  version := 1
  session := "repair-1"
  repository := scopeRepository
  pr := 7
  head := ⟨scopeRepository,"topic","head"⟩
  oldBase := ⟨scopeRepository,"main","base"⟩
  target := ⟨scopeRepository,"main","target"⟩
  workspace := "/repair"
  providerGitUrl := "https://provider/octo/repo"
  configFingerprint := "fnv1a64:0"
  state := .resolving
  phase := .resolving
  conflictingPaths := ["lib.rs"]

private def scopeWorkspace : StagedWorkspace where
  head := ⟨[("lib.rs",⟨"100644","ours"⟩),("old.rs",⟨"100644","old"⟩)],by decide⟩
  index := ⟨[("lib.rs",⟨"100644","resolved"⟩)],by decide⟩
  mergeHead := some "target"
  diffIsClean := true
  now := 0

private def scopeMerged : PathMap := ⟨[],by decide⟩

/-- The conflict is resolved and nothing else is touched, but the deletion has no object to compare. -/
theorem verifyResolution_not_exact :
    (scopeWorkspace.prepared scopeMerged).gives stagedIndex = some (.ok scopeRepair.baselineIndex) ∧
    scopeRepair.agentEditAuthorization = none ∧ ScopeExact scopeRepair scopeWorkspace scopeMerged ∧
    ∀ context actor,¬Accepts scopeRepair scopeWorkspace context actor := by
  have hbaseline : (scopeWorkspace.prepared scopeMerged).gives stagedIndex =
      some (.ok scopeRepair.baselineIndex) := by
    decide +kernel
  refine ⟨hbaseline,rfl,?_,?_⟩
  · intro path hdiffers
    by_cases hpath : path = "lib.rs"
    · exact .inl (by rw [hpath]; decide)
    · have hbeq : (path == "lib.rs") = false := by simpa using hpath
      refine absurd ?_ hdiffers
      show List.lookup path [("lib.rs",(⟨"100644","resolved"⟩ : IndexEntry))] = none
      rw [List.lookup_cons,hbeq]
      rfl
  · intro context actor haccepts
    have hpaths := ((accepts_iff hbaseline rfl).mp haccepts).2 "old.rs" ⟨by decide,by decide⟩
    exact hpaths.1 ⟨by decide,by decide,by decide⟩

private def scopeContext : RepairContext := ⟨⟨fun _ => "",fun _ => "",fun _ => ""⟩⟩

theorem verifyResolution_exact_iff_deletion :
    (Accepts scopeRepair scopeWorkspace scopeContext none ↔ ScopeExact scopeRepair scopeWorkspace scopeMerged) ↔
      Agrees scopeRepair scopeWorkspace scopeMerged :=
  verifyResolution_exact_iff (by decide +kernel) rfl

end Example

end Repair
end Cara
