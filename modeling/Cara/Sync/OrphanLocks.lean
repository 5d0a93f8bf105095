import Cara.Sync.NativeLandStale

/-! Orphaned branch locks over several checkouts of one repository: each pass judges the
provider's rulesets by the checkpoint files of its own checkout. -/
namespace Cara
namespace Sync

open Github (StackLandCheckpoint StackBranchLockGeneration RulesetResponse Command Response Wire)
open Prog (Gives Only Run Stops)

@[ext] structure Inventory where
  rulesets : List RulesetResponse
  distinct : (rulesets.map (·.id)).Nodup

def isLock (r : RulesetResponse) : Bool := Text.startsWith r.name Github.lockNamePrefix

namespace Inventory

def page (v : Inventory) : List RulesetResponse := v.rulesets.take Github.rulesetPageSize

def without (v : Inventory) (id : ℕ) : Inventory where
  rulesets := v.rulesets.filter fun r => decide (r.id ≠ id)
  distinct := v.distinct.sublist (List.filter_sublist.map _)

def NotFound : Response → Prop
  | .ok output => output.isSuccess = false ∧ Text.contains output.stderr "HTTP 404" = true
  | .error _ => False

def Failed : Response → Prop
  | .ok output => output.isSuccess = false ∧ Text.contains output.stderr "HTTP 404" = false
  | .error _ => True

inductive Step (w : Wire) : Inventory → Command → Response → Inventory → Prop
  | listed (v : Inventory) (repository : RepositoryId) {output : Github.CommandOutput} :
      output.isSuccess = true →
      w.rulesets output.stdout = .ok (v.page.map fun r => ⟨r.id,r.name⟩) →
      Step w v (.listRulesets repository) (.ok output) v
  | read (v : Inventory) (repository : RepositoryId) {r : RulesetResponse} {id : ℕ}
      {output : Github.CommandOutput} : r ∈ v.rulesets → r.id = id →
      output.isSuccess = true → w.ruleset output.stdout = .ok r →
      Step w v (.readRuleset repository id) (.ok output) v
  | absent (v : Inventory) (repository : RepositoryId) {id : ℕ} {response : Response} :
      (∀ r ∈ v.rulesets,r.id ≠ id) → NotFound response →
      Step w v (.readRuleset repository id) response v
  | deleted (v : Inventory) (repository : RepositoryId) (id : ℕ) {output : Github.CommandOutput} :
      output.isSuccess = true → Step w v (.deleteRuleset repository id) (.ok output) (v.without id)
  | gone (v : Inventory) (repository : RepositoryId) {id : ℕ} {response : Response} :
      (∀ r ∈ v.rulesets,r.id ≠ id) → NotFound response →
      Step w v (.deleteRuleset repository id) response v
  | failed (v : Inventory) (command : Command) {response : Response} :
      Failed response → Step w v command response v
  | lost (v : Inventory) (repository : RepositoryId) (id : ℕ) {response : Response} :
      Failed response → Step w v (.deleteRuleset repository id) response (v.without id)

variable {w : Wire} {v : Inventory} {repository : RepositoryId}

theorem mem_without {r : RulesetResponse} {id : ℕ} :
    r ∈ (v.without id).rulesets ↔ r ∈ v.rulesets ∧ r.id ≠ id := by
  unfold without
  rw [List.mem_filter,decide_eq_true_eq]

theorem without_absent {id : ℕ} (h : ∀ r ∈ v.rulesets,r.id ≠ id) : v.without id = v := by
  apply Inventory.ext
  apply List.filter_eq_self.mpr
  intro r hr
  exact decide_eq_true (h r hr)

theorem eq_of_id {r r' : RulesetResponse} (hr : r ∈ v.rulesets) (hr' : r' ∈ v.rulesets)
    (h : r.id = r'.id) : r = r' := List.inj_on_of_nodup_map v.distinct hr hr' h

theorem readStackBranchLock_present {r : RulesetResponse} (hr : r ∈ v.rulesets) :
    Gives (Step w) (fun _ _ => True) (Github.readStackBranchLock w repository r.id)
      (fun v' lock => v' = v ∧ ∃ l,lock = some l ∧ l.id = r.id ∧ l.name = r.name)
      (fun v' _ => v' = v) v := by
  apply Gives.bind (K := fun v' response => v' = v ∧ (Failed response ∨
    ∃ output,response = .ok output ∧ output.isSuccess = true ∧ w.ruleset output.stdout = .ok r))
  · refine ⟨?_⟩
    rw [Prog.holds_send]
    refine ⟨trivial,?_⟩
    intro response v' hstep
    cases hstep with
    | read _ hmem hid hsuccess hdecode =>
      rw [eq_of_id hmem hr hid] at hdecode
      exact ⟨rfl,.inr ⟨_,rfl,hsuccess,hdecode⟩⟩
    | absent _ hnone _ => exact absurd rfl (hnone r hr)
    | failed _ hfailed => exact ⟨rfl,.inl hfailed⟩
  intro v' response h
  obtain ⟨hsame,hfailed | ⟨output,houtput,hsuccess,hdecode⟩⟩ := h
  · cases response with
    | error error => exact Gives.throw hsame
    | ok output =>
      dsimp only
      rw [hfailed.1,hfailed.2]
      exact Gives.throw hsame
  · rw [houtput]
    dsimp only
    rw [if_pos hsuccess,hdecode]
    dsimp only
    apply Gives.bind (K := fun v' (l : StackBranchLockGeneration) => v' = v ∧ l.id = r.id ∧ l.name = r.name)
    · apply Gives.ofResult
      · intro l hl
        unfold Github.observedLock at hl
        split at hl
        · cases hl
        · split at hl
          · cases hl
          · cases hl
            exact ⟨hsame,rfl,rfl⟩
      · exact fun _ _ => hsame
    · exact fun v' l hl => Gives.pure ⟨hl.1,l,rfl,hl.2⟩

theorem readStackBranchLocks_present {rows : List RulesetResponse} (hrows : ∀ r ∈ rows,r ∈ v.rulesets) :
    Gives (Step w) (fun _ _ => True) (Prog.forEach (rows.map fun r => (⟨r.id,r.name⟩ : Github.RulesetSummary))
        fun summary => Github.readStackBranchLock w repository summary.id)
      (fun v' locks => v' = v ∧ (locks.filterMap id).map (fun l => (l.id,l.name)) =
        rows.map fun r => (r.id,r.name))
      (fun v' _ => v' = v) v := by
  induction rows with
  | nil => exact Gives.pure ⟨rfl,rfl⟩
  | cons r rows ih =>
    apply Gives.bind (readStackBranchLock_present (hrows r List.mem_cons_self))
    intro v' lock h
    obtain ⟨hsame,l,hlock,hid,hname⟩ := h
    rw [hsame]
    apply Gives.bind (ih fun r hr => hrows r (List.mem_cons_of_mem _ hr))
    intro v'' locks h
    refine Gives.pure ⟨h.1,?_⟩
    rw [hlock]
    show (l.id,l.name)::((locks.filterMap id).map fun l => (l.id,l.name)) = _
    rw [h.2,hid,hname]
    rfl

theorem listActiveStackBranchLocks_page :
    Gives (Step w) (fun _ _ => True) (Github.listActiveStackBranchLocks w repository)
      (fun v' locks => v' = v ∧ locks.map (fun l => (l.id,l.name)) =
        (v.page.filter isLock).map fun r => (r.id,r.name))
      (fun v' _ => v' = v) v := by
  apply Gives.bind (K := fun v' (summaries : List Github.RulesetSummary) => v' = v ∧
    summaries = v.page.map fun r => ⟨r.id,r.name⟩)
  · refine ⟨?_⟩
    unfold Github.json Github.checked
    rw [Prog.holds_mapError,Prog.holds_bind,Prog.holds_bind,Prog.holds_send]
    refine ⟨trivial,?_⟩
    intro response v' hstep
    cases hstep with
    | listed _ hsuccess hdecode =>
      dsimp only
      rw [if_pos hsuccess,Prog.holds_pure]
      dsimp only
      rw [hdecode]
      exact ⟨rfl,rfl⟩
    | failed _ hfailed =>
      cases response with
      | error error => exact rfl
      | ok output =>
        dsimp only
        rw [hfailed.1]
        exact rfl
  intro v' summaries h
  obtain ⟨hsame,hsummaries⟩ := h
  have hfilter : (summaries.filter fun summary => Text.startsWith summary.name Github.lockNamePrefix) =
      (v.page.filter isLock).map fun r => ⟨r.id,r.name⟩ := by
    rw [hsummaries,List.filter_map]
    rfl
  rw [hsame,hfilter]
  apply Gives.bind (readStackBranchLocks_present ?_)
  · exact fun v'' locks h => Gives.pure h
  · intro r hr
    exact List.mem_of_mem_take (List.mem_filter.mp hr).1

theorem deleteStackBranchLock_removes (lock : StackBranchLockGeneration) :
    Gives (Step w) (fun _ _ => True) (Github.deleteStackBranchLock repository lock)
      (fun v' _ => v' = v.without lock.id)
      (fun v' _ => v' = v ∨ v' = v.without lock.id) v := by
  refine ⟨?_⟩
  unfold Github.deleteStackBranchLock
  rw [Prog.holds_bind,Prog.holds_send]
  refine ⟨trivial,?_⟩
  intro response v' hstep
  have hcases : (∃ output,response = .ok output ∧ (output.isSuccess = true ∨
      Text.contains output.stderr "HTTP 404" = true) ∧ v' = v.without lock.id) ∨
      (Failed response ∧ (v' = v ∨ v' = v.without lock.id)) := by
    cases hstep with
    | deleted _ _ hsuccess => exact .inl ⟨_,rfl,.inl hsuccess,rfl⟩
    | gone _ hnone hfound =>
      cases response with
      | error error => exact hfound.elim
      | ok output => exact .inl ⟨output,rfl,.inr hfound.2,(without_absent hnone).symm⟩
    | failed _ hfailed => exact .inr ⟨hfailed,.inl rfl⟩
    | lost _ _ hfailed => exact .inr ⟨hfailed,.inr rfl⟩
  obtain ⟨output,houtput,hanswered,hremoved⟩ | ⟨hfailed,hkept⟩ := hcases
  · rw [houtput]
    dsimp only
    rw [if_pos hanswered]
    exact hremoved
  · cases response with
    | error error => exact hkept
    | ok output =>
      dsimp only
      rw [if_neg (by simp [hfailed.1,hfailed.2])]
      exact hkept

end Inventory

structure Fleet (K : Type) where
  files : K → Files
  inventory : Inventory

namespace Fleet

variable {K : Type}

/-- The lock that a durable landing checkpoint of the checkout still owns. -/
def Holds (F : Fleet K) (k : K) (lock : StackBranchLockGeneration) : Prop :=
  ∃ key c,Text.startsWith key "land-" = true ∧ F.files k key = some c ∧ c.outstandingLock = some lock

def Owned (F : Fleet K) (r : RulesetResponse) : Prop := ∃ k lock,F.Holds k lock ∧ lock.id = r.id

def Live (F : Fleet K) (k : K) (name : String) : Prop := ∃ lock,F.Holds k lock ∧ lock.name = name

def Orphan (F : Fleet K) (k : K) (r : RulesetResponse) : Prop :=
  r ∈ F.inventory.page ∧ isLock r = true ∧ ¬ F.Live k r.name

inductive Step (w : Wire) (k : K) (F : Fleet K) : SyncRequest → SyncAnswer → Fleet K → Prop
  | listed {repository : RepositoryId} {locks : List StackBranchLockGeneration} {v : Inventory} :
      Run (Inventory.Step w) (Github.listActiveStackBranchLocks w repository).run F.inventory
        (some (.ok locks)) v →
      Step w k F (.listActiveStackBranchLocks repository) (.locks locks) ⟨F.files,v⟩
  | unlisted {repository : RepositoryId} {answer : SyncAnswer} {e : Github.StackBranchLockError}
      {v : Inventory} : Refusal answer →
      Run (Inventory.Step w) (Github.listActiveStackBranchLocks w repository).run F.inventory
        (some (.error e)) v →
      Step w k F (.listActiveStackBranchLocks repository) answer ⟨F.files,v⟩
  | deleted {repository : RepositoryId} {lock : StackBranchLockGeneration} {v : Inventory} :
      Run (Inventory.Step w) (Github.deleteStackBranchLock repository lock).run F.inventory
        (some (.ok ())) v →
      Step w k F (.deleteStackBranchLock repository lock) .done ⟨F.files,v⟩
  | undeleted {repository : RepositoryId} {lock : StackBranchLockGeneration} {answer : SyncAnswer}
      {e : Github.StackBranchLockError} {v : Inventory} : Refusal answer →
      Run (Inventory.Step w) (Github.deleteStackBranchLock repository lock).run F.inventory
        (some (.error e)) v →
      Step w k F (.deleteStackBranchLock repository lock) answer ⟨F.files,v⟩
  | loaded {key : String} {answer : SyncAnswer} :
      Refusal answer ∨ Truthful w (F.files k) (.load key) answer → Step w k F (.load key) answer F
  | keys {answer : SyncAnswer} :
      Refusal answer ∨ Truthful w (F.files k) .listKeys answer → Step w k F .listKeys answer F

inductive Write [DecidableEq K] (F : Fleet K) : Fleet K → Prop
  | file (k : K) (key : String) (c : Option StackLandCheckpoint) :
      Write F ⟨Function.update F.files k (Function.update (F.files k) key c),F.inventory⟩
  | provider (v : Inventory) : Write F ⟨F.files,v⟩

end Fleet

structure OrphanPass (K : Type) where
  checkout : K
  before : Fleet K
  completed : Bool
  after : Fleet K

namespace OrphanPass

variable {K : Type}

inductive Happens (w : Wire) : OrphanPass K → Prop
  | completed {F G : Fleet K} {k : K} {changed : Bool} (status : StatusOutput) :
      Run (Fleet.Step w k) (cleanUpOrphanLocks status).run F (some (.ok changed)) G →
      Happens w ⟨k,F,true,G⟩
  | stopped {F G : Fleet K} {k : K} (status : StatusOutput) :
      Stops (Fleet.Step w k) (cleanUpOrphanLocks status).run F G → Happens w ⟨k,F,false,G⟩

/-- No deleted lock was owned, and after a completed pass every active one is. -/
structure Exact (p : OrphanPass K) : Prop where
  spared : ∀ r ∈ p.before.inventory.rulesets,isLock r = true → r ∉ p.after.inventory.rulesets →
    ¬ p.before.Owned r
  swept : p.completed = true → ∀ r ∈ p.after.inventory.rulesets,isLock r = true →
    r.enforcement = "active" → p.after.Owned r

/-- Listed locks that are owned at all are owned under their name by this checkout, and an
active one that nobody owns is listed under a name this checkout does not own. -/
structure Plain (p : OrphanPass K) : Prop where
  own : ∀ r ∈ p.before.inventory.page,isLock r = true → p.before.Owned r →
    p.before.Live p.checkout r.name
  visible : ∀ r ∈ p.before.inventory.rulesets,isLock r = true → r.enforcement = "active" →
    ¬ p.before.Owned r → r ∈ p.before.inventory.page ∧ ¬ p.before.Live p.checkout r.name

end OrphanPass

/-- Passes of any checkouts, each a part of its process's tick, with any other writes between. -/
inductive OrphanRun {K : Type} [DecidableEq K] (w : Wire) :
    Fleet K → List (OrphanPass K) → Fleet K → Prop
  | start (F : Fleet K) : OrphanRun w F [] F
  | write {F G G' : Fleet K} {ps : List (OrphanPass K)} : OrphanRun w F ps G → G.Write G' →
      OrphanRun w F ps G'
  | pass {F : Fleet K} {ps : List (OrphanPass K)} (p : OrphanPass K) : OrphanRun w F ps p.before →
      p.Happens w → OrphanRun w F (ps ++ [p]) p.after

section Pass

variable {K : Type} {w : Wire} {k : K} {F : Fleet K} {status : StatusOutput}

/-- A deletion is of a ruleset that was an orphan at the start. -/
def Sweeps (F : Fleet K) (k : K) (_ : Fleet K) : SyncRequest → Prop
  | .deleteStackBranchLock _ lock => ∃ r,F.Orphan k r ∧ r.id = lock.id
  | _ => True

structure Swept (F : Fleet K) (k : K) (G : Fleet K) : Prop where
  files : G.files = F.files
  kept : ∀ r ∈ G.inventory.rulesets,r ∈ F.inventory.rulesets
  gone : ∀ r ∈ F.inventory.rulesets,r ∉ G.inventory.rulesets → F.Orphan k r

theorem Fleet.Orphan.listed {r : RulesetResponse} (h : F.Orphan k r) : r ∈ F.inventory.rulesets :=
  List.mem_of_mem_take h.1

theorem Fleet.Step.swept {G G' : Fleet K} {request : SyncRequest} {answer : SyncAnswer}
    (hok : Sweeps F k G request) (hstep : Fleet.Step w k G request answer G') (h : Swept F k G) :
    Swept F k G' := by
  have hlist : ∀ {repository : RepositoryId} {r : Except Github.StackBranchLockError _} {v : Inventory},
      Run (Inventory.Step w) (Github.listActiveStackBranchLocks w repository).run G.inventory
        (some r) v → v = G.inventory := by
    intro repository r v hrun
    cases r with
    | ok locks => exact (Inventory.listActiveStackBranchLocks_page.run hrun).1
    | error e => exact Inventory.listActiveStackBranchLocks_page.run_error hrun
  have hdelete : ∀ {repository : RepositoryId} {lock : StackBranchLockGeneration}
      {r : Except Github.StackBranchLockError Unit} {v : Inventory},
      Run (Inventory.Step w) (Github.deleteStackBranchLock repository lock).run G.inventory
        (some r) v → v = G.inventory ∨ v = G.inventory.without lock.id := by
    intro repository lock r v hrun
    cases r with
    | ok _ => exact .inr ((Inventory.deleteStackBranchLock_removes lock).run hrun)
    | error e => exact (Inventory.deleteStackBranchLock_removes lock).run_error hrun
  have hswept : ∀ {lock : StackBranchLockGeneration} {v : Inventory},
      (∃ r,F.Orphan k r ∧ r.id = lock.id) → v = G.inventory ∨ v = G.inventory.without lock.id →
      Swept F k ⟨G.files,v⟩ := by
    intro lock v horphan hv
    obtain ⟨o,ho,hid⟩ := horphan
    obtain hv | hv := hv
    · rw [hv]
      exact ⟨h.files,h.kept,h.gone⟩
    · rw [hv]
      refine ⟨h.files,fun r hr => h.kept r (Inventory.mem_without.mp hr).1,?_⟩
      intro r hr hgone
      by_cases hmem : r ∈ G.inventory.rulesets
      · have hsame : r.id = lock.id := by
          by_contra hne
          exact hgone (Inventory.mem_without.mpr ⟨hmem,hne⟩)
        rw [Inventory.eq_of_id hr ho.listed (hsame.trans hid.symm)]
        exact ho
      · exact h.gone r hr hmem
  cases hstep with
  | listed hrun =>
    rw [hlist hrun]
    exact ⟨h.files,h.kept,h.gone⟩
  | unlisted _ hrun =>
    rw [hlist hrun]
    exact ⟨h.files,h.kept,h.gone⟩
  | deleted hrun => exact hswept hok (hdelete hrun)
  | undeleted _ hrun => exact hswept hok (hdelete hrun)
  | loaded _ => exact h
  | keys _ => exact h

theorem call_decoded {α : Type} {onError : MutationError → SyncError} {value : SyncAnswer → Option α}
    {answer : SyncAnswer} {r : α} (h : (match answer with
      | .failed error => some (.error (onError error))
      | .refused error => some (.error error)
      | answer => (value answer).map Except.ok : Option (Except SyncError α)) = some (.ok r)) :
    value answer = some r ∧ ¬ Refusal answer := by
  cases answer <;> simp_all [Refusal]

theorem liveLockNames_names {ok : Fleet K → SyncRequest → Prop} (hok : ∀ G key,ok G (.load key))
    (keys : List String) :
    Gives (Fleet.Step w k) ok (liveLockNames keys) (fun G names => G = F ∧ ∀ name,name ∈ names ↔
      ∃ key ∈ keys,∃ c lock,F.files k key = some c ∧ c.outstandingLock = some lock ∧ lock.name = name)
      (fun _ _ => True) F := by
  induction keys with
  | nil => exact Gives.pure ⟨rfl,by simp⟩
  | cons key keys ih =>
    apply Gives.bind (K := fun G stored => G = F ∧ stored = F.files k key)
    · apply Gives.query (hok F key)
      · intro a G r hstep hdecode
        obtain ⟨hvalue,haccepted⟩ := call_decoded hdecode
        cases hstep with
        | loaded hanswer =>
          have htruth : a = .stored (F.files k key) := hanswer.resolve_left haccepted
          rw [htruth] at hvalue
          cases hvalue
          exact ⟨rfl,rfl⟩
      · exact fun _ _ _ _ _ => trivial
    intro G stored h
    rw [h.1,h.2]
    apply Gives.bind ih
    intro G names h
    refine Gives.pure ⟨h.1,?_⟩
    intro name
    rw [List.mem_append,h.2 name]
    constructor
    · intro hmem
      obtain hmem | ⟨key',hkey',hrest⟩ := hmem
      · obtain ⟨lock,hlock,hname⟩ := List.mem_map.mp hmem
        obtain ⟨c,hc,hout⟩ := Option.bind_eq_some_iff.mp (Option.mem_toList.mp hlock)
        exact ⟨key,List.mem_cons_self,c,lock,hc,hout,hname⟩
      · exact ⟨key',List.mem_cons_of_mem _ hkey',hrest⟩
    · intro howned
      obtain ⟨key',hkey',c,lock,hc,hout,hname⟩ := howned
      obtain hkey' | hkey' := List.mem_cons.mp hkey'
      · rw [hkey'] at hc
        refine .inl (List.mem_map.mpr ⟨lock,?_,hname⟩)
        rw [hc]
        exact Option.mem_toList.mpr hout
      · exact .inr ⟨key',hkey',c,lock,hc,hout,hname⟩

/-- The listed locks without a live name are deleted, and nothing else. -/
theorem deleteOrphans_removes {ok : Fleet K → SyncRequest → Prop} {live : List String}
    (locks : List StackBranchLockGeneration)
    (hok : ∀ lock ∈ locks,lock.name ∉ live → ∀ G,ok G (.deleteStackBranchLock status.repository lock)) :
    Gives (Fleet.Step w k) ok (deleteOrphans status live locks) (fun G _ => G.files = F.files ∧
      ∀ r,r ∈ G.inventory.rulesets ↔ r ∈ F.inventory.rulesets ∧
        ∀ lock ∈ locks,lock.name ∉ live → r.id ≠ lock.id) (fun _ _ => True) F := by
  induction locks generalizing F with
  | nil => exact Gives.pure ⟨rfl,by simp⟩
  | cons lock locks ih =>
    have hrest : ∀ lock ∈ locks,lock.name ∉ live →
        ∀ G,ok G (.deleteStackBranchLock status.repository lock) :=
      fun lock hlock => hok lock (List.mem_cons_of_mem _ hlock)
    unfold deleteOrphans
    split
    case isTrue hlive =>
      apply (ih hrest).mono
      · intro G _ h
        refine ⟨h.1,fun r => ?_⟩
        rw [h.2 r,List.forall_mem_cons]
        simp [hlive]
      · exact fun _ _ h => h
    case isFalse hlive =>
      apply Gives.bind (K := fun G _ => G.files = F.files ∧
        G.inventory = F.inventory.without lock.id)
      · apply Gives.query (hok lock List.mem_cons_self hlive F)
        · intro a G r hstep hdecode
          obtain ⟨_,haccepted⟩ := call_decoded hdecode
          cases hstep with
          | deleted hrun => exact ⟨rfl,(Inventory.deleteStackBranchLock_removes lock).run hrun⟩
          | undeleted hrefused _ => exact absurd hrefused haccepted
        · exact fun _ _ _ _ _ => trivial
      intro G _ h
      apply Gives.bind (ih hrest)
      intro G' _ h'
      refine Gives.pure ⟨h'.1.trans h.1,fun r => ?_⟩
      rw [h'.2 r,h.2,Inventory.mem_without,List.forall_mem_cons,and_assoc]
      simp [hlive]

/-- A completed pass leaves exactly the rulesets that were no orphans. -/
theorem cleanUpOrphanLocks_sweeps :
    Gives (Fleet.Step w k) (Sweeps F k) (cleanUpOrphanLocks status) (fun G _ => G.files = F.files ∧
      ∀ r,r ∈ G.inventory.rulesets ↔ r ∈ F.inventory.rulesets ∧ ¬ F.Orphan k r)
      (fun _ _ => True) F := by
  apply Gives.bind (K := fun G locks => G = F ∧ locks.map (fun l => (l.id,l.name)) =
    (F.inventory.page.filter isLock).map fun r => (r.id,r.name))
  · apply Gives.query trivial
    · intro a G r hstep hdecode
      obtain ⟨hvalue,haccepted⟩ := call_decoded hdecode
      cases hstep with
      | listed hrun =>
        obtain ⟨hsame,hlocks⟩ := Inventory.listActiveStackBranchLocks_page.run hrun
        cases hvalue
        rw [hsame]
        exact ⟨rfl,hlocks⟩
      | unlisted hrefused _ => exact absurd hrefused haccepted
    · exact fun _ _ _ _ _ => trivial
  intro G locks h
  obtain ⟨hsame,hlocks⟩ := h
  rw [hsame]
  apply Gives.bind (K := fun G keys => G = F ∧
    ∀ key,key ∈ keys ↔ Text.startsWith key "land-" = true ∧ (F.files k key).isSome = true)
  · apply Gives.query trivial
    · intro a G r hstep hdecode
      obtain ⟨hvalue,haccepted⟩ := call_decoded hdecode
      cases hstep with
      | keys hanswer =>
        obtain ⟨keys,htruth,hkeys⟩ := hanswer.resolve_left haccepted
        rw [htruth] at hvalue
        cases hvalue
        exact ⟨rfl,hkeys⟩
    · exact fun _ _ _ _ _ => trivial
  intro G keys h
  obtain ⟨hsame,hkeys⟩ := h
  rw [hsame]
  apply Gives.bind (liveLockNames_names (fun _ _ => trivial) keys)
  intro G live h
  obtain ⟨hsame,hnames⟩ := h
  rw [hsame]
  have hlive : ∀ name,name ∈ live ↔ F.Live k name := by
    intro name
    rw [hnames name]
    constructor
    · intro h
      obtain ⟨key,hkey,c,lock,hc,hout,hname⟩ := h
      exact ⟨lock,⟨key,c,((hkeys key).mp hkey).1,hc,hout⟩,hname⟩
    · intro h
      obtain ⟨lock,⟨key,c,hkey,hc,hout⟩,hname⟩ := h
      exact ⟨key,(hkeys key).mpr ⟨hkey,by rw [hc]; rfl⟩,c,lock,hc,hout,hname⟩
  have hlisted : ∀ (id : ℕ) (name : String),(∃ lock ∈ locks,lock.id = id ∧ lock.name = name) ↔
      ∃ r ∈ F.inventory.page,isLock r = true ∧ r.id = id ∧ r.name = name := by
    intro id name
    have hmem : (id,name) ∈ locks.map (fun l => (l.id,l.name)) ↔
        (id,name) ∈ (F.inventory.page.filter isLock).map fun r => (r.id,r.name) := by rw [hlocks]
    simp only [List.mem_map,List.mem_filter,Prod.mk.injEq,and_assoc] at hmem
    exact hmem
  apply (deleteOrphans_removes locks ?_).mono
  · intro G _ h
    refine ⟨h.1,fun r => ?_⟩
    rw [h.2 r]
    apply and_congr_right
    intro hr
    constructor
    · intro hspared horphan
      obtain ⟨lock,hlock,hid,hname⟩ := (hlisted r.id r.name).mpr ⟨r,horphan.1,horphan.2.1,rfl,rfl⟩
      exact hspared lock hlock (fun hmem => horphan.2.2 ((hlive _).mp (hname ▸ hmem))) hid.symm
    · intro horphan lock hlock hdead hid
      obtain ⟨r',hpage,hisLock,hid',hname'⟩ := (hlisted lock.id lock.name).mp ⟨lock,hlock,rfl,rfl⟩
      have hsame : r' = r :=
        Inventory.eq_of_id (List.mem_of_mem_take hpage) hr (hid'.trans hid.symm)
      rw [hsame] at hpage hisLock hname'
      exact horphan ⟨hpage,hisLock,fun hlives => hdead ((hlive _).mpr (hname' ▸ hlives))⟩
  · exact fun _ _ _ => trivial
  · intro lock hlock hdead G
    obtain ⟨r,hpage,hisLock,hid,hname⟩ := (hlisted lock.id lock.name).mp ⟨lock,hlock,rfl,rfl⟩
    exact ⟨r,⟨hpage,hisLock,fun hlives => hdead ((hlive _).mpr (hname ▸ hlives))⟩,hid⟩

end Pass

namespace OrphanPass

variable {K : Type} {w : Wire} {p : OrphanPass K}

theorem Happens.swept (h : p.Happens w) : Swept p.before p.checkout p.after := by
  have hstart (F : Fleet K) (k : K) : Swept F k F :=
    ⟨rfl,fun r hr => hr,fun r hr hgone => absurd hr hgone⟩
  cases h with
  | @completed F G k changed status hrun =>
    obtain ⟨hfiles,hrulesets⟩ := cleanUpOrphanLocks_sweeps.run hrun
    refine ⟨hfiles,fun r hr => ((hrulesets r).mp hr).1,?_⟩
    intro r hr hgone
    by_contra horphan
    exact hgone ((hrulesets r).mpr ⟨hr,horphan⟩)
  | @stopped F G k status hstop =>
    exact cleanUpOrphanLocks_sweeps.stops (I := Swept F k)
      (fun s q a s' hok hstep hs => Fleet.Step.swept hok hstep hs) (hstart F k) hstop

theorem Happens.left (h : p.Happens w) (hcompleted : p.completed = true) (r : RulesetResponse) :
    r ∈ p.after.inventory.rulesets ↔ r ∈ p.before.inventory.rulesets ∧ ¬ p.before.Orphan p.checkout r := by
  cases h with
  | completed status hrun => exact (cleanUpOrphanLocks_sweeps.run hrun).2 r
  | stopped _ _ => cases hcompleted

theorem owned_of_files {F G : Fleet K} (h : G.files = F.files) (r : RulesetResponse) :
    G.Owned r ↔ F.Owned r := by
  unfold Fleet.Owned Fleet.Holds
  rw [h]

theorem Plain.exact (h : p.Plain) (hp : p.Happens w) : p.Exact where
  spared r hr _ hgone howned :=
    (hp.swept.gone r hr hgone).2.2 (h.own r (hp.swept.gone r hr hgone).1 ‹_› howned)
  swept hcompleted r hr hlock hactive := by
    obtain ⟨hbefore,hkept⟩ := (hp.left hcompleted r).mp hr
    rw [owned_of_files hp.swept.files]
    by_contra hlost
    obtain ⟨hpage,hdead⟩ := h.visible r hbefore hlock hactive hlost
    exact hkept ⟨hpage,hlock,hdead⟩

theorem Exact.plain (h : p.Exact) (hp : p.Happens w) (hcompleted : p.completed = true) : p.Plain where
  own r hpage hlock howned := by
    have hr : r ∈ p.before.inventory.rulesets := List.mem_of_mem_take hpage
    by_contra hdead
    have hgone : r ∉ p.after.inventory.rulesets :=
      fun hmem => ((hp.left hcompleted r).mp hmem).2 ⟨hpage,hlock,hdead⟩
    exact h.spared r hr hlock hgone howned
  visible r hr hlock hactive hlost := by
    have hgone : r ∉ p.after.inventory.rulesets := by
      intro hmem
      have howned := h.swept hcompleted r hmem hlock hactive
      rw [owned_of_files hp.swept.files] at howned
      exact hlost howned
    have horphan := hp.swept.gone r hr hgone
    exact ⟨horphan.1,horphan.2.2⟩

end OrphanPass

theorem OrphanRun.happens {K : Type} [DecidableEq K] {w : Wire} {F G : Fleet K}
    {ps : List (OrphanPass K)} (h : OrphanRun w F ps G) : ∀ p ∈ ps,p.Happens w := by
  induction h with
  | start => exact fun p hp => by cases hp
  | write _ _ ih => exact ih
  | pass p _ hp ih =>
    intro p' hp'
    obtain hp' | hp' := List.mem_append.mp hp'
    · exact ih p' hp'
    · rw [List.mem_singleton.mp hp']
      exact hp

/-- In every run the passes over plain fleets are exact, and a completed pass over any other
fleet is not. -/
theorem orphanPasses_exact {K : Type} [DecidableEq K] {w : Wire} {F G : Fleet K}
    {ps : List (OrphanPass K)} (h : OrphanRun w F ps G) :
    (∀ p ∈ ps,p.Plain → p.Exact) ∧ ∀ p ∈ ps,p.completed = true → p.Exact → p.Plain :=
  ⟨fun p hp hplain => hplain.exact (h.happens p hp),
    fun p hp hcompleted hexact => hexact.plain (h.happens p hp) hcompleted⟩

section Example

def heldLock : StackBranchLockGeneration :=
  { Github.singleLock "cara-stack-merge-lock-fnv1a64:07" with selectedPullRequests := [] }

def heldRuleset : RulesetResponse := Github.singleRuleset heldLock.name

def heldWire : Wire := Github.Documents.wire {
  rulesetLists := [("held",[⟨7,heldLock.name⟩])]
  rulesets := [("ruleset 7",heldRuleset)] }

def heldLanding : StackLandCheckpoint := { lockedLanding with branchLock := some heldLock }

/-- The first checkout holds the lock of its landing, the second one has no checkpoints. -/
def twoCheckouts : Fleet Bool where
  files second := Dir.files (if second then [] else [("land-3",heldLanding)])
  inventory := ⟨[heldRuleset],by simp⟩

def listedCommand (text : String) : Response := .ok ⟨some 0,text,""⟩

theorem twoCheckouts_lists : Run (Inventory.Step heldWire)
    (Github.listActiveStackBranchLocks heldWire ⟨"octo","repo"⟩).run twoCheckouts.inventory
    (some (.ok [heldLock])) twoCheckouts.inventory := by
  have hreplay : (Github.listActiveStackBranchLocks heldWire ⟨"octo","repo"⟩).run.replay
      [listedCommand "held",listedCommand "ruleset 7"] = some (some (.ok [heldLock]),
        [(.listRulesets ⟨"octo","repo"⟩,listedCommand "held"),
          (.readRuleset ⟨"octo","repo"⟩ 7,listedCommand "ruleset 7")]) := by
    decide +kernel
  apply Prog.run_of_steps hreplay
  apply Prog.Steps.cons (.listed _ _ rfl (by decide))
  apply Prog.Steps.cons (.read (r := heldRuleset) _ _ (by decide) rfl rfl (by decide))
  exact .nil _

theorem twoCheckouts_deletes : Run (Inventory.Step heldWire)
    (Github.deleteStackBranchLock ⟨"octo","repo"⟩ heldLock).run twoCheckouts.inventory
    (some (.ok ())) (twoCheckouts.inventory.without 7) := by
  have hreplay : (Github.deleteStackBranchLock ⟨"octo","repo"⟩ heldLock).run.replay
      [listedCommand ""] = some (some (.ok ()),
        [(.deleteRuleset ⟨"octo","repo"⟩ 7,listedCommand "")]) := by
    decide
  apply Prog.run_of_steps hreplay
  exact .cons (.deleted _ _ _ rfl) (.nil _)

def foreignPass : OrphanPass Bool where
  checkout := true
  before := twoCheckouts
  completed := true
  after := { twoCheckouts with inventory := twoCheckouts.inventory.without 7 }

set_option synthInstance.maxSize 256 in
theorem foreignPass_happens : foreignPass.Happens heldWire := by
  have hreplay : (cleanUpOrphanLocks pushedStatus).run.replay [.locks [heldLock],.keys [],.done] =
      some (some (.ok true),[(.listActiveStackBranchLocks ⟨"octo","repo"⟩,.locks [heldLock]),
        (.listKeys,.keys []),(.deleteStackBranchLock ⟨"octo","repo"⟩ heldLock,.done)]) := by
    decide
  have hrun : Run (Fleet.Step heldWire true) (cleanUpOrphanLocks pushedStatus).run twoCheckouts
      (some (.ok true)) foreignPass.after := by
    apply Prog.run_of_steps hreplay
    apply Prog.Steps.cons (.listed twoCheckouts_lists)
    apply Prog.Steps.cons (.keys (.inr ⟨[],rfl,by simp [twoCheckouts,Dir.files]⟩))
    exact .cons (.deleted twoCheckouts_deletes) (.nil _)
  exact .completed pushedStatus hrun

theorem foreignPass_run : OrphanRun heldWire twoCheckouts [foreignPass] foreignPass.after :=
  .pass foreignPass (.start _) foreignPass_happens

theorem heldRuleset_owned : twoCheckouts.Owned heldRuleset :=
  ⟨false,heldLock,⟨"land-3",heldLanding,by decide,rfl,rfl⟩,rfl⟩

theorem foreignPass_unsound : ¬ foreignPass.Exact := by
  intro h
  have hgone : heldRuleset ∉ foreignPass.after.inventory.rulesets :=
    fun hmem => (Inventory.mem_without.mp hmem).2 rfl
  exact h.spared heldRuleset List.mem_cons_self (by decide) hgone heldRuleset_owned

/-- A checkout deletes the lock that another one holds for a landing in progress. -/
theorem foreignPass_not_exact : OrphanRun heldWire twoCheckouts [foreignPass] foreignPass.after ∧
    ¬ foreignPass.Exact := ⟨foreignPass_run,foreignPass_unsound⟩

theorem orphanPasses_exact_foreign : ¬ foreignPass.Plain := fun hplain =>
  foreignPass_unsound ((orphanPasses_exact foreignPass_run).1 foreignPass List.mem_cons_self hplain)

end Example

end Sync
end Cara
