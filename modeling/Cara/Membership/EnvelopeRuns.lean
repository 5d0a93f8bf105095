import Cara.Membership.Execute
import Mathlib.Logic.Function.Basic

/-! What the envelope leaves at the provider. Every edit is applied or not and its answer may be
lost; a rollback that succeeds takes back what was recorded, and nothing else. -/
namespace Cara
namespace Membership

open Check (CheckOutput)
open Prog
open Sync (GitHubMutationReceipt MutationError)

section World

inductive AutoMergeSetting where
  | off
  | squash
  | other
deriving DecidableEq

namespace AutoMergeSetting

def enabled : AutoMergeSetting → Bool
  | off => false
  | squash | other => true

def method : AutoMergeSetting → Option MergeMethod
  | squash => some .squash
  | off | other => none

/-- What the only request that this program can make restores of a setting. -/
def settle : AutoMergeSetting → AutoMergeSetting
  | off => off
  | squash | other => squash

theorem settle_eq_iff (x : AutoMergeSetting) : x.settle = x ↔ x ≠ other := by
  cases x <;> simp [settle]

theorem eq_of_shown {x y : AutoMergeSetting} (henabled : x.enabled = y.enabled)
    (hmethod : x.method = y.method) : x = y := by
  cases x <;> cases y <;> simp [enabled,method] at henabled hmethod ⊢

end AutoMergeSetting

structure Controls where
  base : String
  labels : Finset String
  autoMerge : AutoMergeSetting
deriving DecidableEq

def PullEdit.apply (c : Controls) : PullEdit → Controls
  | base name => { c with base := name }
  | addLabel label => { c with labels := insert label c.labels }
  | removeLabel label => { c with labels := c.labels.erase label }
  | squashAutoMerge => { c with autoMerge := .squash }
  | disableAutoMerge => { c with autoMerge := .off }

def PullEdit.isAutoMerge : PullEdit → Bool
  | squashAutoMerge | disableAutoMerge => true
  | _ => false

/-- The provider, the edits that it applied during the call and whether a pull request was read
since the first of them. -/
structure World where
  pulls : PrNumber → Controls
  created : List PrNumber := []
  applied : List PullEdit := []
  readBack : Bool := false

namespace World

variable (w : World)

def edit (n : PrNumber) (e : PullEdit) : World :=
  { w with pulls := Function.update w.pulls n (e.apply (w.pulls n)),applied := w.applied ++ [e] }

def observe : World := { w with readBack := w.readBack || !w.applied.isEmpty }

def create (n : PrNumber) (c : Controls) : World :=
  { w with pulls := Function.update w.pulls n c,created := w.created ++ [n] }

/-- No edit was applied, or a read followed the first one. -/
def Settled : Prop := w.applied = [] ∨ w.readBack = true

theorem observe_settled : w.observe.Settled := by
  unfold Settled observe
  cases hl : w.applied <;> simp

variable {w}

theorem Settled.observe (h : w.Settled) : w.observe = w := by
  obtain ⟨pulls,created,applied,readBack⟩ := w
  unfold World.observe
  rcases h with h | h
  · simp only at h
    simp [h]
  · simp only at h
    simp [h]

end World

structure Shows (c : Controls) (p : PullRequestSnapshot) : Prop where
  base : p.base.name = c.base
  labels : p.labels = c.labels
  enabled : p.autoMerge.enabled = c.autoMerge.enabled
  method : p.autoMerge.mergeMethod = c.autoMerge.method

def ProviderRequest.isRead : ProviderRequest → Bool
  | .edit _ _ | .comment _ _ | .createPullRequest _ _ => false
  | _ => true

/-- A read of a pull request tells its control facts; anything else may be answered anyhow. -/
def Truthful (w : World) : ProviderRequest → ProviderAnswer → Prop
  | .refetch n,.pull p => p.number = n ∧ Shows (w.pulls n) p
  | .refetchUrl _,.pull p => Shows (w.pulls p.number) p
  | _,_ => True

def afterRead (w : World) : ProviderRequest → ProviderAnswer → World
  | .refetch _,.pull _ => w.observe
  | _,_ => w

/-- One exchange with the provider. A request that fails may have been applied. -/
inductive Step : World → ProviderRequest → ProviderAnswer → World → Prop
  | read {w : World} {q : ProviderRequest} {a : ProviderAnswer} :
      q.isRead = true → Truthful w q a → Step w q a (afterRead w q a)
  | failed {w : World} {q : ProviderRequest} (e : MutationError) : Step w q (.failed e) w
  | edited {w : World} {n : PrNumber} {e : PullEdit} (a : ProviderAnswer) :
      Step w (.edit n e) a (w.edit n e)
  | commented {w : World} {n : PrNumber} {body : String} (a : ProviderAnswer) :
      Step w (.comment n body) a w
  | created {w : World} {head base : String} (n : PrNumber) (c : Controls) (a : ProviderAnswer) :
      Step w (.createPullRequest head base) a (w.create n c)

end World

section Edits

variable {c d : Controls} {p q : PullRequestSnapshot} {e : PullEdit}

theorem satisfied_of_shows (h : Shows c p) (hopen : e.satisfied p = false) : e.apply c ≠ c := by
  obtain ⟨base,labels,auto⟩ := c
  intro heq
  cases e with
  | base name =>
    have hname := congrArg Controls.base heq
    simp only [PullEdit.satisfied,decide_eq_false_iff_not,h.base] at hopen
    exact hopen hname.symm
  | addLabel label =>
    have hin := congrArg Controls.labels heq
    simp only [PullEdit.satisfied,PullRequestSnapshot.hasLabel,decide_eq_false_iff_not,h.labels] at hopen
    exact hopen (Finset.insert_eq_self.mp hin)
  | removeLabel label =>
    have hin := congrArg Controls.labels heq
    simp only [PullEdit.satisfied,PullRequestSnapshot.hasLabel,Bool.not_eq_false',decide_eq_true_eq,
      h.labels] at hopen
    exact Finset.erase_eq_self.mp hin hopen
  | squashAutoMerge =>
    have hauto := congrArg Controls.autoMerge heq
    simp only [PullEdit.apply] at hauto
    simp only [PullEdit.satisfied,h.enabled,h.method,← hauto] at hopen
    cases hopen
  | disableAutoMerge =>
    have hauto := congrArg Controls.autoMerge heq
    simp only [PullEdit.apply] at hauto
    simp only [PullEdit.satisfied,h.enabled,← hauto] at hopen
    cases hopen

theorem shows_unique (hc : Shows c p) (hd : Shows d p) : c = d := by
  obtain ⟨base,labels,auto⟩ := c
  obtain ⟨base',labels',auto'⟩ := d
  have hauto : auto = auto' :=
    AutoMergeSetting.eq_of_shown (hc.enabled.symm.trans hd.enabled) (hc.method.symm.trans hd.method)
  have hbase : base = base' := hc.base.symm.trans hd.base
  have hlabels : labels = labels' := hc.labels.symm.trans hd.labels
  rw [hbase,hlabels,hauto]

structure Agree (p q : PullRequestSnapshot) : Prop where
  number : p.number = q.number
  base : p.base.name = q.base.name
  labels : p.labels = q.labels
  enabled : p.autoMerge.enabled = q.autoMerge.enabled
  method : p.autoMerge.mergeMethod = q.autoMerge.mergeMethod

theorem agree_of_unchanged (h : Sync.changedPreconditionFields (.ofSnapshot p) (.ofSnapshot q) = []) :
    Agree p q := by
  simp only [Sync.changedPreconditionFields,List.append_eq_nil_iff,ite_eq_left_iff,
    List.cons_ne_nil,imp_false,not_not] at h
  obtain ⟨⟨⟨⟨⟨⟨⟨hnumber,_⟩,_⟩,_⟩,hbase⟩,_⟩,hlabels⟩,hauto⟩ := h
  have hboth : p.autoMerge.enabled = q.autoMerge.enabled ∧
      p.autoMerge.mergeMethod = q.autoMerge.mergeMethod := of_decide_eq_true hauto
  exact ⟨hnumber,hbase,hlabels,hboth.1,hboth.2⟩

theorem Agree.shows (h : Agree p q) (hq : Shows c q) : Shows c p :=
  ⟨h.base.trans hq.base,h.labels.trans hq.labels,h.enabled.trans hq.enabled,h.method.trans hq.method⟩

end Edits

section Primitives

variable {w : World} {n : PrNumber} {ok : World → ProviderRequest → Prop}

abbrev anyRequest : World → ProviderRequest → Prop := fun _ _ => True

theorem afterRead_settled (h : w.Settled) (q : ProviderRequest) (a : ProviderAnswer) :
    afterRead w q a = w := by
  unfold afterRead
  split
  · exact h.observe
  · rfl

theorem Step.of_read {q : ProviderRequest} {a : ProviderAnswer} {w' : World} (hq : q.isRead = true)
    (h : Step w q a w') : w' = w ∧ (∃ e,a = .failed e) ∨ w' = afterRead w q a ∧ Truthful w q a := by
  cases h with
  | read _ ha => exact .inr ⟨rfl,ha⟩
  | failed e => exact .inl ⟨rfl,e,rfl⟩
  | edited => cases hq
  | commented => cases hq
  | created => cases hq

theorem refetch_gives (w : World) (n : PrNumber) : Gives Step anyRequest (refetchPullRequest n)
    (fun w' p => w' = w.observe ∧ p.number = n ∧ Shows (w.pulls n) p) (fun w' _ => w' = w) w := by
  apply Gives.query trivial
  · intro a w' p hstep hd
    obtain ⟨_,e,he⟩ | ⟨hw,ha⟩ := hstep.of_read rfl
    · rw [he] at hd
      cases hd
    · cases a <;> cases hd
      exact ⟨hw,ha.1,ha.2⟩
  · intro a w' e hstep hd
    obtain ⟨hw,_⟩ | ⟨hw,_⟩ := hstep.of_read rfl
    · exact hw
    · cases a <;> cases hd
      exact hw

theorem verify_gives (hw : w.Settled) (expected : PullRequestSnapshot) :
    Gives Step anyRequest (verifyPrecondition (.ofSnapshot expected))
      (fun w' p => w' = w ∧ Agree expected p ∧ p.number = expected.number ∧
        Shows (w.pulls expected.number) p) (fun w' _ => w' = w) w := by
  apply (refetch_gives w expected.number).bind
  intro w' p hp
  obtain ⟨rfl,hnumber,hshows⟩ := hp
  rw [hw.observe]
  apply Gives.bind (K := fun w' _ => w' = w ∧ Sync.changedPreconditionFields (.ofSnapshot expected)
    (.ofSnapshot p) = [])
  · exact .refuseIf (fun h => ⟨rfl,by simpa using h⟩) fun _ => rfl
  · intro w' _ h
    exact .pure ⟨h.1,agree_of_unchanged h.2,hnumber,hshows⟩

structure Receipt (w : World) (n : PrNumber) (e : PullEdit) (receipt : GitHubMutationReceipt) : Prop where
  kind : receipt.kind = e.kind
  before : ∃ before,receipt.before = some before ∧ Shows (w.pulls n) before
  after : Shows ((w.edit n e).pulls n) receipt.after
  number : receipt.after.number = n

theorem mutate_gives (hw : w.Settled) (p : PullRequestSnapshot) (e : PullEdit) :
    Gives Step anyRequest (mutatePullRequest (.ofSnapshot p) e)
      (fun w' receipt => w' = (w.edit p.number e).observe ∧ Shows (w.pulls p.number) p ∧
        Receipt w p.number e receipt)
      (fun w' _ => w' = w ∨ w' = w.edit p.number e ∧ Shows (w.pulls p.number) p) w := by
  apply ((verify_gives hw p).mono (fun _ _ h => h) fun _ _ h => .inl h).bind
  intro w' before hbefore
  obtain ⟨hsame,hagree,_,hshows⟩ := hbefore
  have hp := hagree.shows hshows
  rw [hsame]
  apply Gives.query_bind trivial
  · intro a w' output hstep hd
    have hedited : w' = w.edit p.number e := by
      cases hstep with
      | read hq _ => cases hq
      | failed e => cases hd
      | edited a => rfl
    rw [hedited]
    apply ((refetch_gives (w.edit p.number e) p.number).mono (fun _ _ h => h)
      fun _ _ h => .inr ⟨h,hp⟩).bind
    intro w' after hafter
    obtain ⟨rfl,hnumber,hshown⟩ := hafter
    exact .pure ⟨rfl,hp,rfl,⟨before,rfl,hshows⟩,hshown,hnumber⟩
  · intro a w' err hstep hd
    cases hstep with
    | read hq _ => cases hq
    | failed e => exact .inl rfl
    | edited a => exact .inr ⟨rfl,hp⟩

theorem postAudit_gives (w : World) (n : PrNumber) (audit : ControlLabelAudit) (visible : Bool) :
    Gives Step anyRequest (postAudit n audit visible) (fun w' _ => w' = w) (fun w' _ => w' = w) w := by
  have hcomment : ∀ {a : ProviderAnswer} {w' : World},Step w (.comment n audit.body) a w' → w' = w := by
    intro a w' hstep
    cases hstep with
    | read hq _ => cases hq
    | failed e => rfl
    | commented a => rfl
  rw [postAudit]
  split
  · exact .pure rfl
  · apply Gives.query_bind trivial
    · exact fun a w' output hstep _ => .pure (hcomment hstep)
    · exact fun a w' e hstep _ => hcomment hstep

theorem controlLabelComment_gives (hw : w.Settled) (p : PullRequestSnapshot) (audit : ControlLabelAudit) :
    Gives Step anyRequest (controlLabelComment (.ofSnapshot p) audit) (fun w' _ => w' = w)
      (fun w' _ => w' = w) w := by
  apply ((verify_gives hw p).mono (fun _ _ h => h) fun _ _ h => h).bind
  intro w' before hbefore
  rw [hbefore.1]
  have hread : ∀ {a : ProviderAnswer} {w' : World},
      Step w (.commentBodies (PullRequestPrecondition.ofSnapshot p).number) a w' → w' = w := by
    intro a w' hstep
    obtain ⟨h,_⟩ | ⟨h,_⟩ := hstep.of_read rfl
    · exact h
    · rw [h,afterRead_settled hw]
  apply Gives.query_bind trivial
  · intro a w' bodies hstep _
    rw [hread hstep]
    apply (postAudit_gives w p.number audit _).bind
    intro w' output h
    rw [h]
    apply (refetch_gives w p.number).bind
    intro w' after hafter
    exact .pure (hafter.1.trans hw.observe)
  · intro a w' e hstep _
    exact hread hstep

end Primitives

section Trail

variable {n : PrNumber} {w₀ w w' : World} {rs : List GitHubMutationReceipt}
  {receipt : GitHubMutationReceipt} {e : PullEdit}

/-- Receipts of edits of one pull request that were made one after another and each read back. -/
inductive Trail (n : PrNumber) : World → List GitHubMutationReceipt → World → Prop
  | nil (w : World) : Trail n w [] w
  | snoc {w₀ w : World} {rs : List GitHubMutationReceipt} {receipt : GitHubMutationReceipt}
      {e : PullEdit} : Trail n w₀ rs w → Receipt w n e receipt → e.apply (w.pulls n) ≠ w.pulls n →
      Trail n w₀ (rs ++ [receipt]) (w.edit n e).observe

theorem Trail.settled (h : Trail n w₀ rs w) (hw : w₀.Settled) : w.Settled := by
  cases h with
  | nil => exact hw
  | snoc => exact World.observe_settled _

@[simp] theorem edit_pulls_self (w : World) (n : PrNumber) (e : PullEdit) :
    (w.edit n e).pulls n = e.apply (w.pulls n) := Function.update_self ..

@[simp] theorem observe_pulls (w : World) : w.observe.pulls = w.pulls := rfl

@[simp] theorem observe_created (w : World) : w.observe.created = w.created := rfl

@[simp] theorem observe_applied (w : World) : w.observe.applied = w.applied := rfl

@[simp] theorem edit_created (w : World) (n : PrNumber) (e : PullEdit) : (w.edit n e).created = w.created :=
  rfl

@[simp] theorem edit_applied (w : World) (n : PrNumber) (e : PullEdit) :
    (w.edit n e).applied = w.applied ++ [e] := rfl

def isAutoMergeReceipt (receipt : GitHubMutationReceipt) : Bool :=
  decide (receipt.kind = .enableAutoMerge ∨ receipt.kind = .disableAutoMerge)

theorem Receipt.isAutoMerge (h : Receipt w n e receipt) : isAutoMergeReceipt receipt = e.isAutoMerge := by
  rw [isAutoMergeReceipt,h.kind]
  cases e <;> rfl

theorem edit_pulls_other (w : World) {n k : PrNumber} (e : PullEdit) (hk : k ≠ n) :
    (w.edit n e).pulls k = w.pulls k := Function.update_of_ne hk ..

theorem Trail.others (h : Trail n w₀ rs w) {k : PrNumber} (hk : k ≠ n) : w.pulls k = w₀.pulls k := by
  induction h with
  | nil => rfl
  | snoc _ _ _ ih => rw [observe_pulls,edit_pulls_other _ _ hk,ih]

theorem Trail.created (h : Trail n w₀ rs w) : w.created = w₀.created := by
  induction h with
  | nil => rfl
  | snoc _ _ _ ih => simpa using ih

theorem Trail.autoMerge (h : Trail n w₀ rs w) (hnone : rs.any isAutoMergeReceipt = false) :
    (w.pulls n).autoMerge = (w₀.pulls n).autoMerge := by
  induction h with
  | nil => rfl
  | @snoc w rs receipt e _ hr _ ih =>
    rw [List.any_append,Bool.or_eq_false_iff] at hnone
    have hedit : e.isAutoMerge = false := by
      rw [← hr.isAutoMerge]
      simpa using hnone.2
    rw [observe_pulls,edit_pulls_self,← ih hnone.1]
    cases e <;> first | rfl | cases hedit

theorem Trail.applied (h : Trail n w₀ rs w) :
    w.applied.any PullEdit.isAutoMerge = (w₀.applied.any PullEdit.isAutoMerge || rs.any isAutoMergeReceipt) := by
  induction h with
  | nil => simp
  | snoc _ hr _ ih => simp [ih,hr.isAutoMerge,Bool.or_assoc]

theorem Trail.same (h : Trail n w₀ rs w) (hrs : rs = []) : w = w₀ := by
  cases h with
  | nil => rfl
  | snoc => simp at hrs

theorem Trail.readBack (h : Trail n w₀ rs w) (hrs : rs ≠ []) : w.readBack = true := by
  cases h with
  | nil => exact absurd rfl hrs
  | snoc => simp [World.observe]

theorem firstMissing_insert {label : String} {labels : Finset String} (h : label ∉ labels) :
    firstMissing (insert label labels) labels = some label := by
  have hdiff : insert label labels \ labels = {label} := by
    rw [Finset.insert_sdiff_of_notMem _ h,Finset.sdiff_self,insert_empty_eq]
  simp [firstMissing,sortedLabels,hdiff]

/-- The inverse of a recorded edit restores everything but a foreign merge method. -/
theorem Receipt.inverse (h : Receipt w n e receipt) (heffective : e.apply (w.pulls n) ≠ w.pulls n) :
    ∃ f,inverse receipt = some f ∧ f.isAutoMerge = e.isAutoMerge ∧ ∀ d : Controls,
      d.base = (e.apply (w.pulls n)).base → d.labels = (e.apply (w.pulls n)).labels →
      f.apply d = ⟨(w.pulls n).base,(w.pulls n).labels,
        if e.isAutoMerge then (w.pulls n).autoMerge.settle else d.autoMerge⟩ := by
  obtain ⟨before,hbefore,hshown⟩ := h.before
  have hafter := h.after
  rw [edit_pulls_self] at hafter
  rw [Membership.inverse,hbefore,Option.bind_some,h.kind]
  generalize w.pulls n = c at hshown hafter heffective ⊢
  obtain ⟨base,labels,auto⟩ := c
  have hbase : before.base.name = base := hshown.base
  have hlabels : before.labels = labels := hshown.labels
  cases e with
  | base name =>
    refine ⟨.base base,by rw [← hbase]; rfl,rfl,?_⟩
    intro d _ hd
    show (⟨base,d.labels,d.autoMerge⟩ : Controls) = ⟨base,labels,d.autoMerge⟩
    rw [show d.labels = labels from hd]
  | addLabel label =>
    have hnew : label ∉ labels := by
      intro hin
      exact heffective (by simp [PullEdit.apply,Finset.insert_eq_self.mpr hin])
    have hset : receipt.after.labels = insert label labels := hafter.labels
    refine ⟨.removeLabel label,?_,rfl,?_⟩
    · show (firstMissing receipt.after.labels before.labels).map PullEdit.removeLabel = _
      rw [hset,hlabels,firstMissing_insert hnew]
      rfl
    · intro d hb hd
      show (⟨d.base,d.labels.erase label,d.autoMerge⟩ : Controls) = ⟨base,labels,d.autoMerge⟩
      rw [show d.labels = insert label labels from hd,Finset.erase_insert hnew,show d.base = base from hb]
  | removeLabel label =>
    have hold : label ∈ labels := by
      by_contra hout
      exact heffective (by simp [PullEdit.apply,Finset.erase_eq_self.mpr hout])
    have hset : receipt.after.labels = labels.erase label := hafter.labels
    have hmissing : firstMissing labels (labels.erase label) = some label := by
      conv_lhs => rw [← Finset.insert_erase hold]
      simpa using firstMissing_insert (Finset.notMem_erase label labels)
    refine ⟨.addLabel label,?_,rfl,?_⟩
    · show (firstMissing before.labels receipt.after.labels).map PullEdit.addLabel = _
      rw [hset,hlabels,hmissing]
      rfl
    · intro d hb hd
      show (⟨d.base,insert label d.labels,d.autoMerge⟩ : Controls) = ⟨base,labels,d.autoMerge⟩
      rw [show d.labels = labels.erase label from hd,Finset.insert_erase hold,show d.base = base from hb]
  | squashAutoMerge | disableAutoMerge =>
    have henabled : before.autoMerge.enabled = auto.enabled := hshown.enabled
    refine ⟨if before.autoMerge.enabled then .squashAutoMerge else .disableAutoMerge,rfl,?_,?_⟩
    · cases before.autoMerge.enabled <;> rfl
    · intro d hb hd
      rw [henabled]
      obtain ⟨dbase,dlabels,dauto⟩ := d
      have hdbase : dbase = base := hb
      have hdlabels : dlabels = labels := hd
      rw [hdbase,hdlabels]
      cases auto <;> rfl

end Trail

section Rollback

variable {n : PrNumber} {w₀ w v : World} {rs base : List GitHubMutationReceipt}

structure TakenBack (n : PrNumber) (w₀ : World) (rs : List GitHubMutationReceipt) (v w : World) : Prop where
  pull : w.pulls n = ⟨(w₀.pulls n).base,(w₀.pulls n).labels,
    if rs.any isAutoMergeReceipt then (w₀.pulls n).autoMerge.settle else (v.pulls n).autoMerge⟩
  others : ∀ k,k ≠ n → w.pulls k = v.pulls k
  created : w.created = v.created
  settled : w.Settled
  applied : w.applied.any PullEdit.isAutoMerge =
    (v.applied.any PullEdit.isAutoMerge || rs.any isAutoMergeReceipt)

/-- Receipts without a state before them, such as those of a creation, are passed over. -/
theorem takeBack_bare (h : ∀ receipt ∈ base,receipt.before = none) (p : PullRequestSnapshot) :
    takeBack base p = pure [] := by
  induction base with
  | nil => rfl
  | cons receipt rest ih =>
    have hnone : inverse receipt = none := by
      rw [inverse,h receipt (by simp),Option.bind_none]
    rw [takeBack,hnone]
    exact ih fun r hr => h r (List.mem_cons_of_mem _ hr)

/-- By induction on the trail: the last receipt is taken back first, from any world in which base and
labels are those that it left. -/
theorem takeBack_gives (h : Trail n w₀ rs w) (hbare : ∀ receipt ∈ base,receipt.before = none)
    (p : PullRequestSnapshot) (hp : p.number = n) (hv : v.Settled)
    (hbase : (v.pulls n).base = (w.pulls n).base) (hlabels : (v.pulls n).labels = (w.pulls n).labels) :
    Gives Step anyRequest (takeBack (rs.reverse ++ base) p) (fun t _ => TakenBack n w₀ rs v t)
      (fun _ _ => True) v := by
  induction h generalizing v p with
  | nil =>
    rw [List.reverse_nil,List.nil_append,takeBack_bare hbare]
    refine .pure ⟨?_,fun _ _ => rfl,rfl,hv,by simp⟩
    rcases hc : v.pulls n with ⟨base',labels,auto⟩
    rw [hc] at hbase hlabels
    simp only at hbase hlabels
    simp [hbase,hlabels]
  | @snoc w rs receipt e htrail hr heffective ih =>
    obtain ⟨f,hf,hkind,happly⟩ := hr.inverse heffective
    rw [observe_pulls,edit_pulls_self] at hbase hlabels
    rw [List.reverse_append,List.reverse_singleton,List.singleton_append,List.cons_append,takeBack,hf]
    apply ((mutate_gives hv p f).mono (fun _ _ h => h) fun _ _ _ => trivial).bind
    intro t undone hundone
    obtain ⟨rfl,_,hundone⟩ := hundone
    rw [hp] at hundone ⊢
    have hpull : (v.edit n f).observe.pulls n = ⟨(w.pulls n).base,(w.pulls n).labels,
        if e.isAutoMerge then (w.pulls n).autoMerge.settle else (v.pulls n).autoMerge⟩ := by
      rw [observe_pulls,edit_pulls_self]
      exact happly _ hbase hlabels
    have hlater := ih undone.after hundone.number (World.observe_settled (v.edit n f))
      (by rw [hpull]) (by rw [hpull])
    apply (hlater.mono (fun _ _ h => h) fun _ _ h => h).bind
    intro t later htaken
    refine .pure ⟨?_,?_,?_,htaken.settled,?_⟩
    · rw [htaken.pull,hpull,List.any_append]
      cases hearlier : rs.any isAutoMergeReceipt with
      | true => simp
      | false =>
        have hsame := htrail.autoMerge hearlier
        simp [hr.isAutoMerge,hsame]
    · intro k hk
      rw [htaken.others k hk,observe_pulls,edit_pulls_other _ _ hk]
    · exact htaken.created
    · rw [htaken.applied]
      simp only [observe_applied,edit_applied,List.any_append,List.any_cons,List.any_nil,Bool.or_false,
        hkind,hr.isAutoMerge]
      rw [Bool.or_assoc,Bool.or_comm e.isAutoMerge]

/-- The first inverse is refused when an edit came after the last receipt. -/
theorem takeBack_refused (h : Trail n w₀ rs w) (hrs : rs ≠ []) (p : PullRequestSnapshot)
    (hp : p.number = n) (hshows : Shows (w.pulls n) p) {e : PullEdit}
    (heffective : e.apply (w.pulls n) ≠ w.pulls n) :
    Gives Step anyRequest (takeBack (rs.reverse ++ base) p) (fun _ _ => False) (fun _ _ => True)
      (w.edit n e) := by
  have hsettled : (w.edit n e).Settled := .inr (h.readBack hrs)
  cases h with
  | nil => exact absurd rfl hrs
  | @snoc w rs receipt e' htrail hr heffective' =>
    obtain ⟨f,hf,_⟩ := hr.inverse heffective'
    rw [List.reverse_append,List.reverse_singleton,List.singleton_append,List.cons_append,takeBack,hf]
    apply ((mutate_gives hsettled p f).mono (fun _ _ h => h) fun _ _ _ => trivial).bind
    intro t undone hundone
    have hshown := hundone.2.1
    rw [hp,edit_pulls_self] at hshown
    exact absurd (shows_unique hshown hshows) heffective

end Rollback

section Envelope

variable {δ : Type} {n : PrNumber} {w₀ w : World} {base : List GitHubMutationReceipt} {s : ExecutionState}

/-- Between two steps: the receipts after those of the creation are a trail to this world, and the
pull request last seen is as it shows it once there is a receipt. -/
structure AtStep (n : PrNumber) (base : List GitHubMutationReceipt) (w₀ : World) (s : ExecutionState)
    (w : World) : Prop where
  trail : ∃ rs,s.providerReceipts = base ++ rs ∧ Trail n w₀ rs w ∧ (rs ≠ [] → Shows (w.pulls n) s.current)
  number : s.current.number = n

/-- Where a failed step leaves the world: as it was, or with one more edit. -/
def Stopped (n : PrNumber) (base : List GitHubMutationReceipt) (w₀ : World) (s : ExecutionState)
    (t : World) : Prop :=
  ∃ w,AtStep n base w₀ s w ∧ (t = w ∨ ∃ e,t = w.edit n e ∧ e.apply (w.pulls n) ≠ w.pulls n)

theorem AtStep.settled (h : AtStep n base w₀ s w) (hw : w₀.Settled) : w.Settled := by
  obtain ⟨rs,_,htrail,_⟩ := h.trail
  exact htrail.settled hw

theorem stepCall_gives {α : Type} {call : ProviderIo α} {post : World → α → Prop} {bad : World → Prop}
    (s : ExecutionState) (onError : MutationError → AppError (MembershipDetail δ))
    (h : Gives Step anyRequest call post (fun t _ => bad t) w) :
    Gives Step anyRequest (stepCall s onError call) post (fun t r => r.1 = s ∧ bad t) w := by
  constructor
  rw [stepCall,holds_mapError]
  apply h.holds.mono
  intro t r hr
  cases r with
  | ok a => exact hr
  | error e => exact ⟨rfl,hr⟩

theorem ensureEdit_gives (e : PullEdit) (hw : w₀.Settled) (h : AtStep n base w₀ s w) :
    Gives Step anyRequest (ensureEdit e s : EnvelopeIo δ ExecutionState)
      (fun t s' => AtStep n base w₀ s' t) (fun t r => Stopped n base w₀ r.1 t) w := by
  rw [ensureEdit]
  split
  · exact .pure ⟨h.trail,h.number⟩
  · rename_i hopen
    have hcall := mutate_gives (h.settled hw) s.current e
    rw [h.number] at hcall
    have heffective : Shows (w.pulls n) s.current → e.apply (w.pulls n) ≠ w.pulls n :=
      fun hshows => satisfied_of_shows hshows (by simpa using hopen)
    apply Gives.bind (K := fun t receipt => t = (w.edit n e).observe ∧ Shows (w.pulls n) s.current ∧
      Receipt w n e receipt)
    · apply (stepCall_gives s _ hcall).mono (fun _ _ h => h)
      intro t r hr
      obtain ⟨hs,hr⟩ := hr
      rw [hs]
      refine ⟨w,h,?_⟩
      rcases hr with hr | ⟨hr,hshows⟩
      · exact .inl hr
      · exact .inr ⟨e,hr,heffective hshows⟩
    · intro t receipt hreceipt
      obtain ⟨rfl,hshows,hreceipt⟩ := hreceipt
      obtain ⟨rs,hrs,htrail,_⟩ := h.trail
      refine .pure ⟨⟨rs ++ [receipt],?_,htrail.snoc hreceipt (heffective hshows),?_⟩,hreceipt.number⟩
      · simp [ExecutionState.record,hrs]
      · exact fun _ => hreceipt.after

theorem inSequence_gives (hw : w₀.Settled)
    {steps : List (ExecutionState → EnvelopeIo δ ExecutionState)}
    (hsteps : ∀ step ∈ steps,∃ e,step = ensureEdit e) (h : AtStep n base w₀ s w) :
    Gives Step anyRequest (inSequence steps s) (fun t s' => AtStep n base w₀ s' t)
      (fun t r => Stopped n base w₀ r.1 t) w := by
  induction steps generalizing s w with
  | nil => exact .pure h
  | cons step rest ih =>
    obtain ⟨e,rfl⟩ := hsteps step (by simp)
    apply (ensureEdit_gives e hw h).bind
    intro t s' hs'
    exact ih (fun step hstep => hsteps step (List.mem_cons_of_mem _ hstep)) hs'

theorem envelopeSteps_edits (status : StatusOutput) (request : MembershipRequest) (name : String) :
    ∀ step ∈ envelopeSteps (δ := δ) status request name,∃ e,step = ensureEdit e := by
  intro step hstep
  simp only [envelopeSteps,List.mem_append,List.mem_cons,List.not_mem_nil,or_false,List.mem_map] at hstep
  rcases hstep with ((((rfl | rfl) | ⟨label,_,rfl⟩) | ⟨label,_,rfl⟩) | hrenewal) | (rfl | rfl)
  · exact ⟨_,rfl⟩
  · exact ⟨_,rfl⟩
  · exact ⟨_,rfl⟩
  · exact ⟨_,rfl⟩
  · split at hrenewal
    · exact ⟨_,List.mem_singleton.mp hrenewal⟩
    · cases hrenewal
  · exact ⟨_,rfl⟩
  · split
    · exact ⟨_,rfl⟩
    · exact ⟨_,rfl⟩

theorem comment_gives (audit : ControlLabelAudit) (hw : w₀.Settled) (h : AtStep n base w₀ s w) :
    Gives Step anyRequest (ensureControlLabelComment audit s : EnvelopeIo δ ExecutionState)
      (fun _ _ => True) (fun t r => Stopped n base w₀ r.1 t) w := by
  apply ((stepCall_gives s _ (controlLabelComment_gives (h.settled hw) s.current audit)).mono
    (fun _ _ _ => trivial) ?_).bind
  · intro t receipt _
    split
    · exact .pure trivial
    · exact .pure trivial
  · intro t r hr
    rw [hr.1,hr.2]
    exact ⟨w,h,.inl rfl⟩

theorem envelope_gives (status : StatusOutput) (request : MembershipRequest)
    (candidate : PullRequestSnapshot) (eligibility : CheckOutput) (name : String) (hw : w₀.Settled)
    (h : AtStep n base w₀ s w) :
    Gives Step anyRequest (envelope status request candidate eligibility name s : EnvelopeIo δ ExecutionState)
      (fun _ _ => True) (fun t r => Stopped n base w₀ r.1 t) w := by
  apply (inSequence_gives hw (envelopeSteps_edits status request name) h).bind
  intro t s' hs'
  exact comment_gives _ hw hs'

end Envelope

end Membership
end Cara
