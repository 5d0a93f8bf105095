import Cara.Navigation

/-! Safety of checkouts: what a local branch held is never lost, however many worktrees of a repository
check out beside each other. -/
namespace Cara
namespace Navigation

open SquashEquivalence (CommandOutput GitError)
open Prog (Contract send refuseIf)

variable {W : Type} {alone : Prop} {digest : String → String} {w : W} {s s' : Repo W} {α β : Type} {p : Nav α}
  {repository remote : String} {pullRequest : PullRequestSnapshot}

section Moves

theorem localRef_not_backup (branch : String) : ¬IsBackup (localRef branch) := by
  unfold IsBackup localRef
  rw [String.toList_append]
  rintro ⟨rest,hrest⟩
  have hsixth := congrArg (List.drop 5 · |>.head?) hrest
  exact absurd hsixth (by simp)

theorem backupRefOf_backup (branch : String) (oid : CommitOid) : IsBackup (backupRefOf digest branch oid) := by
  have hfixed : "refs/cara-backup/".toList <+: "refs/cara-backup/navigation/".toList :=
    ⟨"navigation/".toList,by simp⟩
  unfold IsBackup backupRefOf
  rw [String.toList_append,String.toList_append,String.toList_append,List.append_assoc,List.append_assoc]
  exact hfixed.trans (List.prefix_append _ _)

theorem Kept.move (branch : String) (old : Option CommitOid) (new : CommitOid) :
    Kept s (s.move w branch old new) := by
  intro name oid hname hoid
  show Function.update _ _ _ _ = _
  rw [Function.update_of_ne fun heq : name = localRef branch => localRef_not_backup branch (heq ▸ hname)]
  exact hoid

theorem Kept.backedUp {backup : Option String} (h : ∀ name ∈ backup,s.refs name = none) (old : CommitOid) :
    Kept s (s.backedUp backup old) := by
  intro name oid hname hoid
  cases backup with
  | none => exact hoid
  | some made =>
    have hne : name ≠ made := by
      rintro rfl
      cases hoid.symm.trans (h name rfl)
    show Function.update _ _ _ _ = _
    rw [Function.update_of_ne hne]
    exact hoid

theorem Kept.trans {m : Repo W} (h : Kept s m) (h' : Kept m s') : Kept s s' :=
  fun name oid hname hoid => h' name oid hname (h name oid hname hoid)

variable [DecidableEq W]

theorem rely_refl (s : Repo W) : Rely alone digest w s s := ⟨fun _ _ _ h => h,id,rfl,fun _ => rfl⟩

theorem Rely.trans {m : Repo W} (h : Rely alone digest w s m) (h' : Rely alone digest w m s') :
    Rely alone digest w s s' :=
  (contract alone digest w).rely_trans _ _ _ h h'

theorem own_move (branch : String) (old : Option CommitOid) (new : CommitOid) (w' : W) :
    (s.move w branch old new).own w' = s.own w' ++ if w = w' then [⟨w,branch,old,new⟩] else [] := by
  unfold Repo.own Repo.move
  rw [List.filter_append]
  by_cases h : w = w' <;> simp [h]

/-- A branch that is moved where its old value is backed up keeps the contract. -/
theorem move_guar {branch : String} {old : Option CommitOid} {new : CommitOid} (hkept : Kept s s')
    (hmoves : s'.moves = s.moves)
    (hold : ∀ oid ∈ old,s'.refs (backupRefOf digest branch oid) = some oid) :
    (contract alone digest w).guar s (s'.move w branch old new) := by
  refine ⟨hkept.trans (.move branch old new),?_,?_⟩
  · intro hsaved m hm oid hoid
    apply Kept.move branch old new _ _ (backupRefOf_backup _ _)
    rcases List.mem_append.mp hm with hm | hm
    · rw [hmoves] at hm
      exact hkept _ _ (backupRefOf_backup _ _) (hsaved m hm oid hoid)
    · rw [List.mem_singleton.mp hm] at hoid ⊢
      exact hold oid hoid
  · intro w' hw
    rw [own_move,if_neg hw.symm,List.append_nil]
    show s'.moves.filter _ = _
    rw [hmoves]
    rfl

end Moves

section Reading

variable [DecidableEq W]

def NavCommand.reads : NavCommand → Bool
  | .createRef .. => false
  | .moveRef .. => false
  | .switch _ => false
  | _ => true

/-- An error that does not say whether anything was moved. -/
def Quiet (e : GitError) : Prop := ("mutated","false") ∉ e.details.getD []

theorem commandRunError_quiet (e : RunError) : Quiet (commandRunError e) := by
  cases e <;> simp [Quiet,commandRunError]

theorem commandFailure_quiet (code message : String) (output : CommandOutput) :
    Quiet (commandFailure code message output) := by
  simp [Quiet,commandFailure,outputDetails]

theorem staleHead_quiet (observed : String) : Quiet (staleHead pullRequest observed) := by
  simp [Quiet,staleHead]

variable {f : α → Nav β} {m : Repo W} {post : Repo W → Except GitError β → Prop} {condition : Bool}
  {e : GitError}

theorem Effect.of_reads {command : NavCommand} {a : NavAnswer} (hread : command.reads = true)
    (h : Effect w s (.git command) a s') : s' = s ∧ ∀ o,a.output = .ok o → Reports s w command o := by
  cases h with
  | kept hreports => exact ⟨rfl,fun o ho => hreports _ o rfl ho⟩
  | created | moved | switched | guessed => cases hread

theorem ofResult_next {r : Except GitError α}
    (hf : ∀ a,r = .ok a → Ends alone digest w (f a) post s)
    (he : ∀ e,r = .error e → post s (.error e)) :
    Ends alone digest w (Prog.ofResult r >>= f) post s := by
  cases r with
  | ok a => exact hf a rfl
  | error e => exact he e rfl

theorem refuseIf_next {f : Unit → Nav β}
    (hf : condition = false → Ends alone digest w (f ()) post s)
    (he : condition = true → post s (.error e)) :
    Ends alone digest w (refuseIf condition e >>= f) post s := by
  cases condition with
  | false => exact hf rfl
  | true => exact he rfl

/-- A command where the others have left the repository. -/
theorem run_next {command : NavCommand} {f : CommandOutput → Nav β} (hs : Rely alone digest w s m)
    (h : ∀ m a s',Rely alone digest w s m → Effect w m (.git command) a s' →
      (contract alone digest w).guar m s' ∧
      (∀ o,a.output = .ok o → Ends alone digest w (f o) post s') ∧
      ∀ e,(∀ o,a.output ≠ .ok o) → Quiet e → post s' (.error e)) :
    Ends alone digest w (run command >>= f) post m := by
  apply Contract.Guards.send
  intro m' hm'
  refine ⟨trivial,?_⟩
  intro a s' heffect
  obtain ⟨hguar,hok,herror⟩ := h m' a s' (hs.trans hm') heffect
  refine ⟨hguar,?_⟩
  cases ha : a.output with
  | ok o => exact hok o ha
  | error e => exact herror _ (fun o ho => by cases ha.symm.trans ho) (commandRunError_quiet e)

theorem read_next {command : NavCommand} {f : CommandOutput → Nav β} (hread : command.reads = true)
    (hs : Rely alone digest w s m)
    (hf : ∀ s' o,Rely alone digest w s s' → Reports s' w command o →
      Ends alone digest w (f o) post s')
    (he : ∀ s' e,Rely alone digest w s s' → Quiet e → post s' (.error e)) :
    Ends alone digest w (run command >>= f) post m := by
  apply run_next hs
  intro m a s' hm heffect
  obtain ⟨rfl,hreports⟩ := heffect.of_reads hread
  exact ⟨⟨fun _ _ _ h => h,id,fun _ _ => rfl⟩,fun o ho => hf _ o hm (hreports o ho),
    fun e _ hquiet => he _ e hm hquiet⟩

variable (alone digest w) in
/-- The program leaves everything to the others. -/
def Reads (p : Nav α) : Prop := ∀ s : Repo W,Ends alone digest w p
  (fun s' r => Rely alone digest w s s' ∧ ∀ e,r = .error e → Quiet e) s

namespace Reads

theorem pure (a : α) : Reads alone digest w (pure a : Nav α) := fun s => ⟨rely_refl s,fun _ h => nomatch h⟩

theorem refuseIf (h : Quiet e) : Reads alone digest w (refuseIf condition e) := by
  refine fun s => ⟨rely_refl s,?_⟩
  rintro e' he
  cases condition with
  | false => cases he
  | true =>
    cases he
    exact h

/-- The others go on where the program stands. -/
theorem next (hp : Reads alone digest w p) (hm : Rely alone digest w s m)
    (hf : ∀ s' a,Rely alone digest w s s' → Ends alone digest w (f a) post s')
    (he : ∀ s' e,Rely alone digest w s s' → Quiet e → post s' (.error e)) :
    Ends alone digest w (p >>= f) post m := by
  refine Contract.Guards.bind (m := fun s' _ => Rely alone digest w s s') ?_ fun s' a h => hf s' a h
  apply (hp m).mono
  intro s' r hr
  have hs := hm.trans hr.1
  cases r with
  | ok a => exact hs
  | error e => exact he s' e hs (hr.2 e rfl)

theorem after (hp : Reads alone digest w p) (hs : Rely alone digest w s m) :
    Ends alone digest w p
      (fun s' r => Rely alone digest w s s' ∧ ∀ e,r = .error e → Quiet e) m :=
  (hp m).mono fun _ _ h => ⟨hs.trans h.1,h.2⟩

theorem stopped (hs : Rely alone digest w s s') (he : Quiet e) : Rely alone digest w s s' ∧
    ∀ e',(.error e : Except GitError β) = .error e' → Quiet e' :=
  ⟨hs,fun _ heq => by cases heq; exact he⟩

theorem bind (hp : Reads alone digest w p) (hf : ∀ a,Reads alone digest w (f a)) : Reads alone digest w (p >>= f) :=
  fun s => hp.next (rely_refl s) (fun _ a hs => (hf a).after hs) fun _ _ hs he => stopped hs he

theorem ask {q : NavRequest} {f : NavAnswer → Nav β} (hq : ∀ command,q ≠ .git command)
    (hf : ∀ a,Reads alone digest w (f a)) : Reads alone digest w (send q >>= f) := by
  intro s
  apply Contract.Guards.send
  intro m hm
  refine ⟨trivial,?_⟩
  intro a s' heffect
  cases heffect with
  | kept => exact ⟨⟨fun _ _ _ h => h,id,fun _ _ => rfl⟩,(hf a).after hm⟩
  | created | moved | switched | guessed => exact absurd rfl (hq _)

/-- A command that reads and has to succeed. -/
theorem required {command : NavCommand} {code message : String} {f : CommandOutput → Nav β}
    (hread : command.reads = true) (hf : ∀ output,Reads alone digest w (f output)) : Reads alone digest w (do
      let output ← run command
      requireSuccess code message output
      f output) := by
  intro s
  refine read_next hread (rely_refl s) ?_ fun _ _ hs he => stopped hs he
  intro s' output hs _
  exact refuseIf_next (fun _ => (hf output).after hs) fun _ => stopped hs (commandFailure_quiet _ _ _)

end Reads

theorem refuseMarkers_reads (gitDir : String) (names : List String) :
    Reads alone digest w (refuseMarkers gitDir names) := by
  induction names with
  | nil => exact .pure ()
  | cons name rest ih =>
    refine Reads.ask (by rintro _ ⟨⟩) ?_
    intro a
    exact (Reads.refuseIf (by simp [Quiet])).bind fun _ => ih

theorem ensureSafeWorktree_reads : Reads alone digest w (ensureSafeWorktree repository) := by
  refine Reads.ask (by rintro _ ⟨⟩) ?_
  intro a
  apply Reads.required rfl
  intro status
  apply Reads.bind
  · cases a.allowance with
    | none => exact .pure true
    | some allowance => exact .ask (by rintro _ ⟨⟩) fun answer => .pure answer.holds
  · intro valid
    apply (Reads.refuseIf (by simp [Quiet])).bind
    intro _
    apply Reads.required rfl
    intro gitDir
    exact refuseMarkers_reads _ _

theorem advertisedBranchOid_reads (reference : String) :
    Reads alone digest w (advertisedBranchOid remote reference) := by
  apply Reads.required rfl
  intro advertised s
  refine ⟨rely_refl s,?_⟩
  intro e he
  cases hoid : advertisedOid reference (SquashEquivalence.linesOf advertised) with
  | some oid =>
    rw [hoid] at he
    cases he
  | none =>
    rw [hoid] at he
    cases he
    simp [Quiet]

theorem fetchExactBranchObject_reads (reference : String) :
    Reads alone digest w (fetchExactBranchObject remote pullRequest reference) := by
  apply Reads.required rfl
  intro _
  apply Reads.required rfl
  intro _
  apply (advertisedBranchOid_reads reference).bind
  intro advertised
  exact .refuseIf (staleHead_quiet advertised)

end Reading

section Calls

variable [DecidableEq W]

/-- What a call has done to its branch, whatever it ends with: the moves before its switch, of which there
is at most one and what it moved is backed up, and the branch that the switch has made where none was. -/
structure Left (digest : String → String) (w : W) (pullRequest : PullRequestSnapshot) (s s' : Repo W)
    (settled guessed : List (BranchMove W)) (r : Except GitError (Option LocalBranchReconciliation)) : Prop where
  own : s'.own w = s.own w ++ settled ++ guessed
  moved : settled = [] ∨ ∃ old,old ≠ some pullRequest.head.oid ∧
    settled = [⟨w,pullRequest.head.name,old,pullRequest.head.oid⟩] ∧
    ∀ oid ∈ old,s'.refs (backupRefOf digest pullRequest.head.name oid) = some oid
  guessed : guessed = [] ∨ (∃ oid,guessed = [⟨w,pullRequest.head.name,none,oid⟩]) ∧
    ∀ e,r = .error e → Quiet e
  unmutated : ∀ e,r = .error e → ¬Quiet e → settled = []
  reported : ∀ l,r = .ok (some l) → ∃ old,l = ⟨pullRequest.head.name,old,pullRequest.head.oid,
      backupRefOf digest pullRequest.head.name old⟩ ∧
    settled = [⟨w,pullRequest.head.name,some old,pullRequest.head.oid⟩]
  unreported : r = .ok none → settled = [] ∨
    settled = [⟨w,pullRequest.head.name,none,pullRequest.head.oid⟩]

/-- Up to the switch. -/
def Settled (digest : String → String) (w : W) (pullRequest : PullRequestSnapshot) (s s' : Repo W)
    (r : Except GitError (Option LocalBranchReconciliation)) : Prop :=
  ∃ settled,Left digest w pullRequest s s' settled [] r

variable {r : Except GitError (Option LocalBranchReconciliation)} {m : Repo W} {e : GitError}
  {settled guessed : List (BranchMove W)}

namespace Left

/-- The others leave the moves and the backups as they are. -/
theorem rely (h : Left digest w pullRequest s m settled guessed r) (hrely : Rely alone digest w m s') :
    Left digest w pullRequest s s' settled guessed r := by
  obtain ⟨hkept,-,hown,-⟩ := hrely
  refine { h with own := hown ▸ h.own,moved := h.moved.imp_right ?_ }
  rintro ⟨old,hne,hsettled,hbackup⟩
  exact ⟨old,hne,hsettled,fun oid hoid => hkept _ _ (backupRefOf_backup _ _) (hbackup oid hoid)⟩

theorem error (h : Left digest w pullRequest s s' settled guessed r) (he : Quiet e) :
    Left digest w pullRequest s s' settled guessed (.error e) where
  own := h.own
  moved := h.moved
  guessed := h.guessed.imp_right fun hmade => ⟨hmade.1,fun _ heq => by cases heq; exact he⟩
  unmutated _ heq hq := by
    cases heq
    exact absurd he hq
  reported _ hl := by cases hl
  unreported hr := by cases hr

end Left

namespace Settled

theorem idle (hrely : Rely alone digest w s s') (hr : r = .ok none ∨ ∃ e,r = .error e) :
    Settled digest w pullRequest s s' r := by
  refine ⟨[],by simpa using hrely.2.2.1,.inl rfl,.inl rfl,fun _ _ _ => rfl,?_,fun _ => .inl rfl⟩
  rintro l rfl
  rcases hr with hr | ⟨e,hr⟩ <;> cases hr

theorem kept (hrely : Rely alone digest w s s') : Settled digest w pullRequest s s' (.ok none) :=
  idle hrely (.inl rfl)

theorem stopped (hrely : Rely alone digest w s s') : Settled digest w pullRequest s s' (.error e) :=
  idle hrely (.inr ⟨e,rfl⟩)

theorem error (h : Settled digest w pullRequest s s' r) (he : Quiet e) :
    Settled digest w pullRequest s s' (.error e) := by
  obtain ⟨settled,h⟩ := h
  exact ⟨settled,h.error he⟩

theorem made (hown : s'.own w = s.own w ++ [⟨w,pullRequest.head.name,none,pullRequest.head.oid⟩]) :
    Settled digest w pullRequest s s' (.ok none) :=
  ⟨_,by rw [hown,List.append_nil],.inr ⟨none,nofun,rfl,nofun⟩,.inl rfl,nofun,nofun,fun _ => .inr rfl⟩

theorem reconciled {old : CommitOid} (hne : old ≠ pullRequest.head.oid)
    (hrefs : s'.refs (backupRefOf digest pullRequest.head.name old) = some old)
    (hown : s'.own w = s.own w ++ [⟨w,pullRequest.head.name,some old,pullRequest.head.oid⟩]) :
    Settled digest w pullRequest s s' (.ok (some ⟨pullRequest.head.name,old,pullRequest.head.oid,
      backupRefOf digest pullRequest.head.name old⟩)) := by
  refine ⟨_,by rw [hown,List.append_nil],.inr ⟨some old,?_,rfl,?_⟩,.inl rfl,nofun,?_,nofun⟩
  · exact fun heq => hne (Option.some.inj heq)
  · rintro oid ⟨⟩
    exact hrefs
  · rintro l ⟨⟩
    exact ⟨old,rfl,rfl⟩

end Settled

omit [DecidableEq W] in
/-- A backup that need not be made holds the old value. -/
theorem needsBackup_false {backupRef : String} {localOid : CommitOid} {existing : CommandOutput}
    (h : needsBackup backupRef localOid existing = .ok false)
    (hreports : existing.code = some 0 → s.refs backupRef = some (Text.trimmed existing.stdout)) :
    s.refs backupRef = some localOid := by
  unfold needsBackup at h
  split at h
  case isTrue hcode =>
    split at h
    case isTrue hsame => exact hsame ▸ hreports hcode
    case isFalse => cases h
  case isFalse => split at h <;> cases h

/-- The transaction moves the branch where its old value is backed up, or it moves nothing. -/
theorem moveRef_effect {create : Bool} {branch : String} {new old : CommitOid} {a : NavAnswer}
    (hrely : Rely alone digest w s m)
    (hold : create = false → m.refs (backupRefOf digest branch old) = some old)
    (h : Effect w m (.git (.moveRef (if create then some (backupRefOf digest branch old) else none) branch
      new old)) a s') :
    (contract alone digest w).guar m s' ∧
      (Rely alone digest w s s' ∧ (∀ o,a.output = .ok o → o.isSuccess = false) ∨
        s'.own w = s.own w ++ [⟨w,branch,some old,new⟩] ∧
          s'.refs (backupRefOf digest branch old) = some old ∧ ∀ o,a.output = .ok o → o.isSuccess = true) := by
  have hname : IsBackup (backupRefOf digest branch old) := backupRefOf_backup branch old
  cases h with
  | kept hreports => exact ⟨⟨fun _ _ _ h => h,id,fun _ _ => rfl⟩,
      .inl ⟨hrely,fun o ho => decide_eq_false (hreports _ o rfl ho)⟩⟩
  | moved habsent hcurrent hmade =>
    have hbackup : (m.backedUp (if create then some (backupRefOf digest branch old) else none) old).refs
        (backupRefOf digest branch old) = some old := by
      cases create with
      | true => exact Function.update_self ..
      | false => exact hold rfl
    refine ⟨move_guar (.backedUp habsent old) rfl ?_,.inr ⟨?_,Kept.move _ _ _ _ old hname hbackup,?_⟩⟩
    · rintro oid ⟨⟩
      exact hbackup
    · rw [own_move,if_pos rfl]
      exact congrArg (· ++ _) hrely.2.2.1
    · exact fun o ho => decide_eq_true (hmade o ho)

theorem reconcileLocalDestination_guards {localOid : CommitOid} (hne : localOid ≠ pullRequest.head.oid)
    (hm : Rely alone digest w s m) :
    Ends alone digest w
      (reconcileLocalDestination repository remote pullRequest digest localOid)
      (fun s' r => Settled digest w pullRequest s s' (r.map some)) m := by
  refine read_next rfl hm ?_ fun _ _ h _ => .stopped h
  intro s₁ current h₁ _
  refine ofResult_next ?_ fun _ _ => .stopped h₁
  rintro - -
  refine read_next rfl h₁ ?_ fun _ _ h _ => .stopped h
  intro s₂ worktrees h₂ _
  refine refuseIf_next ?_ fun _ => .stopped h₂
  intro _
  refine refuseIf_next ?_ fun _ => .stopped h₂
  intro _
  refine (fetchExactBranchObject_reads _).next h₂ ?_ fun _ _ h _ => .stopped h
  rintro s₃ - h₃
  refine ensureSafeWorktree_reads.next h₃ ?_ fun _ _ h _ => .stopped h
  rintro s₄ - h₄
  refine read_next rfl h₄ ?_ fun _ _ h _ => .stopped h
  intro s₅ existing h₅ hreports
  refine ofResult_next ?_ fun _ _ => .stopped h₅
  intro create hcreate
  have hold : create = false →
      s₅.refs (backupRefOf digest pullRequest.head.name localOid) = some localOid := by
    rintro rfl
    exact needsBackup_false hcreate hreports
  apply run_next (rely_refl s₅)
  intro m a s' h₆ heffect
  obtain ⟨hguar,⟨hrely,hfailed⟩ | ⟨hown,hrefs,hmade⟩⟩ := moveRef_effect
    (h₅.trans h₆) (fun h => h₆.1 _ _ (backupRefOf_backup _ _) (hold h)) heffect
  · refine ⟨hguar,?_,fun _ _ _ => .stopped hrely⟩
    intro o ho
    exact refuseIf_next (fun hsuccess => by rw [hfailed o ho] at hsuccess; cases hsuccess)
      fun _ => .stopped hrely
  · have hdone := Settled.reconciled hne hrefs hown
    refine ⟨hguar,?_,fun _ _ he => hdone.error he⟩
    intro o ho
    exact refuseIf_next (fun _ => hdone) fun hfailed => by rw [hmade o ho] at hfailed; cases hfailed

theorem settleLocalBranch_guards {observed : CommandOutput} (hm : Rely alone digest w s m) :
    Ends alone digest w (settleLocalBranch repository remote pullRequest digest observed)
      (Settled digest w pullRequest s) m := by
  unfold settleLocalBranch
  split
  case isTrue =>
    split
    case isTrue => exact .kept hm
    case isFalse hne =>
      refine Contract.Guards.bind (m := fun s' l => Settled digest w pullRequest s s' (.ok (some l))) ?_
        fun _ _ h => h
      apply (reconcileLocalDestination_guards hne hm).mono
      intro s' r hr
      cases r with
      | ok l => exact hr
      | error e => exact hr
  case isFalse =>
    split
    case isTrue =>
      refine (fetchExactBranchObject_reads _).next hm ?_ fun _ _ h _ => .stopped h
      rintro s₁ - h₁
      refine ensureSafeWorktree_reads.next h₁ ?_ fun _ _ h _ => .stopped h
      rintro s₂ - h₂
      apply run_next h₂
      intro m a s' hrely heffect
      cases heffect with
      | kept => exact ⟨⟨fun _ _ _ h => h,id,fun _ _ => rfl⟩,
          fun o _ => refuseIf_next (fun _ => .kept hrely) fun _ => .stopped hrely,fun _ _ _ => .stopped hrely⟩
      | created habsent hmade =>
        have hown := (own_move pullRequest.head.name none pullRequest.head.oid w).trans
          (congrArg₂ (· ++ ·) hrely.2.2.1 (if_pos rfl))
        have hdone : Settled digest w pullRequest s
            (m.move w pullRequest.head.name none pullRequest.head.oid) (.ok none) := .made hown
        exact ⟨move_guar (fun _ _ _ h => h) rfl (by rintro _ ⟨⟩),fun o _ => refuseIf_next
          (fun _ => hdone) fun _ => hdone.error (commandFailure_quiet _ _ _),fun _ _ he => hdone.error he⟩
    case isFalse => exact .stopped hm

/-- A checkout without an error leaves HEAD at the exact commit, and on the branch in a worktree that is
left alone. -/
structure Entered (alone : Prop) (digest : String → String) (w : W) (pullRequest : PullRequestSnapshot)
    (s s' : Repo W) (r : Except GitError (Option LocalBranchReconciliation)) : Prop where
  left : ∃ settled guessed,Left digest w pullRequest s s' settled guessed r
  entered : ∀ x,r = .ok x → s'.headOid w = some pullRequest.head.oid
  onBranch : alone → ∀ x,r = .ok x → s'.heads w = .symbolic (localRef pullRequest.head.name)

theorem Left.refused (h : Left digest w pullRequest s s' settled guessed (.error e)) :
    Entered alone digest w pullRequest s s' (.error e) :=
  ⟨⟨settled,guessed,h⟩,nofun,fun _ => nofun⟩

theorem Settled.refused (h : Settled digest w pullRequest s s' (.error e)) :
    Entered alone digest w pullRequest s s' (.error e) := by
  obtain ⟨settled,h⟩ := h
  exact h.refused

/-- A switch moves HEAD, or it moved nothing, or it made the branch where none was. -/
theorem switch_effect {branch : String} {a : NavAnswer} (h : Effect w m (.git (.switch branch)) a s') :
    (contract alone digest w).guar m s' ∧
      (∃ guessed,(guessed = [] ∨ ∃ oid,guessed = [⟨w,branch,none,oid⟩]) ∧
        s'.own w = m.own w ++ guessed ∧ Kept m s') ∧
      ∀ o,a.output = .ok o → o.isSuccess = true → s'.heads w = .symbolic (localRef branch) := by
  cases h with
  | kept hreports => exact ⟨⟨fun _ _ _ h => h,id,fun _ _ => rfl⟩,
      ⟨[],.inl rfl,(List.append_nil _).symm,fun _ _ _ h => h⟩,
      fun o ho hsuccess => absurd (of_decide_eq_true hsuccess) (hreports _ o rfl ho)⟩
  | switched => exact ⟨⟨fun _ _ _ h => h,id,fun _ _ => rfl⟩,
      ⟨[],.inl rfl,(List.append_nil _).symm,fun _ _ _ h => h⟩,fun _ _ _ => Function.update_self ..⟩
  | @guessed _ oid _ _ _ _ hmade =>
    have hown : (m.move w branch none oid).own w = m.own w ++ [⟨w,branch,none,oid⟩] := by
      rw [own_move,if_pos rfl]
    have hguar : (contract alone digest w).guar m (m.move w branch none oid) :=
      move_guar (fun _ _ _ h => h) rfl nofun
    have hkept : Kept m (m.move w branch none oid) := .move branch none oid
    rcases hmade with rfl | ⟨htold,rfl⟩
    · exact ⟨hguar,⟨_,.inr ⟨oid,rfl⟩,hown,hkept⟩,fun _ _ _ => Function.update_self ..⟩
    · exact ⟨hguar,⟨_,.inr ⟨oid,rfl⟩,hown,hkept⟩,
        fun o ho hsuccess => absurd (of_decide_eq_true hsuccess) (htold _ o rfl ho)⟩

theorem Left.guess {x : Option LocalBranchReconciliation}
    (h : Left digest w pullRequest s m settled [] (.ok x)) (hkept : Kept m s')
    (hguessed : guessed = [] ∨ ∃ oid,guessed = [⟨w,pullRequest.head.name,none,oid⟩])
    (hown : s'.own w = m.own w ++ guessed) : Left digest w pullRequest s s' settled guessed (.ok x) := by
  refine { h with own := ?_,moved := h.moved.imp_right ?_,guessed := hguessed.imp_right fun hg => ⟨hg,nofun⟩ }
  · rw [hown,h.own,List.append_nil]
  · rintro ⟨old,hne,hsettled,hbackup⟩
    exact ⟨old,hne,hsettled,fun oid hoid => hkept _ _ (backupRefOf_backup _ _) (hbackup oid hoid)⟩

theorem enterBranch_guards {x : Option LocalBranchReconciliation}
    (hm : Settled digest w pullRequest s m (.ok x)) :
    Ends alone digest w (enterBranch repository pullRequest x)
      (Entered alone digest w pullRequest s) m := by
  obtain ⟨settled,hm⟩ := hm
  have hstop : ∀ {s' : Repo W} {e : GitError},Rely alone digest w m s' → Quiet e →
      Entered alone digest w pullRequest s s' (.error e) := fun h he => ((hm.rely h).error he).refused
  refine read_next rfl (rely_refl m) ?_ fun _ _ h he => hstop h he
  intro s₁ verify h₁ _
  refine refuseIf_next ?_ fun _ => hstop h₁ (commandFailure_quiet _ _ _)
  intro _
  refine refuseIf_next ?_ fun _ => hstop h₁ (staleHead_quiet _)
  intro _
  refine ensureSafeWorktree_reads.next h₁ ?_ fun _ _ h he => hstop h he
  rintro s₂ - h₂
  apply run_next h₂
  intro m₃ a s₃ hrely heffect
  obtain ⟨hguar,⟨guessed,hguessed,hown,hkept⟩,hheads⟩ := switch_effect heffect
  have h₃ : Left digest w pullRequest s s₃ settled guessed (.ok x) := (hm.rely hrely).guess hkept hguessed hown
  refine ⟨hguar,?_,fun _ _ he => (h₃.error he).refused⟩
  intro switched hswitched
  refine refuseIf_next ?_ fun _ =>
    (h₃.error (by cases x <;> simp [Quiet,switchFailure,outputDetails])).refused
  intro hentered
  refine read_next rfl (rely_refl s₃) ?_ fun _ _ h he => ((h₃.rely h).error he).refused
  intro s₄ head h₄ hreports
  refine refuseIf_next ?_ fun _ => ((h₃.rely h₄).error (commandFailure_quiet _ _ _)).refused
  intro hsuccess
  refine refuseIf_next ?_ fun _ => ((h₃.rely h₄).error (staleHead_quiet _)).refused
  intro hsame
  refine ⟨⟨settled,guessed,h₃.rely h₄⟩,fun _ _ => ?_,fun ha _ _ => ?_⟩
  · have hcode : head.isSuccess = true := by simpa using hsuccess
    rw [hreports (of_decide_eq_true hcode),not_not.mp (of_decide_eq_false hsame)]
  · rw [h₄.2.2.2 ha]
    exact hheads switched hswitched (by simpa using hentered)

theorem checkoutExact_guards (s : Repo W) : Ends alone digest w
    (checkoutExact repository remote pullRequest digest) (Entered alone digest w pullRequest s) s := by
  have hstop : ∀ {s' : Repo W} {e : GitError},Rely alone digest w s s' →
      Entered alone digest w pullRequest s s' (.error e) := fun h => (Settled.stopped h).refused
  refine refuseIf_next ?_ fun _ => hstop (rely_refl s)
  intro _
  refine refuseIf_next ?_ fun _ => hstop (rely_refl s)
  intro _
  refine read_next rfl (rely_refl s) ?_ fun _ _ h _ => hstop h
  intro s₁ branchCheck h₁ _
  refine refuseIf_next ?_ fun _ => hstop h₁
  intro _
  refine (advertisedBranchOid_reads _).next h₁ ?_ fun _ _ h _ => hstop h
  intro s₂ advertised h₂
  refine refuseIf_next ?_ fun _ => hstop h₂
  intro _
  refine read_next rfl h₂ ?_ fun _ _ h _ => hstop h
  intro s₃ observed h₃ _
  refine Contract.Guards.bind (m := fun s' x => Settled digest w pullRequest s s' (.ok x)) ?_
    fun s' x h => enterBranch_guards h
  apply (settleLocalBranch_guards h₃).mono
  intro s' r hr
  cases r with
  | ok x => exact hr
  | error e => exact hr.refused

end Calls

section System

variable [DecidableEq W]

/-- The worktrees of a repository, each with the checkout that runs in it. -/
structure System (W : Type) where
  repo : Repo W
  calls : W → Option (Prog NavRequest NavAnswer (Except GitError (Option LocalBranchReconciliation)))

/-- A checkout begins, asks one request or dies, or somebody else changes the repository. -/
inductive System.Step (digest : String → String) (s : System W) : System W → Prop
  | call (w : W) (repository remote : String) (pullRequest : PullRequestSnapshot) :
      (∀ q k,s.calls w ≠ some (.ask q k)) → Step digest s { s with
        calls := Function.update s.calls w (some (checkoutExact repository remote pullRequest digest).run) }
  | request {w : W} {q : NavRequest} {k : NavAnswer → _} {a : NavAnswer} {repo : Repo W} :
      s.calls w = some (.ask q k) → Effect w s.repo q a repo →
      Step digest s ⟨repo,Function.update s.calls w (some (k a))⟩
  | died (w : W) : Step digest s { s with calls := Function.update s.calls w none }
  | others {repo : Repo W} : Kept s.repo repo → repo.moves = s.repo.moves →
      Step digest s { s with repo := repo }

/-- Every running checkout keeps its contract from here. -/
structure System.Inv (digest : String → String) (s : System W) : Prop where
  saved : Saved digest s.repo
  calls : ∀ w q k,s.calls w = some (.ask q k) → ∃ post,
    (contract False digest w).Guarded (Effect w) (.ask q k) post s.repo

theorem System.Inv.update {repo : Repo W} {calls : W → Option _} {c : Option _}
    (hsaved : Saved digest repo)
    (hother : ∀ w' ≠ w,∀ q k,calls w' = some (.ask q k) → ∃ post,
      (contract False digest w').Guarded (Effect w') (.ask q k) post repo)
    (hown : ∀ q k,c = some (.ask q k) → ∃ post,(contract False digest w).Guarded (Effect w) (.ask q k) post repo) :
    System.Inv digest ⟨repo,Function.update calls w c⟩ := by
  refine ⟨hsaved,?_⟩
  intro w' q k hcall
  change Function.update calls w c w' = _ at hcall
  by_cases hw : w' = w
  · subst hw
    rw [Function.update_self] at hcall
    exact hown q k hcall
  · rw [Function.update_of_ne hw] at hcall
    exact hother w' hw q k hcall

theorem System.Inv.step {s s' : System W} (hs : s.Inv digest) (h : s.Step digest s') :
    s'.Inv digest ∧ Kept s.repo s'.repo := by
  cases h with
  | call w repository remote pullRequest _ =>
    refine ⟨.update hs.saved (fun w' _ => hs.calls w') ?_,fun _ _ _ h => h⟩
    intro q k hcall
    have hguards : (contract False digest w).Guarded (Effect w)
        (checkoutExact repository remote pullRequest digest).run (Entered False digest w pullRequest s.repo)
        s.repo := checkoutExact_guards s.repo
    rw [Option.some.inj hcall] at hguards
    exact ⟨_,hguards⟩
  | request hcall heffect =>
    obtain ⟨post,hguarded⟩ := hs.calls _ _ _ hcall
    obtain ⟨⟨hkept,hsaved,hothers⟩,hrest⟩ := hguarded.advance (rely_refl s.repo) heffect
    refine ⟨.update (hsaved hs.saved) ?_ ?_,hkept⟩
    · intro w' hw q' k' hcall'
      obtain ⟨post',hguarded'⟩ := hs.calls w' q' k' hcall'
      exact ⟨post',hguarded'.stable ⟨hkept,hsaved,hothers w' hw,False.elim⟩⟩
    · intro q' k' hcall'
      exact ⟨post,Option.some.inj hcall' ▸ hrest⟩
  | died w =>
    exact ⟨.update hs.saved (fun w' _ => hs.calls w') (by rintro _ _ ⟨⟩),fun _ _ _ h => h⟩
  | @others repo hkept hmoves =>
    have hsaved : Saved digest s.repo → Saved digest repo := by
      intro hsaved m hm old hold
      rw [hmoves] at hm
      exact hkept _ _ (backupRefOf_backup _ _) (hsaved m hm old hold)
    refine ⟨⟨hsaved hs.saved,?_⟩,hkept⟩
    intro w q k hcall
    obtain ⟨post,hguarded⟩ := hs.calls w q k hcall
    exact ⟨post,hguarded.stable ⟨hkept,hsaved,congrArg (List.filter _) hmoves,False.elim⟩⟩

end System

end Navigation
end Cara
