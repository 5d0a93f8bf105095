import Cara.Lib.Guard
import Cara.Sync.NativeRequests

/-! What a drain does to the durable checkpoint of its Stack. Any fact about a checkpoint that
every phase hands on holds of the file after each request and of everything submitted. -/
namespace Cara
namespace Sync

open Github (StackLandCheckpoint StackAsyncMergePlan StackEntryGeneration StackGeneration
  StackLandPhase firstOpen)
open RequiredRuns (RequiredContextsRead)
open Prog (Gives Meets Only Uses Run)

/-- Every selected entry was read while it still qualifies. -/
def Qualified (status : StatusOutput) (log : Log) (entries : List StackEntryGeneration) : Prop :=
  ∀ entry ∈ entries,∃ snapshot,
    (SyncRequest.refetchPullRequest status.repository entry.pr,SyncAnswer.pullRequest snapshot) ∈ log ∧
      entryQualifies (heldCaravanMembers status) entry snapshot = true

/-- The plan selects the first open entries of a generation that this process read. -/
def FreshPlan (stackNumber : ℕ) (log : Log) (plan : StackAsyncMergePlan) : Prop :=
  plan.selected ≠ [] ∧ ∃ repository generation count,
    (SyncRequest.nativeStackGeneration repository stackNumber,SyncAnswer.generation (some generation)) ∈ log ∧
      plan.before = generation ∧ plan.selected = (generation.topology.entries.drop
        ((firstOpen generation.topology.entries).getD generation.topology.entries.length)).take count

section Closed

variable (w : SyncWire) (status : StatusOutput)

structure LandClosed (G : Log → StackLandCheckpoint → Prop) : Prop where
  mono : ∀ log log' c,log <+: log' → G log c → G log' c
  locked : ∀ log c c',c.phase = .planned → G log c →
    Returns (Github.nativeStackLandLock w.toWire status.repository c) c' → G log c'
  marked : ∀ log c c',c.phase = .locked → G log c → Qualified status log c.plan.selected →
    Github.nativeStackLandMarkSubmitting w.toWire status.repository c = .ok c' → G log c'
  moved : ∀ log c c',StackLandPhase.submitting.rank ≤ c.phase.rank → G log c → c'.plan = c.plan →
    G log c'

end Closed

/-- The file of a key, when it exists, and everything submitted since then have the fact. -/
structure FileKept (key : String) (held : Prop) (since : Log)
    (G : Log → StackLandCheckpoint → Prop) (s : Site) : Prop where
  file : ∀ c,s.files key = some c → G s.log c
  held : held → (s.files key).isSome = true
  submitted : ∃ rows,s.log = since ++ rows ∧ ∀ repository c answer,
    (SyncRequest.nativeStackLandSubmit repository c,answer) ∈ rows → G s.log c

def NotSubmit : SyncRequest → Prop
  | .nativeStackLandSubmit .. => False
  | _ => True

section Kept

variable {w : SyncWire} {status : StatusOutput} {G : Log → StackLandCheckpoint → Prop} {key : String}
  {held : Prop} {since : Log} {s s' : Site}

theorem FileKept.grow (h : FileKept key held since G s) (hclosed : LandClosed w status G)
    (hfiles : s'.files = s.files) (hlog : Grew NotSubmit s.log s'.log) : FileKept key held since G s' := by
  have hmono : ∀ c,G s.log c → G s'.log c := fun c => hclosed.mono _ _ c hlog.isPrefix
  refine ⟨?_,?_,?_⟩
  · rw [hfiles]
    exact fun c hc => hmono c (h.file c hc)
  · rw [hfiles]
    exact h.held
  · obtain ⟨before,hbefore,hsubmitted⟩ := h.submitted
    obtain ⟨rows,hrows,hquiet⟩ := hlog
    refine ⟨before ++ rows,by rw [hrows,hbefore,List.append_assoc],?_⟩
    intro repository c answer hrow
    obtain hrow | hrow := List.mem_append.mp hrow
    · exact hmono c (hsubmitted repository c answer hrow)
    · exact absurd (hquiet _ hrow) (by simp [NotSubmit])

theorem saves_notSubmit {key : String} {c : StackLandCheckpoint} (q : SyncRequest)
    (h : Saves key c q) : NotSubmit q := by
  obtain h | h := h <;> rw [h] <;> trivial

/-- A saved checkpoint with the fact keeps the file, whether or not the save was refused. -/
theorem FileKept.saveNative (h : FileKept key held since G s) (hclosed : LandClosed w status G)
    {c : StackLandCheckpoint} (hc : G s.log c) :
    Gives (Site.Step w.toWire) Free (saveNative key c)
      (fun s' _ => FileKept key held since G s' ∧ G s'.log c) (fun s' _ => FileKept key held since G s') s := by
  have hwritten : ∀ s',s'.files = Function.update s.files key (some c) →
      Grew (Saves key c) s.log s'.log → FileKept key held since G s' ∧ G s'.log c := by
    intro s' hfiles hlog
    have hquiet := hlog.mono saves_notSubmit
    have hnow := hclosed.mono _ _ c hlog.isPrefix hc
    have hbefore : FileKept key held since G ⟨s.files,s'.log⟩ := h.grow hclosed rfl hquiet
    refine ⟨⟨?_,?_,hbefore.submitted⟩,hnow⟩
    · intro c' hc'
      rw [hfiles,Function.update_self] at hc'
      cases hc'
      exact hnow
    · intro _
      rw [hfiles,Function.update_self]
      rfl
  apply gives_saveNative trivial (fun _ _ _ => trivial) hwritten
  intro s' _ hfiles hlog
  obtain hfiles | hfiles := hfiles
  · exact h.grow hclosed hfiles (hlog.mono saves_notSubmit)
  · exact (hwritten s' hfiles hlog).1

theorem reading_frame {w : SyncWire} {s s' : Site} {q : SyncRequest} {a : SyncAnswer} (hq : Reading q)
    (h : Site.Step w.toWire s q a s') : s'.files = s.files ∧ Grew NotSubmit s.log s'.log := by
  have hfiles := h.files
  have hlog := h.log
  cases q <;> first | exact ⟨hfiles,.single hlog trivial⟩ | cases hq

/-- Reads and comments keep the file and whatever else the conversation so far shows. -/
theorem FileKept.reading {α : Type} {m : SyncM α} (h : FileKept key held since G s)
    (hclosed : LandClosed w status G) (hm : Uses Reading m) {J : Log → Prop}
    (hmono : ∀ log log',log <+: log' → J log → J log') (hJ : J s.log) (p : SyncProgress) :
    Meets (Site.Step w.toWire) Free m (fun s' _ _ => FileKept key held since G s' ∧ J s'.log)
      (fun s' _ => FileKept key held since G s') s p := by
  apply (hm.keeps (I := fun s => FileKept key held since G s ∧ J s.log) (fun _ _ _ _ => trivial) ?_
    ⟨h,hJ⟩ p).mono
  · exact fun _ _ _ h => h
  · exact fun _ _ h => h.1
  · intro s q a s' hq hstep hs
    obtain ⟨hfiles,hlog⟩ := reading_frame hq hstep
    exact ⟨hs.1.grow hclosed hfiles hlog,hmono _ _ hlog.isPrefix hs.2⟩

end Kept

section Ready

variable {w : SyncWire} {status : StatusOutput} {s : Site} {p : SyncProgress}

theorem meets_ask {α : Type} {request : SyncRequest} {affectedPr : Option PrNumber}
    {value : SyncAnswer → Option α} {post : Site → α → SyncProgress → Prop}
    (h : ∀ a s' r,s'.log = s.log ++ [(request,a)] → value a = some r → post s' r p) :
    Meets (Site.Step w.toWire) Free (ask request affectedPr value) post (fun _ _ => True) s p := by
  apply Meets.lift
  apply gives_call trivial
  · exact fun a s' r hstep _ _ hvalue => h a s' r hstep.log hvalue
  · exact fun _ _ _ _ => trivial

/-- Whatever a program of its own state does, the conversation only grows. -/
theorem meets_grown {α : Type} (m : SyncM α) (s : Site) (p : SyncProgress) :
    Meets (Site.Step w.toWire) Free m (fun s' _ _ => s.log <+: s'.log) (fun s' _ => s.log <+: s'.log)
      s p := by
  apply (Uses.all m).keeps (I := fun s' : Site => s.log <+: s'.log) (fun _ _ _ _ => trivial) ?_
    List.prefix_rfl p
  intro s₁ q a s₂ _ hstep hgrown
  exact hgrown.trans (hstep.log ▸ List.prefix_append _ _)

theorem meets_logged {α : Type} {m : SyncM α} {post : Site → α → SyncProgress → Prop}
    {bad : Site → SyncError → Prop} (h : Meets (Site.Step w.toWire) Free m post bad s p) :
    Meets (Site.Step w.toWire) Free m (fun s' a p => s.log <+: s'.log ∧ post s' a p)
      (fun s' e => s.log <+: s'.log ∧ bad s' e) s p := (meets_grown m s p).and h

theorem meets_true {α : Type} (m : SyncM α) (s : Site) (p : SyncProgress) :
    Meets (Site.Step w.toWire) Free m (fun _ _ _ => True) (fun _ _ => True) s p :=
  (meets_grown m s p).mono (fun _ _ _ _ => trivial) fun _ _ _ => trivial

theorem refetchCiSnapshot_read (number : PrNumber) :
    Meets (Site.Step w.toWire) Free (refetchCiSnapshot status.repository number) (fun s' current _ =>
      (SyncRequest.refetchPullRequest status.repository number,SyncAnswer.pullRequest current) ∈ s'.log)
      (fun _ _ => True) s p := by
  apply Meets.bind (K := fun _ _ _ => True) (meets_true _ s p)
  intro s expected p _
  apply Meets.bind (K := fun s' observed _ =>
    (SyncRequest.refetchPullRequest status.repository number,SyncAnswer.pullRequest observed) ∈ s'.log)
  · apply meets_ask
    intro a s' observed hlog hvalue
    have hanswer : a = .pullRequest observed := by
      cases a <;> simp_all [SyncAnswer.pullRequest?]
    rw [hlog,hanswer]
    simp
  intro s observed p hread
  dsimp only
  split
  · apply Meets.bind (K := fun s' _ _ => (SyncRequest.refetchPullRequest status.repository number,
      SyncAnswer.pullRequest observed) ∈ s'.log)
    · exact Meets.modify hread
    · exact fun s _ p hread => Meets.pure hread
  · exact Meets.throw trivial

/-- The entries are found ready only after each was read while it qualifies. -/
theorem selectedReady_qualified (caravanKey : PrNumber) (policy : RequiredContextsRead)
    (entries : List StackEntryGeneration) (s : Site) (p : SyncProgress) :
    Meets (Site.Step w.toWire) Free
      (selectedReady status caravanKey policy (heldCaravanMembers status) entries)
      (fun s' ready _ => ready = true → Qualified status s'.log entries) (fun _ _ => True) s p := by
  induction entries generalizing s p with
  | nil => exact Meets.pure fun _ entry hentry => by cases hentry
  | cons entry entries ih =>
    apply Meets.bind (refetchCiSnapshot_read entry.pr)
    intro s current p hread
    split
    case isFalse => exact Meets.pure fun h => by cases h
    case isTrue hqualifies =>
      refine Meets.mono (meets_logged (?_ : Meets _ _ _ (fun s' ready _ => ready = true →
        Qualified status s'.log entries) (fun _ _ => True) s p)) ?_ (fun _ _ _ => trivial)
      · apply Meets.bind (K := fun _ _ _ => True) (meets_true _ s p)
        intro s assessment p _
        apply Meets.bind (K := fun _ _ _ => True) (Meets.modify trivial)
        intro s _ p _
        split
        · exact ih s p
        · exact Meets.pure fun h => by cases h
      · intro s' ready _ h hready e he
        obtain he | he := List.mem_cons.mp he
        · rw [he]
          exact ⟨current,h.1.subset hread,hqualifies⟩
        · exact h.2 hready e he

theorem nativeRequiredReady_qualified (plan : StackAsyncMergePlan) (s : Site) (p : SyncProgress) :
    Meets (Site.Step w.toWire) Free (nativeRequiredReady status plan)
      (fun s' ready _ => ready = true → Qualified status s'.log plan.selected) (fun _ _ => True) s p := by
  apply Meets.bind (K := fun _ _ _ => True) (Meets.get trivial)
  intro s progress p _
  dsimp only
  split
  · exact Meets.pure fun h => by cases h
  · apply Meets.bind (K := fun _ _ _ => True) (meets_true _ s p)
    intro s policy p _
    split
    · exact Meets.pure fun h => by cases h
    · apply Meets.bind (selectedReady_qualified _ policy plan.selected s p)
      intro s ready p hready
      split
      case isFalse => exact Meets.pure fun h => by cases h
      case isTrue hyes =>
        apply (meets_grown _ s p).mono
        · intro s' _ _ hgrown _ entry hentry
          obtain ⟨snapshot,hread,hqualifies⟩ := hready hyes entry hentry
          exact ⟨snapshot,hgrown.subset hread,hqualifies⟩
        · exact fun _ _ _ => trivial

end Ready

section Phases

variable {w : SyncWire} {status : StatusOutput} {G : Log → StackLandCheckpoint → Prop} {key : String}
  {held : Prop} {since : Log}

/-- The file is kept, and the checkpoint in hand, if any, has the fact. -/
def InHand (key : String) (held : Prop) (since : Log) (G : Log → StackLandCheckpoint → Prop) (s : Site)
    (next : Option StackLandCheckpoint) : Prop :=
  FileKept key held since G s ∧ ∀ c,next = some c → G s.log c

theorem inHand_pure {s : Site} {p : SyncProgress} {c : StackLandCheckpoint}
    (h : FileKept key held since G s ∧ G s.log c) :
    Meets (Site.Step w.toWire) Free (pure (some c) : SyncM (Option StackLandCheckpoint))
      (fun s' next _ => InHand key held since G s' next) (fun s' _ => FileKept key held since G s') s p :=
  Meets.pure ⟨h.1,fun c' hc' => by cases hc'; exact h.2⟩

theorem inHand_none {s : Site} {p : SyncProgress} (h : FileKept key held since G s) :
    Meets (Site.Step w.toWire) Free (pure none : SyncM (Option StackLandCheckpoint))
      (fun s' next _ => InHand key held since G s' next) (fun s' _ => FileKept key held since G s') s p :=
  Meets.pure ⟨h,fun c hc => by cases hc⟩

theorem keepWaiting_kept {s : Site} (p : SyncProgress) (h : FileKept key held since G s) (caravan : Caravan)
    (checkpoint : StackLandCheckpoint) (reason : String) :
    Meets (Site.Step w.toWire) Free (keepWaiting caravan checkpoint reason)
      (fun s' next _ => InHand key held since G s' next) (fun s' _ => FileKept key held since G s') s p := by
  apply Meets.bind (K := fun s' _ _ => FileKept key held since G s') (Meets.modify h)
  intro s _ p h
  apply Meets.bind (K := fun s' _ _ => FileKept key held since G s') (Meets.modify h)
  exact fun s _ p h => inHand_none h

/-- A landing call that is no submission, or submits a checkpoint with the fact. -/
theorem landCall_kept (hclosed : LandClosed w status G) {s : Site} (p : SyncProgress)
    (h : FileKept key held since G s) {request : SyncRequest} {c : StackLandCheckpoint}
    {call : Github.Io Github.StackLandError StackLandCheckpoint}
    (hrow : landing? w.toWire request = some (c,call)) (hc : G s.log c)
    (hnext : ∀ log c',G log c → c'.plan = c.plan → Returns call c' → G log c') :
    Meets (Site.Step w.toWire) Free (landCall request >>= fun c' => pure (some c'))
      (fun s' next _ => InHand key held since G s' next) (fun s' _ => FileKept key held since G s') s p := by
  have hkept : ∀ s' answer,s'.files = s.files → s'.log = s.log ++ [(request,answer)] →
      FileKept key held since G s' ∧ G s'.log c := by
    intro s' answer hfiles hlog
    have hmono : ∀ c,G s.log c → G s'.log c :=
      fun c => hclosed.mono _ _ c (hlog ▸ List.prefix_append _ _)
    refine ⟨⟨?_,?_,?_⟩,hmono c hc⟩
    · rw [hfiles]
      exact fun c' hc' => hmono c' (h.file c' hc')
    · rw [hfiles]
      exact h.held
    · obtain ⟨before,hbefore,hsubmitted⟩ := h.submitted
      refine ⟨before ++ [(request,answer)],by rw [hlog,hbefore,List.append_assoc],?_⟩
      intro repository c' answer' hmem
      obtain hmem | hmem := List.mem_append.mp hmem
      · exact hmono c' (hsubmitted repository c' answer' hmem)
      · have hrequest : SyncRequest.nativeStackLandSubmit repository c' = request :=
          congrArg Prod.fst (List.mem_singleton.mp hmem)
        rw [← hrequest] at hrow
        cases hrow
        exact hmono _ hc
  apply Meets.bind (K := fun s' c' _ => FileKept key held since G s' ∧ G s'.log c')
  · apply Meets.lift
    apply gives_landCall hrow trivial
    · intro s' c' hfiles hlog hplan hreturns
      obtain ⟨hfile,hc⟩ := hkept s' _ hfiles hlog
      exact ⟨hfile,hnext _ c' hc hplan hreturns⟩
    · exact fun a s' e hfiles hlog => (hkept s' a hfiles hlog).1
  · exact fun s c' p h => inHand_pure h

theorem marked_plan {repository : RepositoryId} {c c' : StackLandCheckpoint}
    (h : Github.nativeStackLandMarkSubmitting w.toWire repository c = .ok c') : c'.plan = c.plan := by
  obtain ⟨_,_,h⟩ := Guard.bind_eq_ok.mp h
  split at h
  · cases h
    rfl
  · split at h
    · cases h
    · cases h
      rfl

theorem abandoned_plan {repository : RepositoryId} {c c' : StackLandCheckpoint}
    (h : Github.nativeStackLandAbandonUncertainSubmission w.toWire repository c = .ok c') :
    c'.plan = c.plan := by
  obtain ⟨_,_,h⟩ := Guard.bind_eq_ok.mp h
  split at h
  · cases h
  · cases h
    rfl

theorem gives_landResult {α : Type} {step : Site → SyncRequest → SyncAnswer → Site → Prop}
    {ok : Site → SyncRequest → Prop} {r : Except Github.StackLandError α} {post : Site → α → Prop}
    {bad : Site → SyncError → Prop} {s : Site} (h : ∀ a,r = .ok a → post s a) (hbad : ∀ e,bad s e) :
    Gives step ok (landResult w.toWire r) post bad s := by
  unfold landResult
  apply Gives.ofResult
  · intro a ha
    cases r with
    | ok b =>
      cases ha
      exact h a rfl
    | error e => cases ha
  · exact fun e _ => hbad e

theorem landPhase_kept (hclosed : LandClosed w status G) {s : Site} (p : SyncProgress)
    (h : FileKept key held since G s) (caravan : Caravan) (markedNow : Bool) {c : StackLandCheckpoint}
    (hc : G s.log c) :
    Meets (Site.Step w.toWire) Free (landPhase w status caravan markedNow c)
      (fun s' next _ => InHand key held since G s' next) (fun s' _ => FileKept key held since G s') s p := by
  have hlate : StackLandPhase.submitting.rank ≤ c.phase.rank →
      ∀ log c',G log c → c'.plan = c.plan → G log c' := fun hrank log c' => hclosed.moved log c c' hrank
  have hmono : ∀ log log',log <+: log' → G log c → G log' c := fun log log' => hclosed.mono log log' c
  unfold landPhase
  cases hphase : c.phase
  case planned =>
    apply Meets.bind (h.reading hclosed (nativeRequiredReady_uses status c.plan) hmono hc p)
    intro s ready p h
    split
    · apply landCall_kept hclosed p h.1 (c := c) rfl h.2
      exact fun log c' hc _ hreturns => hclosed.locked log c c' hphase hc hreturns
    · exact keepWaiting_kept p h.1 caravan c _
  case locked =>
    apply Meets.bind (h.reading hclosed (auditSelected_uses w status c _) hmono hc p)
    intro s _ p h
    apply Meets.bind ((h.1.reading hclosed (nativeRequiredReady_uses status c.plan) hmono h.2 p).and
      (nativeRequiredReady_qualified c.plan s p) |>.mono (fun _ _ _ h => h) fun _ _ h => h.1)
    intro s ready p h
    split
    case isTrue hready =>
      apply Meets.bind (K := fun s' c' _ => FileKept key held since G s' ∧ G s'.log c')
      · apply Meets.lift
        apply gives_landResult
        · exact fun c' hmarked =>
            ⟨h.1.1,hclosed.marked _ c c' hphase h.1.2 (h.2 hready) hmarked⟩
        · exact fun e => h.1.1
      · exact fun s c' p h => inHand_pure h
    · exact keepWaiting_kept p h.1.1 caravan c _
  case submitting =>
    have hrank : StackLandPhase.submitting.rank ≤ c.phase.rank := by rw [hphase]
    dsimp only
    split
    · apply landCall_kept hclosed p h (c := c) rfl hc
      exact fun log c' hc hplan _ => hlate hrank log c' hc hplan
    · apply Meets.bind (K := fun s' c' _ => FileKept key held since G s' ∧ G s'.log c')
      · apply Meets.lift
        apply gives_landResult
        · exact fun c' habandoned => ⟨h,hlate hrank _ c' hc (abandoned_plan habandoned)⟩
        · exact fun e => h
      · exact fun s c' p h => inHand_pure h
  case submitted =>
    have hrank : StackLandPhase.submitting.rank ≤ c.phase.rank := by rw [hphase]; decide
    apply landCall_kept hclosed p h (c := c) rfl hc
    exact fun log c' hc hplan _ => hlate hrank log c' hc hplan
  case terminal =>
    have hrank : StackLandPhase.submitting.rank ≤ c.phase.rank := by rw [hphase]; decide
    apply landCall_kept hclosed p h (c := c) rfl hc
    exact fun log c' hc hplan _ => hlate hrank log c' hc hplan
  case released => exact inHand_pure ⟨h,hc⟩

theorem landPhases_kept (hclosed : LandClosed w status G) (caravan : Caravan) (stackNumber : ℕ)
    (rounds : ℕ) (markedNow : Bool) {c : StackLandCheckpoint} {s : Site} (p : SyncProgress)
    (h : FileKept (landKey stackNumber) held since G s) (hc : G s.log c) :
    Meets (Site.Step w.toWire) Free (landPhases w status caravan stackNumber rounds markedNow c)
      (fun s' next _ => InHand (landKey stackNumber) held since G s' next)
      (fun s' _ => FileKept (landKey stackNumber) held since G s') s p := by
  induction rounds generalizing markedNow c s p with
  | zero => exact inHand_pure ⟨h,hc⟩
  | succ rounds ih =>
    unfold landPhases
    split
    · exact inHand_pure ⟨h,hc⟩
    · apply Meets.bind (landPhase_kept hclosed p h caravan markedNow hc)
      intro s next p h
      cases next with
      | none => exact inHand_none h.1
      | some next =>
        apply Meets.bind (K := fun s' _ _ => FileKept (landKey stackNumber) held since G s' ∧ G s'.log next)
        · exact Meets.lift (h.1.saveNative hclosed (h.2 next rfl))
        intro s _ p h
        dsimp only
        split
        · exact inHand_pure h
        · split
          · apply Meets.bind (K := fun s' _ _ => FileKept (landKey stackNumber) held since G s' ∧
              G s'.log next) (Meets.modify h)
            exact fun s _ p h => ih _ p h.1 h.2
          · exact ih _ p h.1 h.2

end Phases

section Drain

variable {w : SyncWire} {status : StatusOutput} {G : Log → StackLandCheckpoint → Prop} {held : Prop} {since : Log}
  {stackNumber : ℕ}

theorem concludeLanding_uses {allowed : SyncRequest → Prop} (stackNumber : ℕ)
    (checkpoint : StackLandCheckpoint) : Uses allowed (concludeLanding stackNumber checkpoint) := by
  apply Uses.bind (Uses.modify _)
  intro _
  split
  · exact Uses.pure _
  · split
    · exact Uses.modify _
    all_goals exact Uses.throw _

theorem evidenceMismatch_none {entries : List StackEntryGeneration}
    {items : List Github.StackMergeEntryEvidence} {index : ℕ} (hlength : items.length = entries.length)
    (h : Github.evidenceMismatch entries items index = none) :
    items.map (·.generation) = entries := by
  induction entries generalizing items index with
  | nil =>
    rw [List.length_eq_zero_iff.mp hlength]
    rfl
  | cons entry entries ih =>
    cases items with
    | nil => cases hlength
    | cons item items =>
      unfold Github.evidenceMismatch at h
      split at h
      case isTrue hsame =>
        rw [List.map_cons,ih (Nat.succ.inj hlength) h,← hsame]
      · cases h

theorem selectPrefix_take (stack : StackGeneration) (items : List Github.StackMergeEntryEvidence) :
    ∃ count,(Github.selectPrefix stack items).1 = (items.map (·.generation)).take count := by
  induction items with
  | nil => exact ⟨0,rfl⟩
  | cons item items ih =>
    obtain ⟨count,hcount⟩ := ih
    unfold Github.selectPrefix
    split
    · exact ⟨count + 1,by rw [List.map_cons,List.take_succ_cons,← hcount]⟩
    · exact ⟨0,rfl⟩

/-- The ready prefix is the first open entries of the generation it was planned from. -/
theorem readyPrefix_selected {stack : StackGeneration} {evidence : List Github.StackMergeEntryEvidence}
    {ready : Github.StackReadyPrefix}
    (h : Github.planGithubStackReadyPrefix stack evidence = .ok ready) :
    ready.stack = stack ∧ ∃ count,ready.selected = (stack.topology.entries.drop
      ((firstOpen stack.topology.entries).getD stack.topology.entries.length)).take count := by
  unfold Github.planGithubStackReadyPrefix at h
  split at h
  · cases h
  case isFalse hlength =>
    split at h
    · cases h
    case h_2 hnone =>
      cases h
      have hevidence := evidenceMismatch_none (not_not.mp hlength) hnone
      obtain ⟨count,hcount⟩ := selectPrefix_take stack (evidence.drop
        ((firstOpen stack.topology.entries).getD stack.topology.entries.length))
      refine ⟨rfl,count,hcount.trans ?_⟩
      rw [List.map_drop,hevidence]

theorem directSquashPlan_ok {ready : Github.StackReadyPrefix} {operationId actor : String}
    {plan : StackAsyncMergePlan} (h : ready.directSquashPlan operationId actor = .ok plan) :
    plan.before = ready.stack ∧ plan.selected = ready.selected ∧ ready.selected ≠ [] := by
  unfold Github.StackReadyPrefix.directSquashPlan at h
  split at h
  · cases h
  case isFalse hsome =>
    cases h
    exact ⟨rfl,rfl,hsome⟩

theorem mergeResult_meets {α : Type} {r : Except Github.StackMergeError α} {s : Site}
    {p : SyncProgress} {post : Site → α → SyncProgress → Prop} {bad : Site → SyncError → Prop}
    (h : ∀ a,r = .ok a → post s a p) (hbad : ∀ e,bad s e) :
    Meets (Site.Step w.toWire) Free (mergeResult w r) post bad s p := by
  apply Meets.lift
  apply Gives.ofResult
  · intro a ha
    cases r with
    | ok b =>
      cases ha
      exact h a rfl
    | error e => cases ha
  · exact fun e _ => hbad e

/-- A plan begun by this process is of the generation it just read. -/
theorem beginLanding_kept (hclosed : LandClosed w status G) {s : Site} (p : SyncProgress)
    (h : FileKept (landKey stackNumber) held since G s) (caravan : Caravan) (reviewedBy : String)
    (hfresh : ∀ log c,FreshPlan stackNumber log c.plan → G log c) :
    Meets (Site.Step w.toWire) Free (beginLanding w status caravan stackNumber reviewedBy)
      (fun s' next _ => InHand (landKey stackNumber) held since G s' next)
      (fun s' _ => FileKept (landKey stackNumber) held since G s') s p := by
  have hwait : ∀ {s : Site} (p : SyncProgress) (m : SyncM Unit),FileKept (landKey stackNumber) held since G s →
      Uses Reading m → Meets (Site.Step w.toWire) Free (m >>= fun _ => pure none)
        (fun s' (next : Option StackLandCheckpoint) _ => InHand (landKey stackNumber) held since G s' next)
        (fun s' _ => FileKept (landKey stackNumber) held since G s') s p := by
    intro s p m h hm
    apply Meets.bind (h.reading hclosed hm (J := fun _ => True) (fun _ _ _ _ => trivial) trivial p)
    exact fun s _ p h => inHand_none h.1
  have hrecord : ∀ blocked,Uses Reading (recordNativeStackWait caravan stackNumber blocked) :=
    fun blocked => Uses.bind (recordMergeWait_uses _ _ _) fun _ => Uses.modify _
  unfold beginLanding
  dsimp only
  apply Meets.bind (K := fun s' _ _ => FileKept (landKey stackNumber) held since G s') (Meets.get h)
  intro s progress p h
  split
  · exact hwait p _ h (hrecord _)
  · let Read (s : Site) (stack : StackGeneration) : Prop :=
      (SyncRequest.nativeStackGeneration status.repository stackNumber,
        SyncAnswer.generation (some stack)) ∈ s.log
    apply Meets.bind (K := fun s' stack _ => FileKept (landKey stackNumber) held since G s' ∧
      ∀ generation,stack = some generation → Read s' generation)
    · apply Meets.lift
      apply gives_call trivial
      · intro a s' stack hstep hfiles _ hvalue
        have hlog := hstep.log
        refine ⟨h.grow hclosed hfiles (.single hlog trivial),?_⟩
        intro generation hgeneration
        have hanswer : a = .generation stack := by
          cases a <;> simp_all [generation?]
        show (_,_) ∈ s'.log
        rw [hlog,hanswer,hgeneration]
        simp
      · exact fun a s' e hstep => h.grow hclosed hstep.files (.single hstep.log trivial)
    intro s stack p h
    cases stack with
    | none => exact Meets.throw h.1
    | some stack =>
      have hread : Read s stack := h.2 stack rfl
      apply Meets.bind (K := fun s' ready _ => FileKept (landKey stackNumber) held since G s' ∧ Read s' stack ∧
        ready.stack = stack ∧ ∃ count,ready.selected = (stack.topology.entries.drop
          ((firstOpen stack.topology.entries).getD stack.topology.entries.length)).take count)
      · apply Meets.bind (K := fun s' _ _ => FileKept (landKey stackNumber) held since G s' ∧ Read s' stack)
          (Meets.get ⟨h.1,hread⟩)
        intro s progress p h
        apply mergeResult_meets
        · exact fun ready hready => ⟨h.1,h.2,readyPrefix_selected hready⟩
        · exact fun _ => h.1
      intro s ready p h
      obtain ⟨hkept,hread,hstack,count,hselected⟩ := h
      split
      · exact inHand_none hkept
      · exact hwait p _ hkept (hrecord _)
      · split
        · exact hwait p _ hkept (recordMergeWait_uses _ _ _)
        · apply Meets.bind (K := fun s' _ _ => FileKept (landKey stackNumber) held since G s' ∧ Read s' stack)
            (Meets.get ⟨hkept,hread⟩)
          intro s progress p h
          apply Meets.bind (K := fun s' plan _ => FileKept (landKey stackNumber) held since G s' ∧
            FreshPlan stackNumber s'.log plan)
          · apply mergeResult_meets
            · intro plan hplan
              obtain ⟨hbefore,hsame,hsome⟩ := directSquashPlan_ok hplan
              refine ⟨h.1,hsame ▸ hsome,status.repository,stack,count,h.2,hbefore.trans hstack,?_⟩
              rw [hsame,hselected]
            · exact fun _ => h.1
          intro s plan p h
          have hbegin : (Github.nativeStackLandBegin w.toWire status.repository plan).plan = plan := rfl
          apply Meets.bind (K := fun s' _ _ => FileKept (landKey stackNumber) held since G s' ∧
            G s'.log (Github.nativeStackLandBegin w.toWire status.repository plan))
          · exact Meets.lift (h.1.saveNative hclosed (hfresh _ _ (hbegin ▸ h.2)))
          · exact fun s _ p h => inHand_pure h

/-- The drain of a Stack keeps its file. It plans afresh only when there was no file. -/
theorem drainNativeStack_kept (hclosed : LandClosed w status G) {s : Site} (p : SyncProgress)
    (h : FileKept (landKey stackNumber) held since G s) (caravan : Caravan) (config : Config.CaravanConfig)
    (hfresh : s.files (landKey stackNumber) = none → ∀ log c,FreshPlan stackNumber log c.plan → G log c) :
    Meets (Site.Step w.toWire) Free (drainNativeStack w status caravan stackNumber config)
      (fun s' _ _ => FileKept (landKey stackNumber) held since G s')
      (fun s' _ => FileKept (landKey stackNumber) held since G s') s p := by
  apply Meets.bind (K := fun s' next _ => InHand (landKey stackNumber) held since G s' next)
  · apply Meets.bind (K := fun s' stored _ => FileKept (landKey stackNumber) held since G s' ∧
      s'.files = s.files ∧ stored = s.files (landKey stackNumber))
    · apply Meets.lift
      apply gives_load trivial
      · intro s' hfiles hlog
        exact ⟨h.grow hclosed hfiles (hlog.mono fun q hq => by rw [hq]; trivial),hfiles,rfl⟩
      · intro s' e hfiles hlog
        exact h.grow hclosed hfiles (hlog.mono fun q hq => by rw [hq]; trivial)
    intro s' stored p h'
    obtain ⟨hkept,hfiles,hstored⟩ := h'
    cases stored with
    | some c =>
      dsimp only
      split
      · exact Meets.throw hkept
      · exact inHand_pure ⟨hkept,hkept.file c (by rw [hfiles]; exact hstored.symm)⟩
    | none => exact beginLanding_kept hclosed p hkept caravan _ (hfresh hstored.symm)
  intro s next p h
  cases next with
  | none => exact Meets.pure h.1
  | some c =>
    have hmono : ∀ log log',log <+: log' → G log c → G log' c := fun log log' => hclosed.mono log log' c
    apply Meets.bind (h.1.reading hclosed (ensureMutationCapacity_uses 3) hmono (h.2 c rfl) p)
    intro s _ p h
    apply Meets.bind (landPhases_kept hclosed caravan stackNumber 5 false p h.1 h.2)
    intro s next p h
    cases next with
    | none => exact Meets.pure h.1
    | some c =>
      apply (h.1.reading hclosed (concludeLanding_uses stackNumber c) (J := fun _ => True)
        (fun _ _ _ _ => trivial) trivial p).mono
      · exact fun _ _ _ h => h.1
      · exact fun _ _ h => h

structure DrainServes (allowed : SyncRequest → Prop) (stackNumber : ℕ) : Prop where
  reading : ∀ q,Reading q → allowed q
  load : allowed (.load (landKey stackNumber))
  generation : ∀ repository,allowed (.nativeStackGeneration repository stackNumber)
  archive : ∀ operation c,allowed (.archive operation c)
  write : ∀ c,allowed (.write (landKey stackNumber) c)
  lock : ∀ repository c,allowed (.nativeStackLandLock repository c)
  submit : ∀ repository c,allowed (.nativeStackLandSubmit repository c)
  poll : ∀ repository c,allowed (.nativeStackLandPoll repository c)
  release : ∀ repository c,allowed (.nativeStackLandRelease repository c)

variable {allowed : SyncRequest → Prop} (h : DrainServes allowed stackNumber)

theorem keepWaiting_uses (caravan : Caravan) (checkpoint : StackLandCheckpoint) (reason : String) :
    Uses allowed (keepWaiting caravan checkpoint reason) :=
  Uses.bind (Uses.modify _) fun _ => Uses.bind (Uses.modify _) fun _ => Uses.pure _

theorem recordNativeStackWait_uses (caravan : Caravan) (blocked : Github.StackBlockedEntry) :
    Uses allowed (recordNativeStackWait caravan stackNumber blocked) :=
  Uses.bind (recordMergeWait_uses _ _ _) fun _ => Uses.modify _

include h

theorem beginLanding_uses (caravan : Caravan) (reviewedBy : String) :
    Uses allowed (beginLanding w status caravan stackNumber reviewedBy) := by
  have hmerge : ∀ {α : Type} (r : Except Github.StackMergeError α),Uses allowed (mergeResult w r) :=
    fun r => Uses.lift (Only.ofResult _)
  unfold beginLanding
  dsimp only
  apply Uses.bind Uses.get
  intro p
  split
  · exact Uses.bind (recordNativeStackWait_uses caravan _) fun _ => Uses.pure _
  · apply Uses.bind (Uses.lift (call_only (h.generation _)))
    intro stack
    cases stack with
    | none => exact Uses.throw _
    | some stack =>
      apply Uses.bind (Uses.bind Uses.get fun _ => hmerge _)
      intro ready
      split
      · exact Uses.pure _
      · exact Uses.bind (recordNativeStackWait_uses caravan _) fun _ => Uses.pure _
      · split
        · exact Uses.bind (recordMergeWait_uses _ _ _) fun _ => Uses.pure _
        · apply Uses.bind Uses.get
          intro p
          apply Uses.bind (hmerge _)
          intro plan
          apply Uses.bind (Uses.lift (saveNative_only (h.archive _ _) (h.write _)))
          exact fun _ => Uses.pure _

theorem landPhase_uses (caravan : Caravan) (markedNow : Bool) (c : StackLandCheckpoint) :
    Uses allowed (landPhase w status caravan markedNow c) := by
  have hready := (nativeRequiredReady_uses status c.plan).weaken h.reading
  have hcall : ∀ {request},allowed request →
      Uses allowed (landCall request >>= fun c' => pure (some c')) := fun hrequest =>
    Uses.bind (Uses.lift (call_only hrequest)) fun _ => Uses.pure _
  have hresult : ∀ r,Uses allowed (StateT.lift (landResult w.toWire r) >>= fun c' =>
      (pure (some c') : SyncM (Option StackLandCheckpoint))) := fun r =>
    Uses.bind (Uses.lift (Only.ofResult _)) fun _ => Uses.pure _
  unfold landPhase
  cases c.phase
  case planned =>
    apply Uses.bind hready
    intro ready
    split
    · exact hcall (h.lock _ _)
    · exact keepWaiting_uses caravan c _
  case locked =>
    apply Uses.bind ((auditSelected_uses w status c _).weaken h.reading)
    intro _
    apply Uses.bind hready
    intro ready
    split
    · exact hresult _
    · exact keepWaiting_uses caravan c _
  case submitting =>
    dsimp only
    split
    · exact hcall (h.submit _ _)
    · exact hresult _
  case submitted => exact hcall (h.poll _ _)
  case terminal => exact hcall (h.release _ _)
  case released => exact Uses.pure _

theorem landPhases_uses (caravan : Caravan) (rounds : ℕ) (markedNow : Bool) (c : StackLandCheckpoint) :
    Uses allowed (landPhases w status caravan stackNumber rounds markedNow c) := by
  induction rounds generalizing markedNow c with
  | zero => exact Uses.pure _
  | succ rounds ih =>
    unfold landPhases
    split
    · exact Uses.pure _
    · apply Uses.bind (landPhase_uses h caravan markedNow c)
      intro next
      cases next with
      | none => exact Uses.pure _
      | some next =>
        apply Uses.bind (Uses.lift (saveNative_only (h.archive _ _) (h.write _)))
        intro _
        dsimp only
        split
        · exact Uses.pure _
        · split
          · exact Uses.bind (Uses.modify _) fun _ => ih _ _
          · exact ih _ _

theorem drainNativeStack_uses (caravan : Caravan) (config : Config.CaravanConfig) :
    Uses allowed (drainNativeStack w status caravan stackNumber config) := by
  apply Uses.bind
  · apply Uses.bind (Uses.lift (call_only h.load))
    intro stored
    cases stored with
    | none => exact beginLanding_uses h caravan _
    | some c =>
      dsimp only
      split
      · exact Uses.throw _
      · exact Uses.pure _
  intro next
  cases next with
  | none => exact Uses.pure _
  | some c =>
    apply Uses.bind (ensureMutationCapacity_uses 3)
    intro _
    apply Uses.bind (landPhases_uses h caravan 5 false c)
    intro next
    cases next with
    | none => exact Uses.pure _
    | some c => exact concludeLanding_uses stackNumber c

end Drain

end Sync
end Cara
