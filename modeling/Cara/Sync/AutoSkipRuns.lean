import Cara.Lib.Ends
import Cara.Sync.AutoSkip
import Mathlib.Logic.Relation
import Mathlib.Logic.Function.Basic

/-! Whose skip labels the ticks of automatic admission take away, over all histories of ticks and
of what operators do between and during them. -/
namespace Cara
namespace Sync

open Prog (Meets Gives Uses Only Stops Run Ends)

section World

variable (w : SkipWire)

inductive Author where
  | cara
  | operator
deriving DecidableEq

/-- Whose the present label of a pull request is, its head, the comments ever posted on it, and whose
labels automation has taken away. -/
structure SkipWorld where
  author : PrNumber → Option Author := fun _ => none
  head : PrNumber → CommitOid := fun _ => ""
  comments : PrNumber → List String := fun _ => []
  removals : List (PrNumber × Author) := []

namespace SkipWorld

variable (s : SkipWorld) (pr : PrNumber)

def labelled (who : Author) : SkipWorld :=
  { s with author := Function.update s.author pr (some ((s.author pr).getD who)) }

def bare : SkipWorld := { s with author := Function.update s.author pr none }

def unlabelled : SkipWorld :=
  { s.bare pr with removals := s.removals ++ ((s.author pr).map fun who => (pr,who)).toList }

def posted (body : String) : SkipWorld :=
  { s with comments := Function.update s.comments pr (s.comments pr ++ [body]) }

def HasReceipt : Prop := ∃ body ∈ s.comments pr,(AutoJoinSkipReceipt.fromComment w body).isSome

end SkipWorld

inductive OperatorMove where
  | addLabel (pr : PrNumber)
  | removeLabel (pr : PrNumber)
  | push (pr : PrNumber) (head : CommitOid)
  | comment (pr : PrNumber) (body : String)

def SkipWorld.moved (s : SkipWorld) : OperatorMove → SkipWorld
  | .addLabel pr => s.labelled pr .operator
  | .removeLabel pr => s.bare pr
  | .push pr head => { s with head := Function.update s.head pr head }
  | .comment pr body => s.posted pr body

def OperatorMove.Plain : OperatorMove → Prop
  | .comment _ body => AutoJoinSkipReceipt.fromComment w body = none
  | _ => True

structure Conduct where
  moves : SkipWorld → OperatorMove → Prop
  writes : SkipWorld → SkipRequest → Prop

def anyone : Conduct := ⟨fun _ _ => True,fun _ _ => True⟩

/-- No operator holds a pull request that has a receipt, and no tick gives a receipt or an admission to
a pull request that an operator holds. -/
def careful : Conduct where
  moves s := fun
    | .addLabel pr => s.author pr = none → ¬s.HasReceipt w pr
    | _ => True
  writes s := fun
    | .ensureMarkedComment expected _ body =>
        (AutoJoinSkipReceipt.fromComment w body).isSome → s.author expected.number ≠ some .operator
    | .autoAdmit candidate => s.author candidate ≠ some .operator
    | _ => True

variable (C : Conduct)

inductive Moves : SkipWorld → SkipWorld → Prop
  | move {s : SkipWorld} {m : OperatorMove} : m.Plain w → C.moves s m → Moves s (s.moved m)

def Keyed (pulls : PullRequestMap) : Prop :=
  ∀ n (snapshot : PullRequestSnapshot),pulls[n]? = some snapshot → snapshot.number = n

/-- What a request does to the labels and comments, and what is true of its answer. A write that
fails may have happened, one that succeeds may have found its work done. -/
def Responds (s : SkipWorld) (a : SkipAnswer) (t : SkipWorld) : SkipRequest → Prop
  | .commentBodies pr => t = s ∧ ∀ bodies,a = .bodies bodies → bodies ⊆ s.comments pr
  | .ensureMarkedComment expected _ body => (t = s ∨ t = s.posted expected.number body) ∧
      ∀ receipt,a = .receipt receipt → receipt.after.number = expected.number
  | .addLabel expected label =>
      (t = s ∨ label = autoAdmissionSkipLabel ∧ t = s.labelled expected.number .cara) ∧
      ∀ receipt,a = .receipt receipt → receipt.after.number = expected.number
  | .removeLabel expected label =>
      (t = s ∨ label = autoAdmissionSkipLabel ∧ t = s.unlabelled expected.number) ∧
      ∀ receipt,a = .receipt receipt → receipt.after.number = expected.number
  | .autoAdmit candidate => (t = s ∨ t = s.unlabelled candidate) ∧
      ∀ steps pull,a = .membership steps pull → pull.number = candidate
  | .refreshStatus => t = s ∧ ∀ status,a = .status status → Keyed status.analysis.pullRequests
  | _ => t = s

/-- A request reaches the provider after whatever operators did meanwhile. -/
def SkipStep (s : SkipWorld) (q : SkipRequest) (a : SkipAnswer) (t : SkipWorld) : Prop :=
  ∃ u,Relation.ReflTransGen (Moves w C) s u ∧ C.writes u q ∧ Responds u a t q

structure Fresh (s : SkipWorld) : Prop where
  author : ∀ pr,s.author pr ≠ some .cara
  receipt : ∀ pr,¬s.HasReceipt w pr
  removals : s.removals = []

/-- The states between and within the ticks, each of which has a configuration of its own and may be
cut off anywhere. -/
inductive History : SkipWorld → Prop
  | start {s : SkipWorld} : Fresh w s → History s
  | operator {s t : SkipWorld} : History s → Moves w C s t → History t
  | tick {s t : SkipWorld} {status : StatusOutput} (config : Config.CaravanConfig) (turns : ℕ)
      (progress : SyncProgress) : History s → Keyed status.analysis.pullRequests →
      Stops (SkipStep w C) ((runAutoAdmission w config turns status).run progress).run s t → History t

end World

section Invariant

variable (w : SkipWire)

/-- An operator's label explains itself: there is no receipt next to it; and what automation took away
was its own. -/
structure Held (s : SkipWorld) : Prop where
  unreceipted : ∀ pr,s.author pr = some .operator → ¬s.HasReceipt w pr
  own : ∀ pr,(pr,Author.operator) ∉ s.removals

/-- A label is only ever taken away where there is a receipt. -/
def Permitted (s : SkipWorld) : SkipRequest → Prop
  | .removeLabel expected _ => s.HasReceipt w expected.number
  | _ => True

variable {w} {s t u : SkipWorld} {pr : PrNumber}

theorem author_labelled (who : Author) (n : PrNumber) : (s.labelled pr who).author n =
    if n = pr then some ((s.author pr).getD who) else s.author n := Function.update_apply ..

theorem author_bare (n : PrNumber) : (s.bare pr).author n = if n = pr then none else s.author n :=
  Function.update_apply ..

theorem comments_posted (body : String) (n : PrNumber) : (s.posted pr body).comments n =
    if n = pr then s.comments pr ++ [body] else s.comments n := Function.update_apply ..

theorem labelled_author {who : Author} {n : PrNumber} (h : (s.labelled pr who).author n = some .operator) :
    s.author n = some .operator ∨ n = pr ∧ who = .operator ∧ s.author pr = none := by
  rw [author_labelled] at h
  by_cases hn : n = pr
  · subst hn
    rw [if_pos rfl] at h
    cases ha : s.author n with
    | none =>
      rw [ha] at h
      cases h
      exact .inr ⟨rfl,rfl,rfl⟩
    | some who' =>
      rw [ha] at h
      exact .inl h
  · left
    rwa [if_neg hn] at h

theorem bare_author {n : PrNumber} (h : (s.bare pr).author n = some .operator) :
    s.author n = some .operator := by
  rw [author_bare] at h
  split_ifs at h
  exact h

theorem posted_comments {body : String} {n : PrNumber} {c : String} :
    c ∈ (s.posted pr body).comments n ↔ c ∈ s.comments n ∨ n = pr ∧ c = body := by
  rw [comments_posted]
  by_cases hn : n = pr
  · subst hn
    simp
  · simp [hn]

theorem Held.labelled {who : Author} (h : Held w s)
    (hwho : who = .operator → s.author pr = none → ¬s.HasReceipt w pr) : Held w (s.labelled pr who) := by
  refine ⟨?_,h.own⟩
  intro n hn
  rcases labelled_author hn with hn | ⟨rfl,hop,hnone⟩
  · exact h.unreceipted n hn
  · exact hwho hop hnone

theorem Held.bare (h : Held w s) : Held w (s.bare pr) :=
  ⟨fun n hn => h.unreceipted n (bare_author hn),h.own⟩

theorem Held.unlabelled (h : Held w s) (hpr : s.author pr ≠ some .operator) :
    Held w (s.unlabelled pr) := by
  refine ⟨h.bare.unreceipted,?_⟩
  intro n hmem
  rcases List.mem_append.mp hmem with hmem | hmem
  · exact h.own n hmem
  · rw [Option.mem_toList,Option.map_eq_some_iff] at hmem
    obtain ⟨who,hwho,he⟩ := hmem
    cases he
    exact hpr hwho

theorem Held.posted {body : String} (h : Held w s)
    (hbody : (AutoJoinSkipReceipt.fromComment w body).isSome → s.author pr ≠ some .operator) :
    Held w (s.posted pr body) := by
  refine ⟨?_,h.own⟩
  rintro n hn ⟨c,hc,hreceipt⟩
  rcases posted_comments.mp hc with hc | ⟨rfl,rfl⟩
  · exact h.unreceipted n hn ⟨c,hc,hreceipt⟩
  · exact hbody hreceipt hn

theorem Held.moved (h : Held w s) (hmove : Moves w (careful w) s t) : Held w t := by
  obtain ⟨hplain,hcareful⟩ := hmove
  rename_i m
  cases m with
  | addLabel pr => exact h.labelled fun _ => hcareful
  | removeLabel pr => exact h.bare
  | push pr head => exact ⟨h.unreceipted,h.own⟩
  | comment pr body =>
    apply h.posted
    intro hreceipt
    rw [show AutoJoinSkipReceipt.fromComment w body = none from hplain] at hreceipt
    cases hreceipt

theorem SkipWorld.HasReceipt.moved {C : Conduct} (h : s.HasReceipt w pr) (hmove : Moves w C s t) :
    t.HasReceipt w pr := by
  obtain ⟨body,hbody,hreceipt⟩ := h
  obtain ⟨-,-⟩ := hmove
  rename_i m
  cases m with
  | addLabel n => exact ⟨body,hbody,hreceipt⟩
  | removeLabel n => exact ⟨body,hbody,hreceipt⟩
  | push n head => exact ⟨body,hbody,hreceipt⟩
  | comment n c => exact ⟨body,posted_comments.mpr (.inl hbody),hreceipt⟩

theorem SkipWorld.HasReceipt.between {C : Conduct} (h : s.HasReceipt w pr)
    (hbetween : Relation.ReflTransGen (Moves w C) s t) : t.HasReceipt w pr := by
  induction hbetween with
  | refl => exact h
  | tail _ hmove ih => exact ih.moved hmove

theorem SkipWorld.HasReceipt.step {C : Conduct} {q : SkipRequest} {a : SkipAnswer} (h : s.HasReceipt w pr)
    (hstep : SkipStep w C s q a t) : t.HasReceipt w pr := by
  obtain ⟨u,hbetween,-,hresponds⟩ := hstep
  obtain ⟨body,hbody,hreceipt⟩ := h.between hbetween
  have hkeep : body ∈ t.comments pr := by
    cases q with
    | commentBodies n => rwa [hresponds.1]
    | ensureMarkedComment e m b =>
      rcases hresponds.1 with rfl | rfl
      · exact hbody
      · exact posted_comments.mpr (.inl hbody)
    | addLabel e l =>
      rcases hresponds.1 with rfl | ⟨-,rfl⟩ <;> exact hbody
    | removeLabel e l =>
      rcases hresponds.1 with rfl | ⟨-,rfl⟩ <;> exact hbody
    | autoAdmit c =>
      rcases hresponds.1 with rfl | rfl <;> exact hbody
    | refreshStatus => rwa [hresponds.1]
    | _ =>
      obtain rfl : t = u := hresponds
      exact hbody
  exact ⟨body,hkeep,hreceipt⟩

theorem Held.step {q : SkipRequest} {a : SkipAnswer} (hok : Permitted w s q)
    (hstep : SkipStep w (careful w) s q a t) (h : Held w s) : Held w t := by
  obtain ⟨u,hbetween,hwrites,hresponds⟩ := hstep
  have hu : Held w u := by
    clear hresponds hwrites hok
    induction hbetween with
    | refl => exact h
    | tail _ hmove ih => exact ih.moved hmove
  cases q with
  | commentBodies n => rwa [hresponds.1]
  | ensureMarkedComment e m b =>
    rcases hresponds.1 with rfl | rfl
    · exact hu
    · exact hu.posted hwrites
  | addLabel e l =>
    rcases hresponds.1 with rfl | ⟨-,rfl⟩
    · exact hu
    · exact hu.labelled fun hwho => by cases hwho
  | removeLabel e l =>
    rcases hresponds.1 with rfl | ⟨-,rfl⟩
    · exact hu
    · have hreceipt : s.HasReceipt w e.number := hok
      exact hu.unlabelled fun hauthor => hu.unreceipted _ hauthor (hreceipt.between hbetween)
  | autoAdmit c =>
    rcases hresponds.1 with rfl | rfl
    · exact hu
    · exact hu.unlabelled hwrites
  | refreshStatus => rwa [hresponds.1]
  | _ =>
    obtain rfl : t = u := hresponds
    exact hu

end Invariant

section Ticks

variable {w : SkipWire} {C : Conduct} {s : SkipWorld} {p : SyncProgress} {α β : Type}

/-- What is so of every run of the program that only asks for what is permitted. -/
abbrev Admits (w : SkipWire) (C : Conduct) (m : SkipM α) (post : SkipWorld → α → SyncProgress → Prop)
    (s : SkipWorld) (p : SyncProgress) : Prop :=
  Meets (SkipStep w C) (Permitted w) m post (fun _ _ => True) s p

theorem skipCall_bind {q : SkipRequest} {pr : Option PrNumber} {value : SkipAnswer → Option β}
    {f : β → SkipM α} {post : SkipWorld → α → SyncProgress → Prop} (hok : Permitted w s q)
    (hf : ∀ a t b,SkipStep w C s q a t → value a = some b → Admits w C (f b) post t p) :
    Admits w C (skipCall q pr value >>= f) post s p := by
  unfold skipCall
  refine Meets.bind (K := fun t b p' => p' = p ∧ ∃ a,SkipStep w C s q a t ∧ value a = some b) ?_ ?_
  · apply Meets.lift
    refine Gives.query hok ?_ fun _ _ _ _ _ => trivial
    intro a t b hstep hb
    refine ⟨rfl,a,hstep,?_⟩
    cases a <;> first | cases hb | skip
    all_goals
      obtain ⟨b',hb',he⟩ := Option.map_eq_some_iff.mp hb
      cases he
      exact hb'
  · rintro t b p' ⟨rfl,a,hstep,hb⟩
    exact hf a t b hstep hb

def Harmless : SkipRequest → Prop
  | .removeLabel _ _ => False
  | _ => True

theorem Harmless.permitted {q : SkipRequest} (h : Harmless q) : Permitted w s q := by
  cases q with
  | removeLabel e l => exact h.elim
  | _ => trivial

theorem uses_skipCall {q : SkipRequest} (pr : Option PrNumber) (value : SkipAnswer → Option α)
    (h : Harmless q) : Uses Harmless (skipCall q pr value) := .lift (.query h)

theorem uses_crashed : Uses Harmless (crashedSkip : SkipM α) := .lift .crashed

theorem uses_trackedPrecondition (pr : PrNumber) : Uses Harmless (trackedPrecondition pr) := by
  unfold trackedPrecondition
  refine Uses.get.bind fun p => ?_
  cases p.current[pr]? with
  | some snapshot => exact .pure _
  | none => exact uses_crashed

theorem uses_recordMarkedComment (receipt : GitHubMutationReceipt) (pr : PrNumber) (summary : String) :
    Uses Harmless (recordMarkedComment receipt pr summary) := by
  unfold recordMarkedComment
  split <;> exact .modify _

theorem uses_refreshStatus : Uses Harmless refreshStatus := by
  unfold refreshStatus
  refine (uses_skipCall none _ (show Harmless .refreshStatus from trivial)).bind fun _ => ?_
  exact (Uses.modify _).bind fun _ => .pure _

theorem uses_refuse {c : Prop} [Decidable c] {e : SyncError} {m : SkipM α} (hm : Uses Harmless m) :
    Uses Harmless (if c then do { let r ← throw e; (fun _ : PUnit => m) r } else m) := by
  split
  · exact (Uses.throw e).bind fun _ => hm
  · exact hm

theorem uses_persistAutoSkip (receipt : AutoJoinSkipReceipt) :
    Uses Harmless (persistAutoSkip w receipt) := by
  unfold persistAutoSkip
  apply uses_refuse
  refine Uses.get.bind fun p => ?_
  apply uses_refuse
  refine (uses_trackedPrecondition _).bind fun expected => ?_
  refine (uses_skipCall _ _ (show Harmless (.ensureMarkedComment ..) from trivial)).bind fun comment => ?_
  refine (uses_recordMarkedComment ..).bind fun _ => ?_
  refine Uses.get.bind fun p => ?_
  cases p.current[receipt.candidatePr]? with
  | none => exact .throw _
  | some candidate =>
    show Uses Harmless (if candidate.hasLabel autoAdmissionSkipLabel = true then _ else _)
    split
    · exact .pure _
    · refine (uses_skipCall _ _ (show Harmless (.addLabel ..) from trivial)).bind fun _ => ?_
      exact (Uses.modify _).bind fun _ => .pure _

theorem uses_admissionRounds (turns : ℕ) (status : StatusOutput) :
    Uses Harmless (admissionRounds w turns status) := by
  induction turns generalizing status with
  | zero => exact uses_crashed
  | succ turns ih =>
    refine (uses_skipCall _ _ (show Harmless (.nextRound _) from trivial)).bind fun round => ?_
    cases round with
    | stop => exact .pure _
    | refuse receipt =>
      refine (uses_persistAutoSkip _).bind fun _ => ?_
      exact uses_refreshStatus.bind fun status => ih status
    | enrol candidate =>
      refine (uses_skipCall _ _ (show Harmless (.autoAdmit _) from trivial)).bind fun joined => ?_
      refine (Uses.modify _).bind fun _ => ?_
      exact uses_refreshStatus.bind fun status => ih status

theorem admits_harmless {m : SkipM α} (h : Uses Harmless m) :
    Admits w C m (fun _ _ _ => True) s p :=
  h.keeps (I := fun _ => True) (fun _ _ _ hq => hq.permitted) (fun _ _ _ _ _ _ _ => trivial) trivial p

theorem Keyed.insert {pulls : PullRequestMap} {n : PrNumber} {snapshot : PullRequestSnapshot}
    (h : Keyed pulls) (hn : snapshot.number = n) : Keyed (pulls.insert n snapshot) := by
  intro m found hm
  rw [Std.ExtTreeMap.getElem?_insert] at hm
  split_ifs at hm with he
  · cases hm
    rw [hn,Nat.compare_eq_eq.mp he]
  · exact h m found hm

variable (w) (C)

/-- The status that a row leaves to go on with, and the facts tracked next to it. -/
def Fits (status : StatusOutput) (q : SyncProgress) : Prop :=
  Keyed status.analysis.pullRequests ∧ Keyed q.current

theorem admits_refreshStatus : Admits w C refreshStatus (fun _ status q => Fits status q) s p := by
  unfold refreshStatus
  refine skipCall_bind trivial ?_
  intro a t status hstep hs
  obtain ⟨u,-,-,hresponds⟩ := hstep
  cases a <;> cases hs
  have hstatus : Keyed status.analysis.pullRequests := hresponds.2 status rfl
  exact Meets.bind (K := fun _ _ q => Keyed q.current) (Meets.modify hstatus)
    fun _ _ q hq => Meets.pure ⟨hstatus,hq⟩

theorem admits_cursorHit (config : Config.CaravanConfig) (status : StatusOutput) (pr : PrNumber)
    (candidate : PullRequestSnapshot) :
    Admits w C (cursorHit w config status pr candidate) (fun _ _ q => q.current = p.current) s p := by
  unfold cursorHit
  refine skipCall_bind trivial ?_
  intro a t found _ _
  cases found with
  | none => exact Meets.pure rfl
  | some cursor =>
    show Admits w C (if cursor.matchesRow w config status.repository candidate = true then _ else _) _ t p
    split
    · exact Meets.bind (K := fun _ _ q => q.current = p.current) (Meets.modify rfl)
        fun _ _ q hq => Meets.pure hq
    · refine skipCall_bind trivial ?_
      intro _ _ _ _ _
      exact Meets.pure rfl

theorem admits_skipExact (config : Config.CaravanConfig) (status : StatusOutput) (pr : PrNumber)
    (retained : Option AutoJoinSkipReceipt) {n : PrNumber}
    (h : retained.isSome → s.HasReceipt w n) :
    Admits w C (skipExact w config status pr retained)
      (fun t _ q => q = p ∧ (retained.isSome → t.HasReceipt w n)) s p := by
  unfold skipExact
  cases retained with
  | none => exact Meets.pure ⟨rfl,h⟩
  | some receipt =>
    show Admits w C (if (!skipReceiptMatches w config status receipt) = true then _ else _) _ s p
    split
    · exact Meets.pure ⟨rfl,h⟩
    · cases receipt.requiredRuns with
      | none => exact Meets.pure ⟨rfl,h⟩
      | some expected =>
        refine skipCall_bind trivial ?_
        intro a t observed hstep _
        have ht : t.HasReceipt w n := (h rfl).step hstep
        show Admits w C (if observed.status = .unknownProviderState then _ else _) _ t p
        split
        · exact Meets.bind (K := fun _ _ _ => False) (Meets.throw trivial) fun _ _ _ h => h.elim
        · exact Meets.pure ⟨rfl,fun _ => ht⟩

theorem admits_trackedPrecondition {pr : PrNumber} (h : Keyed p.current) :
    Admits w C (trackedPrecondition pr) (fun t expected q => t = s ∧ q = p ∧ expected.number = pr) s p := by
  unfold trackedPrecondition
  refine Meets.bind (K := fun t found q => t = s ∧ q = p ∧ found = p) (Meets.get ⟨rfl,rfl,rfl⟩) ?_
  rintro t found q ⟨rfl,rfl,rfl⟩
  cases hfound : found.current[pr]? with
  | none => exact Meets.lift Gives.crashed
  | some snapshot => exact Meets.pure ⟨rfl,rfl,h pr snapshot hfound⟩

/-- The stale label is the one of the pull request whose receipt was read. -/
theorem admits_removeStaleSkip {pr : PrNumber} {candidate : PullRequestSnapshot}
    (receipt : AutoJoinSkipReceipt) (hnumber : candidate.number = pr) (hkeyed : Keyed p.current)
    (hreceipt : s.HasReceipt w pr) :
    Admits w C (removeStaleSkip pr candidate receipt) (fun _ status q => Fits status q) s p := by
  unfold removeStaleSkip
  refine skipCall_bind trivial ?_
  intro a t comment hstep hcomment
  have ht : t.HasReceipt w pr := hreceipt.step hstep
  obtain ⟨u,-,-,hresponds⟩ := hstep
  cases a <;> cases hcomment
  have hafter : comment.after.number = pr := (hresponds.2 comment rfl).trans hnumber
  refine Meets.bind (K := fun t _ q => t.HasReceipt w pr ∧ Keyed q.current) ?_ ?_
  · unfold recordMarkedComment
    split
    · exact Meets.modify ⟨ht,hkeyed.insert hafter⟩
    · exact Meets.modify ⟨ht,hkeyed.insert rfl⟩
  rintro t' - q ⟨ht',hq⟩
  refine Meets.bind (admits_trackedPrecondition w C hq) ?_
  rintro _ expected _ ⟨rfl,rfl,hexpected⟩
  refine skipCall_bind (show SkipWorld.HasReceipt w _ expected.number from hexpected ▸ ht') ?_
  intro _ _ removed _ _
  refine Meets.bind (K := fun _ _ _ => True) (Meets.modify trivial) fun _ _ _ _ => ?_
  exact admits_refreshStatus w C

theorem admits_revalidateRow (config : Config.CaravanConfig) (status : StatusOutput) {pr : PrNumber}
    {candidate : PullRequestSnapshot} (out : AutoAdmissionOutput) (hnumber : candidate.number = pr)
    (hfits : Fits status p) : Admits w C (revalidateRow w config status pr candidate out)
      (fun _ row q => ∀ status,row.1 = some status → Fits status q) s p := by
  unfold revalidateRow
  refine skipCall_bind trivial ?_
  intro a t bodies hstep hbodies
  obtain ⟨u,-,-,hresponds⟩ := hstep
  cases a <;> cases hbodies
  obtain ⟨rfl,hbodies⟩ := hresponds
  have hreceipt : (bodies.reverse.findSome? (AutoJoinSkipReceipt.fromComment w)).isSome →
      t.HasReceipt w pr := by
    intro h
    obtain ⟨body,hbody,hsome⟩ := List.exists_of_findSome?_eq_some (Option.some_get h).symm
    exact ⟨body,hbodies bodies rfl (List.mem_reverse.mp hbody),by rw [hsome]; rfl⟩
  refine Meets.bind (admits_skipExact w C config status pr _ hreceipt) ?_
  rintro t' exact q ⟨rfl,ht'⟩
  have hleft : ∀ (f : SyncProgress → SyncProgress) (out' : AutoAdmissionOutput),(f q).current = q.current →
      Admits w C (modify f >>= fun _ => pure (some status,out') : SkipM (Option StatusOutput × AutoAdmissionOutput))
        (fun _ row q => ∀ status,row.1 = some status → Fits status q) t' q := by
    intro f out' hf
    refine Meets.bind (K := fun _ _ r => r.current = q.current) (Meets.modify hf) fun _ _ r hr => ?_
    apply Meets.pure
    rintro _ he
    cases he
    exact ⟨hfits.1,hr ▸ hfits.2⟩
  cases exact with
  | true => exact hleft _ _ rfl
  | false =>
    cases hretained : bodies.reverse.findSome? (AutoJoinSkipReceipt.fromComment w) with
    | none =>
      refine skipCall_bind trivial ?_
      intro _ t'' _ hstep _
      refine Meets.bind (K := fun _ _ r => r.current = q.current) (Meets.modify rfl) fun _ _ r hr => ?_
      apply Meets.pure
      rintro _ he
      cases he
      exact ⟨hfits.1,hr ▸ hfits.2⟩
    | some receipt =>
      have hhas : t'.HasReceipt w pr := ht' (by rw [hretained]; rfl)
      refine Meets.bind (K := fun t found r => t = t' ∧ found = q ∧ r = q) (Meets.get ⟨rfl,rfl,rfl⟩) ?_
      rintro t₁ q₁ q₂ ⟨rfl,rfl,rfl⟩
      show Admits w C (if (!hasMutationCapacity q₂ 2) = true then _ else _) _ _ _
      split
      · apply Meets.pure
        intro _ he
        cases he
      · refine Meets.bind (admits_removeStaleSkip w C receipt hnumber hfits.2 hhas) ?_
        intro _ status' q' hfits'
        apply Meets.pure
        rintro _ he
        cases he
        exact hfits'

theorem admits_revalidateSkips (config : Config.CaravanConfig) (turns : ℕ) (status : StatusOutput)
    (validated : List PrNumber) (out : AutoAdmissionOutput) (hfits : Fits status p) :
    Admits w C (revalidateSkips w config turns status validated out) (fun _ _ _ => True) s p := by
  induction turns generalizing status validated out s p with
  | zero => exact Meets.lift Gives.crashed
  | succ turns ih =>
    refine skipCall_bind trivial ?_
    intro _ t overdue _ _
    cases overdue with
    | true => exact Meets.pure trivial
    | false =>
      refine skipCall_bind trivial ?_
      intro _ t spent _ _
      cases spent with
      | true => exact Meets.pure trivial
      | false =>
        cases status.admission.skipped.find? fun row => !validated.contains row.pr with
        | none => exact Meets.pure trivial
        | some skipped =>
          dsimp only
          cases hcandidate : status.analysis.pullRequests[skipped.pr]? with
          | none => exact Meets.throw trivial
          | some candidate =>
            refine Meets.bind (admits_cursorHit w C config status skipped.pr candidate) ?_
            rintro t' hit q hq
            have hfits' : Fits status q := ⟨hfits.1,hq ▸ hfits.2⟩
            cases hit with
            | true => exact ih status _ _ hfits'
            | false =>
              refine Meets.bind (admits_revalidateRow w C config status out
                (hfits.1 _ _ hcandidate) hfits') ?_
              rintro t'' ⟨next,out'⟩ r hnext
              cases next with
              | none => exact Meets.pure trivial
              | some status' => exact ih status' _ _ (hnext status' rfl)

theorem admits_runAutoAdmission (config : Config.CaravanConfig) (turns : ℕ) (status : StatusOutput)
    (hstatus : Keyed status.analysis.pullRequests) :
    Admits w C (runAutoAdmission w config turns status) (fun _ _ _ => True) s p := by
  refine Meets.bind (K := fun _ _ q => Keyed q.current) (Meets.modify hstatus) fun t _ q hq => ?_
  refine Meets.bind (admits_revalidateSkips w C config turns status [] {} ⟨hstatus,hq⟩) ?_
  rintro t' ⟨status',out⟩ q' -
  show Admits w C (if out.continuation = .complete then _ else _) _ t' q'
  split
  · exact Meets.bind (admits_harmless (uses_admissionRounds turns status')) fun _ _ _ _ => Meets.pure trivial
  · exact Meets.pure trivial

end Ticks

section Histories

variable {w : SkipWire} {s : SkipWorld}

theorem Held.history (h : History w (careful w) s) : Held w s := by
  induction h with
  | start hfresh =>
    refine ⟨fun pr _ => hfresh.receipt pr,?_⟩
    intro pr
    rw [hfresh.removals]
    exact List.not_mem_nil
  | operator _ hmove ih => exact ih.moved hmove
  | @tick s t status config turns progress _ hkeyed hstops ih =>
    have hadmits : Admits w (careful w) (runAutoAdmission w config turns status) (fun _ _ _ => True) s progress :=
      admits_runAutoAdmission w (careful w) config turns status hkeyed
    exact hadmits.gives.stops (fun _ _ _ _ hok hstep => Held.step hok hstep) ih hstops

/-- Under that care no operator's label is ever taken away. -/
theorem operator_label_kept (h : History w (careful w) s) (pr : PrNumber) :
    (pr,Author.operator) ∉ s.removals := (Held.history h).own pr

end Histories

section Receipts

variable {w : SkipWire} {receipt : AutoJoinSkipReceipt}

theorem hashIsValid_finalizeHash : (receipt.finalizeHash w).hashIsValid w = true := decide_eq_true rfl

theorem splitOnce_marker (rest : List Char) :
    Text.splitOnce autoAdmissionSkipPrefix.toList (autoAdmissionSkipPrefix.toList ++ rest) = some ([],rest) := by
  have hcons : autoAdmissionSkipPrefix.toList = '<'::autoAdmissionSkipPrefix.toList.tail := by decide
  rw [hcons]
  exact Text.splitOnce_append (List.not_mem_nil (a := _)) rest

theorem fromComment_commentBody (hparse : w.parseReceipt (w.receiptJson receipt) = some receipt)
    (hhash : receipt.hashIsValid w = true) :
    AutoJoinSkipReceipt.fromComment w (receipt.commentBody w) = some receipt := by
  have hclose : " -->".toList = ' '::"-->".toList := by decide
  have hbody : (receipt.commentBody w).toList = autoAdmissionSkipPrefix.toList ++
      (Text.hexEncode (w.receiptJson receipt) ++ " -->".toList ++ receipt.commentText.toList) := by
    unfold AutoJoinSkipReceipt.commentBody AutoJoinSkipReceipt.marker
    simp [String.toList_ofList]
  unfold AutoJoinSkipReceipt.fromComment
  rw [hbody,splitOnce_marker]
  show (Text.splitOnce " -->".toList _).bind _ = _
  rw [hclose,Text.splitOnce_append (Text.space_notMem_hexEncode _)]
  show (Text.hexDecode (Text.hexEncode (w.receiptJson receipt))).bind _ = _
  rw [Text.hexDecode_hexEncode]
  show (w.parseReceipt (w.receiptJson receipt)).bind _ = _
  rw [hparse]
  show (if receipt.hashIsValid w = true then some receipt else none) = _
  rw [hhash]
  rfl

end Receipts

section Runs

variable {w : SkipWire} {C : Conduct} {s t u : SkipWorld} {p : SyncProgress} {config : Config.CaravanConfig}
  {status after : StatusOutput} {pr : PrNumber} {pull : PullRequestSnapshot} {receipt : AutoJoinSkipReceipt}

theorem ends_skipCall {α : Type} {q : SkipRequest} {n : Option PrNumber} {value : SkipAnswer → Option α}
    {a : SkipAnswer} {b : α} (hstep : SkipStep w C s q a t) (hb : value a = some b)
    (hfailed : ∀ e,a ≠ .failed e) (hrefused : ∀ e,a ≠ .refused e) :
    Ends (SkipStep w C) (skipCall q n value) s p t b p := by
  refine Ends.query hstep ?_
  cases a with
  | failed e => exact absurd rfl (hfailed e)
  | refused e => exact absurd rfl (hrefused e)
  | _ => exact congrArg (Option.map Except.ok) hb

variable (C) in
def Unhindered (s : SkipWorld) : Prop := ∀ q,C.writes s q

theorem free_anyone (s : SkipWorld) : Unhindered anyone s := fun _ => trivial

theorem free_careful (h : ∀ n,s.author n ≠ some .operator) : Unhindered (careful w) s := by
  intro q
  cases q with
  | ensureMarkedComment expected _ _ => exact fun _ => h expected.number
  | autoAdmit candidate => exact h candidate
  | _ => trivial

theorem ends_ask {α : Type} {q : SkipRequest} {n : Option PrNumber} {value : SkipAnswer → Option α}
    {a : SkipAnswer} {b : α} (hfree : Unhindered C s) (hresponds : Responds s a t q) (hb : value a = some b)
    (hfailed : ∀ e,a ≠ .failed e) (hrefused : ∀ e,a ≠ .refused e) :
    Ends (SkipStep w C) (skipCall q n value) s p t b p :=
  ends_skipCall ⟨s,.refl,hfree q,hresponds⟩ hb hfailed hrefused

theorem ends_flag {q : SkipRequest} (value : Bool) (hfree : Unhindered C s)
    (hq : q = .overdue ∨ q = .githubBudgetSpent) :
    Ends (SkipStep w C) (skipCall q none SkipAnswer.flag?) s p s value p := by
  have hresponds : Responds s (.flag value) s q := by
    rcases hq with rfl | rfl <;> rfl
  exact ends_ask hfree hresponds rfl (fun _ h => by cases h) fun _ h => by cases h

theorem ends_receipt {q : SkipRequest} {n : Option PrNumber} (t : SkipWorld) (receipt : GitHubMutationReceipt)
    (hfree : Unhindered C s) (hresponds : Responds s (.receipt receipt) t q) :
    Ends (SkipStep w C) (skipCall q n SkipAnswer.receipt?) s p t receipt p :=
  ends_ask hfree hresponds rfl (fun _ h => by cases h) fun _ h => by cases h

/-- The receipt of a write on this pull request answers a request about it. -/
theorem after_number {q : GitHubMutationReceipt} {n : PrNumber} (h : q.after.number = n)
    (receipt : GitHubMutationReceipt) (he : SkipAnswer.receipt q = .receipt receipt) :
    receipt.after.number = n := by
  cases he
  exact h

theorem ends_refreshStatus (hfree : Unhindered C s) (hkeyed : Keyed after.analysis.pullRequests) :
    Ends (SkipStep w C) refreshStatus s p s after
      { p with current := after.analysis.pullRequests,mergeCandidates := after.mergeCandidates } := by
  refine Ends.bind (ends_ask (a := .status after) hfree ⟨rfl,?_⟩ rfl (fun _ h => by cases h)
    fun _ h => by cases h) ?_
  · rintro _ he
    cases he
    exact hkeyed
  · exact Ends.bind (.modify _) (.pure _)

/-- A new comment on a pull request as this receipt reports it. -/
def commented (pull : PullRequestSnapshot) : GitHubMutationReceipt := ⟨.comment,none,pull,none⟩

theorem ends_recordMarkedComment (pull : PullRequestSnapshot) (n : PrNumber) (summary : String) :
    Ends (SkipStep w C) (recordMarkedComment (commented pull) n summary) s p s ()
      (p.record (commented pull) summary) := .modify _

theorem current_record (receipt : GitHubMutationReceipt) (summary : String) :
    (p.record receipt summary).current[receipt.after.number]? = some receipt.after :=
  Std.ExtTreeMap.getElem?_insert_self

theorem ends_trackedPrecondition (h : p.current[pr]? = some pull) :
    Ends (SkipStep w C) (trackedPrecondition pr) s p s (.ofSnapshot pull) p := by
  refine Ends.bind .get ?_
  rw [h]
  exact .pure _

theorem ends_persistAutoSkip {labelled : PullRequestSnapshot}
    (hcurrent : p.current[receipt.candidatePr]? = some pull) (hnumber : pull.number = receipt.candidatePr)
    (hbare : pull.hasLabel autoAdmissionSkipLabel = false) (hlabelled : labelled.number = receipt.candidatePr)
    (hsize : (receipt.commentBody w).utf8ByteSize ≤ maxAutoAdmissionCommentBytes) (hfree : Unhindered C s)
    (hposted : Unhindered C (s.posted receipt.candidatePr (receipt.commentBody w))) :
    ∃ q,Ends (SkipStep w C) (persistAutoSkip w receipt) s p
      ((s.posted receipt.candidatePr (receipt.commentBody w)).labelled receipt.candidatePr .cara) true q := by
  have hseen : (p.record (commented pull) "posted durable automatic admission skip receipt").current[
      receipt.candidatePr]? = some pull := hnumber ▸ current_record (commented pull) _
  refine ⟨(p.record (commented pull) "posted durable automatic admission skip receipt").record
    ⟨.addLabel,none,labelled,none⟩ "added generation-bound automatic admission skip",?_⟩
  unfold persistAutoSkip
  rw [if_neg (Nat.not_lt.mpr hsize)]
  refine Ends.bind .get ?_
  rw [hcurrent]
  refine Ends.bind (ends_trackedPrecondition hcurrent) ?_
  refine Ends.bind (ends_receipt (s.posted receipt.candidatePr (receipt.commentBody w))
    (commented pull) hfree ⟨.inr (by rw [← hnumber]; rfl),after_number rfl⟩) ?_
  refine Ends.bind (ends_recordMarkedComment pull _ _) ?_
  refine Ends.bind .get ?_
  rw [hseen]
  show Ends _ (if pull.hasLabel autoAdmissionSkipLabel = true then _ else _) _ _ _ _ _
  rw [hbare]
  refine Ends.bind (ends_receipt ((s.posted receipt.candidatePr (receipt.commentBody w)).labelled
      receipt.candidatePr .cara) ⟨.addLabel,none,labelled,none⟩ hposted
    ⟨.inr ⟨rfl,by rw [← hnumber]; rfl⟩,after_number (hlabelled.trans hnumber.symm)⟩) ?_
  exact Ends.bind (.modify _) (.pure _)

theorem ends_turn {turns : ℕ} {out : AutoAdmissionOutput} {validated : List PrNumber} (hfree : Unhindered C s)
    (hdone : status.admission.skipped.find? (fun row => !validated.contains row.pr) = none) :
    Ends (SkipStep w C) (revalidateSkips w config (turns + 1) status validated out) s p s (status,out) p := by
  unfold revalidateSkips
  refine Ends.bind (ends_flag false hfree (.inl rfl)) ?_
  refine Ends.bind (ends_flag false hfree (.inr rfl)) ?_
  rw [hdone]
  exact .pure _

theorem ends_round (round : Round) (hfree : Unhindered C s) :
    Ends (SkipStep w C) (skipCall (.nextRound status) none SkipAnswer.round?) s p s round p :=
  ends_ask (a := .round round) hfree rfl rfl (fun _ h => by cases h) fun _ h => by cases h

theorem ends_stop {turns : ℕ} (hfree : Unhindered C s) :
    Ends (SkipStep w C) (admissionRounds w (turns + 1) status) s p s status p := by
  unfold admissionRounds
  exact Ends.bind (ends_round .stop hfree) (.pure _)

theorem history_refused (receipt : AutoJoinSkipReceipt) (pull labelled : PullRequestSnapshot) (hs : History w C s)
    (hstatus : Keyed status.analysis.pullRequests) (hafter : Keyed after.analysis.pullRequests)
    (hskipped : status.admission.skipped = [])
    (hcurrent : status.analysis.pullRequests[receipt.candidatePr]? = some pull)
    (hbare : pull.hasLabel autoAdmissionSkipLabel = false) (hlabelled : labelled.number = receipt.candidatePr)
    (hsize : ((receipt.finalizeHash w).commentBody w).utf8ByteSize ≤ maxAutoAdmissionCommentBytes)
    (hfree : ∀ t : SkipWorld,t.author = s.author → Unhindered C t)
    (hend : Unhindered C ((s.posted receipt.candidatePr ((receipt.finalizeHash w).commentBody w)).labelled
      receipt.candidatePr .cara)) :
    History w C ((s.posted receipt.candidatePr ((receipt.finalizeHash w).commentBody w)).labelled
      receipt.candidatePr .cara) := by
  obtain ⟨q,hpersist⟩ : ∃ q,Ends (SkipStep w C) (persistAutoSkip w (receipt.finalizeHash w)) s
      { SyncProgress.new status "op-1" 100 with
        current := status.analysis.pullRequests,mergeCandidates := status.mergeCandidates }
      ((s.posted receipt.candidatePr ((receipt.finalizeHash w).commentBody w)).labelled
        receipt.candidatePr .cara) true q :=
    ends_persistAutoSkip hcurrent (hstatus _ _ hcurrent) hbare hlabelled hsize (hfree _ rfl) (hfree _ rfl)
  have hrun : Ends (SkipStep w C) (runAutoAdmission w {} 2 status) s (.new status "op-1" 100)
      ((s.posted receipt.candidatePr ((receipt.finalizeHash w).commentBody w)).labelled
        receipt.candidatePr .cara) (after,{})
      { q with current := after.analysis.pullRequests,mergeCandidates := after.mergeCandidates } := by
    unfold runAutoAdmission
    refine Ends.bind (.modify _) ?_
    refine Ends.bind (ends_turn (hfree s rfl) (by rw [hskipped]; rfl)) ?_
    refine Ends.bind (Ends.bind (ends_round (.refuse receipt) (hfree s rfl)) ?_) (.pure _)
    refine Ends.bind hpersist ?_
    exact Ends.bind (ends_refreshStatus hend hafter) (ends_stop hend)
  exact .tick {} 2 _ hs hstatus hrun.run.stops

/-- The provider after the comment that announces this stale receipt. -/
def announced (s : SkipWorld) (pull : PullRequestSnapshot) (receipt : AutoJoinSkipReceipt) : SkipWorld :=
  s.posted pull.number (invalidationBody
    (invalidationMarker pull.number pull.head.oid receipt.evidenceHash) receipt.evidenceHash)

theorem ends_removeStaleSkip {bare : PullRequestSnapshot} (hafter : Keyed after.analysis.pullRequests)
    (hbare : bare.number = pull.number) (hfree : Unhindered C s) (hannounced : Unhindered C (announced s pull receipt))
    (hend : Unhindered C ((announced s pull receipt).unlabelled pull.number)) :
    ∃ q,Ends (SkipStep w C) (removeStaleSkip pull.number pull receipt) s p
      ((announced s pull receipt).unlabelled pull.number) after q := by
  have hseen : (p.record (commented pull) "posted stale-skip invalidation authorization").current[
      pull.number]? = some pull := current_record (commented pull) _
  refine ⟨{ (p.record (commented pull) "posted stale-skip invalidation authorization").record
      ⟨.removeLabel,none,bare,none⟩ "removed stale generation-bound automatic admission skip" with
        current := after.analysis.pullRequests,mergeCandidates := after.mergeCandidates },?_⟩
  unfold removeStaleSkip
  refine Ends.bind (ends_receipt (announced s pull receipt) (commented pull) hfree
    ⟨.inr rfl,after_number rfl⟩) ?_
  refine Ends.bind (ends_recordMarkedComment pull _ _) ?_
  refine Ends.bind (ends_trackedPrecondition hseen) ?_
  refine Ends.bind (ends_receipt ((announced s pull receipt).unlabelled pull.number)
    ⟨.removeLabel,none,bare,none⟩ hannounced ⟨.inr ⟨rfl,rfl⟩,after_number hbare⟩) ?_
  exact Ends.bind (.modify _) (ends_refreshStatus hend hafter)

theorem ends_cursorHit (hfree : Unhindered C s) :
    Ends (SkipStep w C) (cursorHit w config status pr pull) s p s false p := by
  unfold cursorHit
  exact Ends.bind (ends_ask (a := .cursor none) hfree rfl rfl (fun _ h => by cases h)
    fun _ h => by cases h) (.pure _)

theorem ends_revalidateRow {body : String} {bare : PullRequestSnapshot} {out : AutoAdmissionOutput}
    (hafter : Keyed after.analysis.pullRequests) (hbare : bare.number = pull.number)
    (hbody : body ∈ s.comments pull.number) (hreceipt : AutoJoinSkipReceipt.fromComment w body = some receipt)
    (hstale : skipReceiptMatches w config status receipt = false) (hcapacity : hasMutationCapacity p 2 = true)
    (hfree : Unhindered C s) (hannounced : Unhindered C (announced s pull receipt))
    (hend : Unhindered C ((announced s pull receipt).unlabelled pull.number)) :
    ∃ q,Ends (SkipStep w C) (revalidateRow w config status pull.number pull out) s p
      ((announced s pull receipt).unlabelled pull.number) (some after,out) q := by
  obtain ⟨q,hremove⟩ := ends_removeStaleSkip (w := w) (p := p) hafter hbare hfree hannounced hend
  refine ⟨q,?_⟩
  unfold revalidateRow
  refine Ends.bind (ends_ask (a := .bodies [body]) hfree ⟨rfl,?_⟩ rfl (fun _ h => by cases h)
    fun _ h => by cases h) ?_
  · rintro _ he
    cases he
    exact List.cons_subset.mpr ⟨hbody,List.nil_subset _⟩
  have hretained : [body].reverse.findSome? (AutoJoinSkipReceipt.fromComment w) = some receipt := by
    rw [List.reverse_singleton,List.findSome?_cons,hreceipt]
  simp only [hretained]
  have hexact : Ends (SkipStep w C) (skipExact w config status pull.number (some receipt)) s p s false p := by
    unfold skipExact
    show Ends _ (if (!skipReceiptMatches w config status receipt) = true then _ else _) _ _ _ _ _
    rw [hstale]
    exact .pure _
  refine Ends.bind hexact (Ends.bind .get ?_)
  show Ends _ (if (!hasMutationCapacity p 2) = true then _ else _) _ _ _ _ _
  rw [hcapacity]
  exact Ends.bind hremove (.pure _)

/-- A tick that finds the label next to a receipt that no longer matches takes it away. -/
theorem history_stale (row : Admission.SkippedAdmissionCandidate) (bare : PullRequestSnapshot) {body : String}
    (hs : History w C s) (hstatus : Keyed status.analysis.pullRequests)
    (hafter : Keyed after.analysis.pullRequests) (hskipped : status.admission.skipped = [row])
    (hdone : after.admission.skipped = []) (hcurrent : status.analysis.pullRequests[row.pr]? = some pull)
    (hbare : bare.number = pull.number) (hbody : body ∈ s.comments pull.number)
    (hreceipt : AutoJoinSkipReceipt.fromComment w body = some receipt)
    (hstale : skipReceiptMatches w {} status receipt = false)
    (hfree : Unhindered C s) (hannounced : Unhindered C (announced s pull receipt))
    (hend : Unhindered C ((announced s pull receipt).unlabelled pull.number)) :
    History w C ((announced s pull receipt).unlabelled pull.number) := by
  have hnumber : pull.number = row.pr := hstatus _ _ hcurrent
  obtain ⟨q,hrow⟩ : ∃ q,Ends (SkipStep w C) (revalidateRow w {} status pull.number pull {}) s
      { SyncProgress.new status "op-1" 100 with
        current := status.analysis.pullRequests,mergeCandidates := status.mergeCandidates }
      ((announced s pull receipt).unlabelled pull.number) (some after,{}) q :=
    ends_revalidateRow hafter hbare hbody hreceipt hstale rfl hfree hannounced hend
  have hscan : Ends (SkipStep w C) (revalidateSkips w {} 2 status [] {}) s
      { SyncProgress.new status "op-1" 100 with
        current := status.analysis.pullRequests,mergeCandidates := status.mergeCandidates }
      ((announced s pull receipt).unlabelled pull.number) (after,{}) q := by
    unfold revalidateSkips
    refine Ends.bind (ends_flag false hfree (.inl rfl)) ?_
    refine Ends.bind (ends_flag false hfree (.inr rfl)) ?_
    rw [hskipped,List.find?_cons_of_pos rfl]
    dsimp only
    rw [hcurrent,← hnumber]
    refine Ends.bind (ends_cursorHit hfree) ?_
    exact Ends.bind hrow (ends_turn hend (by rw [hdone]; rfl))
  have hrun : Ends (SkipStep w C) (runAutoAdmission w {} 2 status) s (.new status "op-1" 100)
      ((announced s pull receipt).unlabelled pull.number) (after,{}) q := by
    unfold runAutoAdmission
    refine Ends.bind (.modify _) (Ends.bind hscan ?_)
    exact Ends.bind (ends_stop hend) (.pure _)
  exact .tick {} 2 _ hs hstatus hrun.run.stops

end Runs

section Samples

def octoSkip : RepositoryId := ⟨"octo","app"⟩

def octoMain : BranchSnapshot := ⟨octoSkip,"main","d0"⟩

def sevenAt (head : CommitOid) (labels : Finset String) : PullRequestSnapshot where
  number := 7
  state := .open
  head := ⟨octoSkip,"feature",head⟩
  base := octoMain
  labels := labels
  autoMerge := .disabled

def sevenStatus (pull : PullRequestSnapshot) : StatusOutput where
  repository := octoSkip
  defaultBranch := "main"
  analysis := {
    fleet := { repository := octoSkip,defaultBranch := octoMain }
    pullRequests := (∅ : PullRequestMap).insert 7 pull }
  admission := { noAdmission with
    skipped := if pull.hasLabel autoAdmissionSkipLabel then [{ pr := 7,reason := "labelled" }] else [] }

def refusalOfSeven : AutoJoinSkipReceipt where
  schemaVersion := 1
  repository := octoSkip
  candidatePr := 7
  candidateHead := ⟨octoSkip,"feature","h1"⟩
  candidateBase := octoMain
  defaultBranch := octoMain
  testedTails := []
  configFingerprint := "fnv1a64:cbf29ce484222325"
  heuristicVersion := autoAdmissionHeuristicVersion
  compatibilityReasons := ["conflict"]
  actor := "cara"
  observedUnixSecs := 0
  evidenceHash := ""

/-- Serializers that tell apart the hashes of a receipt and nothing else. -/
def sevenWire : SkipWire where
  receiptJson receipt := receipt.evidenceHash.toList.map fun c => UInt8.ofNat c.toNat
  parseReceipt bytes := some { refusalOfSeven with
    evidenceHash := String.ofList (bytes.map fun b => Char.ofNat b.toNat) }
  configJson _ := []

def postedRefusal : AutoJoinSkipReceipt := refusalOfSeven.finalizeHash sevenWire

theorem keyed_seven (head : CommitOid) (labels : Finset String) :
    Keyed (sevenStatus (sevenAt head labels)).analysis.pullRequests := by
  have hempty : Keyed ∅ := by
    intro n found hn
    cases hn
  have hinsert : Keyed ((∅ : PullRequestMap).insert 7 (sevenAt head labels)) := hempty.insert rfl
  exact hinsert

theorem size_postedRefusal :
    (postedRefusal.commentBody sevenWire).utf8ByteSize ≤ maxAutoAdmissionCommentBytes := by
  unfold AutoJoinSkipReceipt.commentBody
  rw [String.ofList_append,String.ofList_toList,String.ofList_toList,String.utf8ByteSize_append]
  have hmarker : (postedRefusal.marker sevenWire).utf8ByteSize ≤ 1000 := by decide +kernel
  have htext : postedRefusal.commentText.utf8ByteSize ≤ 2000 := by
    unfold AutoJoinSkipReceipt.commentText
    simp only [String.utf8ByteSize_append]
    decide +kernel
  have hmax : maxAutoAdmissionCommentBytes = 61440 := rfl
  omega

theorem reads_postedRefusal :
    AutoJoinSkipReceipt.fromComment sevenWire (postedRefusal.commentBody sevenWire) = some postedRefusal :=
  fromComment_commentBody (by decide +kernel) hashIsValid_finalizeHash

theorem stale_postedRefusal : skipReceiptMatches sevenWire {}
    (sevenStatus (sevenAt "h2" {autoAdmissionSkipLabel})) postedRefusal = false := by decide +kernel

def refusedSeven : SkipWorld := (SkipWorld.posted {} 7 (postedRefusal.commentBody sevenWire)).labelled 7 .cara

theorem fresh_empty : Fresh sevenWire {} where
  author _ h := by cases h
  receipt _ h := by
    obtain ⟨_,hbody,_⟩ := h
    cases hbody
  removals := rfl

theorem author_refusedSeven (n : PrNumber) : refusedSeven.author n ≠ some .operator := by
  unfold refusedSeven
  rw [author_labelled]
  split_ifs <;> intro h <;> cases h

theorem history_refusedSeven {C : Conduct} (hfree : ∀ s : SkipWorld,(∀ n,s.author n ≠ some .operator) → Unhindered C s) :
    History sevenWire C refusedSeven := by
  apply history_refused refusalOfSeven (sevenAt "h1" ∅) (sevenAt "h1" {autoAdmissionSkipLabel})
    (.start fresh_empty) (keyed_seven "h1" ∅) (keyed_seven "h1" {autoAdmissionSkipLabel}) (by decide)
    Std.ExtTreeMap.getElem?_insert_self (by decide) rfl size_postedRefusal
  · intro t ht
    apply hfree
    rw [ht]
    exact fun _ h => by cases h
  · exact hfree _ author_refusedSeven

/-- What the second tick leaves of a state in which 7 has h2 and the label. -/
theorem history_revalidated {C : Conduct} {s : SkipWorld} (hs : History sevenWire C s)
    (hcomments : s.comments = refusedSeven.comments)
    (hfree : ∀ t : SkipWorld,(∀ n,t.author n = s.author n ∨ t.author n = none) → Unhindered C t) :
    History sevenWire C ((announced s (sevenAt "h2" {autoAdmissionSkipLabel}) postedRefusal).unlabelled 7) := by
  have hbody : postedRefusal.commentBody sevenWire ∈ s.comments 7 := by
    rw [hcomments]
    show _ ∈ (SkipWorld.posted {} 7 (postedRefusal.commentBody sevenWire)).comments 7
    exact posted_comments.mpr (.inr ⟨rfl,rfl⟩)
  apply history_stale { pr := 7,reason := "labelled" } (sevenAt "h2" ∅) hs
    (keyed_seven "h2" {autoAdmissionSkipLabel}) (keyed_seven "h2" ∅) (by decide) (by decide)
    Std.ExtTreeMap.getElem?_insert_self rfl hbody reads_postedRefusal stale_postedRefusal
  · exact hfree s fun n => .inl rfl
  · exact hfree _ fun n => .inl rfl
  · apply hfree
    intro n
    have hauthor : ((announced s (sevenAt "h2" {autoAdmissionSkipLabel}) postedRefusal).unlabelled 7).author n =
      if n = 7 then none else s.author n := author_bare n
    show ((announced s (sevenAt "h2" {autoAdmissionSkipLabel}) postedRefusal).unlabelled 7).author n = _ ∨ _
    by_cases hn : n = 7
    · right
      exact hauthor.trans (if_pos hn)
    · left
      exact hauthor.trans (if_neg hn)

/-- The author pushes h2: the tick takes Cara's own label away. -/
theorem cara_label_removed : ∃ s : SkipWorld,History sevenWire (careful sevenWire) s ∧
    (7,Author.cara) ∈ s.removals ∧ ∀ pr,(pr,Author.operator) ∉ s.removals := by
  have hrefused : History sevenWire (careful sevenWire) refusedSeven :=
    history_refusedSeven fun s hs => free_careful hs
  have hpushed : History sevenWire (careful sevenWire) (refusedSeven.moved (.push 7 "h2")) :=
    .operator hrefused (.move trivial trivial)
  have hend := history_revalidated hpushed rfl (by
    intro t ht
    apply free_careful
    intro n hn
    rcases ht n with h | h
    · exact author_refusedSeven n (h ▸ hn)
    · rw [h] at hn
      cases hn)
  refine ⟨_,hend,?_,operator_label_kept hend⟩
  exact List.mem_append_right _ (by decide)

/-- The operator takes the label off, pushes h2 and puts the label on as a hold: the tick takes the
operator's label away. -/
theorem operator_label_removed : ∃ s : SkipWorld,History sevenWire anyone s ∧ (7,Author.operator) ∈ s.removals := by
  have hrefused : History sevenWire anyone refusedSeven := history_refusedSeven fun s _ => free_anyone s
  have hlifted := History.operator hrefused (Moves.move (m := .removeLabel 7) trivial trivial)
  have hpushed := History.operator hlifted (Moves.move (m := .push 7 "h2") trivial trivial)
  have hheld := History.operator hpushed (Moves.move (m := .addLabel 7) trivial trivial)
  refine ⟨_,history_revalidated hheld rfl fun t _ => free_anyone t,?_⟩
  exact List.mem_append_right _ (by decide)

end Samples

end Sync
end Cara
