import Cara.SquashEquivalence

/-! What an analysis that drops commits has seen of Git's answers: the dropped commits are a represented
prefix of the whole range, the longest one among the evaluated boundaries, and the rest replays cleanly. -/
namespace Cara
namespace SquashEquivalence

open Prog (Yields yields_send_bind yields_ofResult_bind yields_ofResult yields_pure yields_bind_ok)

abbrev Transcript := List (GitCommand × Except CommandRunError CommandOutput)

section Reading

variable {output : CommandOutput}

/-- Lines that each name a commit and one parent, the commit of the line before. -/
def LinearFrom : CommitOid → List (List Char) → List CommitOid → Prop
  | _,[],[] => True
  | parent,line::rest,oid::commits =>
      (Text.words line).map String.ofList = [oid,parent] ∧ LinearFrom oid rest commits
  | _,_,_ => False

theorem walkChain_linear {room : ℕ} {parent : CommitOid} {rows : List (List Char)} {commits : List CommitOid}
    (h : walkChain output room parent rows = .ok commits) :
    commits.length ≤ rows.length ∧ (commits.length = rows.length → LinearFrom parent rows commits) := by
  induction rows generalizing room parent commits with
  | nil =>
    have hnil : commits = [] := by
      cases room with
      | zero => cases h; rfl
      | succ room => cases h; rfl
    rw [hnil]
    exact ⟨le_rfl,fun _ => trivial⟩
  | cons line rows ih =>
    cases room with
    | zero =>
      cases h
      exact ⟨Nat.zero_le _,fun hlength => by cases hlength⟩
    | succ room =>
      rw [walkChain] at h
      split at h
      · cases h
        exact ⟨Nat.zero_le _,fun hlength => by cases hlength⟩
      · rename_i oid parents hwords
        split_ifs at h with hoid hparents
        · cases hrest : walkChain output room oid rows with
          | error e =>
            rw [hrest] at h
            cases h
          | ok found =>
            rw [hrest] at h
            cases h
            obtain ⟨hle,hlinear⟩ := ih hrest
            refine ⟨Nat.succ_le_succ hle,fun hlength => ⟨?_,hlinear (Nat.succ.inj hlength)⟩⟩
            rw [hwords,hparents]
        · cases h
          exact ⟨Nat.zero_le _,fun hlength => by cases hlength⟩

theorem linearPrefixChain_ok {mergeBase : CommitOid} {chain : PrefixChain}
    (h : linearPrefixChain mergeBase output = .ok chain) : output.isSuccess = true ∧
      (chain.commits.length = chain.totalCommits → LinearFrom mergeBase (linesOf output) chain.commits) := by
  obtain ⟨hsuccess,h⟩ := (Guard.refuse_bind_eq_ok ..).mp h
  obtain ⟨commits,hwalk,h⟩ := Guard.bind_eq_ok.mp h
  cases h
  exact ⟨by simpa using hsuccess,(walkChain_linear hwalk).2⟩

theorem readMergeBase_some {mergeBase : CommitOid} (h : readMergeBase output = .ok (some mergeBase)) :
    output.isSuccess = true ∧ ∃ line,(linesOf output).filter (fun line => !isBlankLine line) = [line] ∧
      String.ofList (Text.trim line) = mergeBase := by
  unfold readMergeBase at h
  split_ifs at h with hzero hone
  · refine ⟨decide_eq_true hzero,?_⟩
    split at h
    · rename_i line hline
      dsimp only at h
      split_ifs at h
      cases h
      exact ⟨line,hline,rfl⟩
    · cases h
  · cases h

theorem readMergeTree_clean {merged : MergeTree} (h : readMergeTree output = .ok merged)
    (hclean : merged.outcome = .clean) : output.isSuccess = true := by
  obtain ⟨outcome,houtcome,h⟩ := Guard.bind_eq_ok.mp h
  obtain ⟨_,h⟩ := (Guard.refuse_bind_eq_ok ..).mp h
  obtain ⟨_,h⟩ := (Guard.refuse_bind_eq_ok ..).mp h
  obtain ⟨_,h⟩ := (Guard.refuse_bind_eq_ok ..).mp h
  cases h
  have hout : outcome = .clean := hclean
  unfold mergeTreeOutcome at houtcome
  split_ifs at houtcome with hzero
  · exact decide_eq_true hzero
  · cases houtcome
    cases hout

/-- Raw records, two fields each: the marker with its columns, then the path. -/
inductive Raw : List (List Char) → DiffEntries → Prop
  | nil : Raw [] []
  | cons {record path : List Char} {oldMode mode oldBlob blob status : String} {others : List String}
      {fields : List (List Char)} {entries : DiffEntries} :
      (Text.words record).map String.ofList = oldMode::mode::oldBlob::blob::status::others →
      replacement ∉ path → Raw fields entries →
      Raw ((':' :: record)::path::fields) ((String.ofList path,⟨mode,blob⟩)::entries)

theorem readMeta_ok {raw : List Char} {target : DiffTarget} (h : readMeta output raw = .ok target) :
    ∃ record oldMode oldBlob status others,raw = ':' :: record ∧
      (Text.words record).map String.ofList = oldMode::target.mode::oldBlob::target.blob::status::others := by
  unfold readMeta at h
  split at h
  · cases h
  · rename_i c record
    split_ifs at h with hmarker
    split at h
    · rename_i oldMode mode oldBlob blob status others hwords
      cases h
      exact ⟨record,_,_,_,_,by rw [not_not.mp hmarker],hwords⟩
    · cases h

theorem raw_of_diffRecords {fields : List (List Char)} {entries : DiffEntries}
    (h : diffRecords output fields = .ok (some entries)) : Raw fields entries := by
  induction fields using diffRecords.induct generalizing entries with
  | case1 =>
    cases h
    exact .nil
  | case2 raw =>
    obtain ⟨_,_,h⟩ := Guard.bind_eq_ok.mp h
    cases h
  | case3 raw path rest ih =>
    obtain ⟨target,htarget,h⟩ := Guard.bind_eq_ok.mp h
    split at h
    · cases h
    · rename_i hpath
      obtain ⟨found,hfound,h⟩ := Guard.bind_eq_ok.mp h
      cases found with
      | none => cases h
      | some found =>
        cases h
        obtain ⟨record,_,_,_,_,rfl,hwords⟩ := readMeta_ok htarget
        exact .cons hwords hpath (ih hfound)

theorem diffEntries_ok {entries : DiffEntries} (h : diffEntries output = .ok (some entries)) :
    output.isSuccess = true ∧ Raw (Text.nulFields output.stdout.toList) entries := by
  obtain ⟨hsuccess,h⟩ := (Guard.refuse_bind_eq_ok ..).mp h
  exact ⟨by simpa using hsuccess,raw_of_diffRecords h⟩

structure RawChange where
  oldMode : List Char
  mode : List Char
  oldBlob : List Char
  blob : List Char
  status : List Char
  path : List Char

namespace RawChange

def columns (c : RawChange) : List (List Char) := [c.oldMode,c.mode,c.oldBlob,c.blob,c.status]

def record (c : RawChange) : List Char :=
  c.oldMode ++ ' ' :: (c.mode ++ ' ' :: (c.oldBlob ++ ' ' :: (c.blob ++ ' ' :: c.status)))

def render (c : RawChange) : List Char := (':' :: c.record) ++ Text.nul::(c.path ++ [Text.nul])

structure WellFormed (c : RawChange) : Prop where
  words : ∀ column ∈ c.columns,column ≠ [] ∧ ∀ x ∈ column,Text.isWhitespace x = false ∧ x ≠ Text.nul
  path : c.path ≠ [] ∧ Text.nul ∉ c.path ∧ replacement ∉ c.path

def entry (c : RawChange) : String × DiffTarget :=
  (String.ofList c.path,⟨String.ofList c.mode,String.ofList c.blob⟩)

variable {c : RawChange} (h : c.WellFormed)

include h

theorem words_record : Text.words c.record = c.columns := by
  have hword := fun column hcolumn => (h.words column hcolumn).1
  have hplain := fun column hcolumn x hx => ((h.words column hcolumn).2 x hx).1
  unfold record
  rw [Text.words_cons (hword _ (by simp [columns])) (hplain _ (by simp [columns])),
    Text.words_cons (hword _ (by simp [columns])) (hplain _ (by simp [columns])),
    Text.words_cons (hword _ (by simp [columns])) (hplain _ (by simp [columns])),
    Text.words_cons (hword _ (by simp [columns])) (hplain _ (by simp [columns])),
    Text.words_single (hword _ (by simp [columns])) (hplain _ (by simp [columns]))]
  rfl

theorem nul_record : Text.nul ∉ ':' :: c.record := by
  have hfree : ∀ column ∈ c.columns,Text.nul ∉ column := fun column hcolumn hin =>
    ((h.words column hcolumn).2 _ hin).2 rfl
  simp only [columns,List.mem_cons,List.not_mem_nil,or_false,forall_eq_or_imp,forall_eq] at hfree
  obtain ⟨h1,h2,h3,h4,h5⟩ := hfree
  have hcolon : Text.nul ≠ ':' := by decide
  have hblank : Text.nul ≠ ' ' := by decide
  simp [record,h1,h2,h3,h4,h5,hcolon,hblank]

theorem nulFields_render (rest : List Char) :
    Text.nulFields (c.render ++ rest) = (':' :: c.record)::c.path::Text.nulFields rest := by
  have hfields : c.render ++ rest = (':' :: c.record) ++ Text.nul::(c.path ++ Text.nul::rest) := by simp [render]
  rw [hfields,Text.nulFields_append (nul_record h) (by simp),Text.nulFields_append h.path.2.1 h.path.1]

theorem readMeta_record : readMeta output (':' :: c.record) = .ok ⟨String.ofList c.mode,String.ofList c.blob⟩ := by
  unfold readMeta
  show (if ':' ≠ ':' then _ else _) = _
  rw [if_neg (by simp),words_record h]
  rfl

end RawChange

theorem diffRecords_render {changes : List RawChange} (h : ∀ c ∈ changes,c.WellFormed) :
    diffRecords output (Text.nulFields (changes.flatMap (·.render))) = .ok (some (changes.map (·.entry))) := by
  induction changes with
  | nil => rfl
  | cons c changes ih =>
    have hc := h c List.mem_cons_self
    have hrest := ih fun c' hc' => h c' (List.mem_cons_of_mem _ hc')
    rw [List.flatMap_cons,RawChange.nulFields_render hc,diffRecords,RawChange.readMeta_record hc]
    show (if replacement ∈ c.path then _ else _) = _
    rw [if_neg hc.path.2.2,hrest]
    rfl

/-- Every record that Git prints is read, with its path and its new entry; the last record of a path
stands for it. -/
theorem diffEntries_render {changes : List RawChange} (h : ∀ c ∈ changes,c.WellFormed)
    (hsuccess : output.isSuccess = true) (htext : output.stdout.toList = changes.flatMap (·.render)) :
    diffEntries output = .ok (some (changes.map (·.entry))) ∧
    (∀ path,entryOf (changes.map (·.entry)) path =
      (changes.reverse.find? fun c => decide (String.ofList c.path = path)).map (·.entry.2)) ∧
    ∀ path,path ∈ pathsOf (changes.map (·.entry)) ↔ ∃ c ∈ changes,String.ofList c.path = path := by
  refine ⟨?_,fun path => ?_,fun path => ?_⟩
  · unfold diffEntries
    rw [hsuccess,htext]
    exact diffRecords_render h
  · rw [entryOf,← List.map_reverse,List.find?_map,Option.map_map]
    rfl
  · rw [pathsOf,Vec.mem_dedupAdjacent,List.mem_insertionSort,List.map_map,List.mem_map]
    rfl

def fileMode : List Char := ['1','0','0','6','4','4']

def madeExecutable : RawChange := ⟨fileMode,['1','0','0','7','5','5'],['b','1'],['b','1'],['M'],['m','y',' ','t']⟩

def deletedNote : RawChange := ⟨fileMode,['0'],['b','2'],['0'],['D'],['n']⟩

theorem diffEntries_render_two : ∃ output,
    diffEntries output = .ok (some [("my t",⟨"100755","b1"⟩),("n",⟨"0","0"⟩)]) := by
  have hformed : ∀ c ∈ [madeExecutable,deletedNote],c.WellFormed := by
    rw [List.forall_mem_cons,List.forall_mem_singleton]
    constructor <;> refine ⟨?_,by decide +kernel⟩ <;> simp only [madeExecutable,deletedNote,fileMode,
      RawChange.columns,List.forall_mem_cons,List.not_mem_nil,false_imp_iff,implies_true,and_true] <;> decide
  exact ⟨⟨some 0,String.ofList ([madeExecutable,deletedNote].flatMap (·.render)),""⟩,
    (diffEntries_render hformed rfl String.toList_ofList).1⟩

end Reading

section Asking

variable {α β : Type} {t : Transcript} {command : GitCommand} {read : CommandOutput → Except GitError α}

theorem mapError_eq_ok {ε ε' : Type} {f : ε → ε'} {x : Except ε α} {a : α} :
    x.mapError f = .ok a ↔ x = .ok a := by
  cases x with
  | error e => simp [Except.mapError]
  | ok b => simp [Except.mapError]

theorem yields_ask {a : α} : Yields (ask command read) t (.ok a) ↔
    ∃ output,t = [(command,.ok output)] ∧ read output = .ok a := by
  unfold ask
  simp only [yields_send_bind,yields_ofResult_bind,yields_ofResult,mapError_eq_ok]
  constructor
  · rintro ⟨answer,t',ht,output,rfl,ht',hread⟩
    exact ⟨output,by rw [ht,ht'],hread.symm⟩
  · rintro ⟨output,ht,hread⟩
    exact ⟨_,[],ht,output,rfl,rfl,hread.symm⟩

theorem yields_ask_bind {f : α → Git β} {b : β} : Yields (ask command read >>= f) t (.ok b) ↔
    ∃ output a t',t = (command,.ok output)::t' ∧ read output = .ok a ∧ Yields (f a) t' (.ok b) := by
  rw [yields_bind_ok]
  simp only [yields_ask]
  constructor
  · rintro ⟨a,t₁,t₂,ht,⟨output,rfl,hread⟩,hf⟩
    exact ⟨output,a,t₂,ht,hread,hf⟩
  · rintro ⟨output,a,t',ht,hread,hf⟩
    exact ⟨a,_,t',ht,⟨output,rfl,hread⟩,hf⟩

def Said (t : Transcript) (command : GitCommand) (output : CommandOutput) : Prop := (command,.ok output) ∈ t

theorem Said.mono {t' : Transcript} {output : CommandOutput} (h : Said t command output) (hsub : t ⊆ t') :
    Said t' command output := hsub h

/-- A difference between two commits that Git was asked for and that was read. -/
def Diffed (t : Transcript) (source target : CommitOid) (entries : DiffEntries) : Prop :=
  ∃ output,Said t (diffCommand source target) output ∧ output.isSuccess = true ∧
    Raw (Text.nulFields output.stdout.toList) entries

theorem Diffed.mono {t' : Transcript} {source target : CommitOid} {entries : DiffEntries}
    (h : Diffed t source target entries) (hsub : t ⊆ t') : Diffed t' source target entries := by
  obtain ⟨output,hsaid,hraw⟩ := h
  exact ⟨output,hsaid.mono hsub,hraw⟩

end Asking

section Describing

variable {t : Transcript} {mergeBase : CommitOid} {commits : List CommitOid} {droppedThrough : ℕ}
  {droppedAction : ReconciliationAction} {rows : List AnalyzedCommit}

def actionAt (droppedThrough : ℕ) (droppedAction : ReconciliationAction) (index : ℕ) : ReconciliationAction :=
  if index ≤ droppedThrough then droppedAction else .retained

theorem describeRows_ok {parent : CommitOid} {sources : List ((CommitOid × ℕ) × CommitOid)}
    (h : Yields (describeRows droppedThrough droppedAction parent sources) t (.ok rows)) :
    rows.map (fun row => (row.oid,row.action)) =
      sources.map fun source => (source.1.1,actionAt droppedThrough droppedAction source.1.2) := by
  induction sources generalizing parent t rows with
  | nil =>
    obtain ⟨_,hrows⟩ := (yields_pure _ _).mp h
    cases hrows
    rfl
  | cons source sources ih =>
    obtain ⟨⟨oid,index⟩,tree⟩ := source
    unfold describeRows at h
    obtain ⟨paths,t₁,t₂,_,_,h⟩ := (yields_bind_ok _ _ _).mp h
    obtain ⟨others,t₃,t₄,_,hothers,h⟩ := (yields_bind_ok _ _ _).mp h
    obtain ⟨_,hrows⟩ := (yields_pure _ _).mp h
    cases hrows
    rw [List.map_cons,ih hothers]
    rfl

theorem readCommitTrees_length {count : ℕ} {output : CommandOutput} {trees : List CommitOid}
    (h : readCommitTrees count output = .ok trees) : trees.length = count := by
  obtain ⟨_,h⟩ := (Guard.refuse_bind_eq_ok ..).mp h
  obtain ⟨found,_,h⟩ := Guard.bind_eq_ok.mp h
  obtain ⟨hcount,h⟩ := (Guard.refuse_bind_eq_ok ..).mp h
  cases h
  exact not_not.mp (of_decide_eq_false hcount)

theorem commitTrees_length {trees : List CommitOid} (h : Yields (commitTrees commits) t (.ok trees)) :
    trees.length = commits.length := by
  unfold commitTrees at h
  split at h
  · rename_i hnone
    obtain ⟨_,htrees⟩ := (yields_pure _ _).mp h
    cases htrees
    rw [hnone]
  · obtain ⟨output,_,hread⟩ := yields_ask.mp h
    exact readCommitTrees_length hread

theorem describeCommits_ok (h : Yields (describeCommits mergeBase commits droppedThrough droppedAction) t (.ok rows)) :
    rows.map (fun row => (row.oid,row.action)) =
      commits.zipIdx.map fun source => (source.1,actionAt droppedThrough droppedAction source.2) := by
  obtain ⟨trees,t₁,t₂,_,htrees,h⟩ := (yields_bind_ok _ _ _).mp h
  have hzip : (commits.zipIdx.zip trees).map Prod.fst = commits.zipIdx :=
    List.map_fst_zip (by rw [List.length_zipIdx,commitTrees_length htrees])
  rw [describeRows_ok h]
  conv_rhs => rw [← hzip,List.map_map]
  rfl

theorem retained_of_described (h : Yields (describeCommits mergeBase commits droppedThrough .retained) t (.ok rows)) :
    ∀ row ∈ rows,row.action = .retained := by
  intro row hrow
  have hmem : (row.oid,row.action) ∈ rows.map fun row => (row.oid,row.action) := List.mem_map_of_mem hrow
  rw [describeCommits_ok h] at hmem
  obtain ⟨source,_,hsame⟩ := List.mem_map.mp hmem
  have haction : actionAt droppedThrough .retained source.2 = row.action := congrArg Prod.snd hsame
  rw [← haction]
  unfold actionAt
  split <;> rfl

end Describing

section Searching

variable {t : Transcript} {mergeBase : CommitOid} {target entries : DiffEntries} {commits : List CommitOid}

/-- Every path of the records, and there are some, has the same new entry in the target's. -/
def Represents (target cumulative : DiffEntries) : Prop :=
  cumulative ≠ [] ∧ ∀ path,entryOf cumulative path ≠ none → entryOf target path = entryOf cumulative path

theorem entryOf_ne_none {path : String} : entryOf entries path ≠ none ↔ ∃ entry ∈ entries,entry.1 = path := by
  unfold entryOf
  rw [ne_eq,Option.map_eq_none_iff,List.find?_eq_none]
  simp

theorem represented_iff : represented target entries = true ↔ Represents target entries := by
  unfold represented Represents
  simp only [Bool.and_eq_true,Bool.not_eq_true',List.isEmpty_eq_false_iff,List.all_eq_true,decide_eq_true_eq,
    entryOf_ne_none]
  refine and_congr_right fun _ => ?_
  constructor
  · rintro h path ⟨entry,hentry,rfl⟩
    exact h entry hentry
  · intro h entry hentry
    exact h entry.1 ⟨entry,hentry,rfl⟩

/-- A boundary is proven after every later one below the start was refuted. -/
theorem searchBoundary_proven {start index : ℕ} {boundary : CommitOid}
    (h : Yields (searchBoundary mergeBase target commits start) t (.ok (.proven index boundary entries))) :
    index < start ∧ boundary = commits.getD index "" ∧ Diffed t mergeBase boundary entries ∧
      Represents target entries ∧ ∀ later,index < later → later < start →
        ∃ others,Diffed t mergeBase (commits.getD later "") others ∧ ¬Represents target others := by
  induction start generalizing t with
  | zero =>
    obtain ⟨_,hnone⟩ := (yields_pure _ _).mp h
    cases hnone
  | succ start ih =>
    unfold searchBoundary at h
    obtain ⟨output,found,t',rfl,hread,h⟩ := yields_ask_bind.mp h
    cases found with
    | none =>
      obtain ⟨_,hnone⟩ := (yields_pure _ _).mp h
      cases hnone
    | some found =>
      have hasked : Diffed ((diffCommand mergeBase (commits.getD start ""),.ok output)::t') mergeBase
          (commits.getD start "") found := ⟨output,List.mem_cons_self,diffEntries_ok hread⟩
      dsimp only at h
      split at h
      · rename_i hrepresented
        obtain ⟨_,hproven⟩ := (yields_pure _ _).mp h
        cases hproven
        exact ⟨Nat.lt_succ_self _,rfl,hasked,represented_iff.mp hrepresented,fun later hlow hhigh => by omega⟩
      · rename_i hrefuted
        obtain ⟨hlt,hboundary,hdiff,hrepresents,hlater⟩ := ih h
        refine ⟨Nat.lt_succ_of_lt hlt,hboundary,hdiff.mono (List.subset_cons_self ..),hrepresents,
          fun later hlow hhigh => ?_⟩
        rcases Nat.lt_succ_iff_lt_or_eq.mp hhigh with hbelow | rfl
        · obtain ⟨others,hothers,hnot⟩ := hlater later hlow hbelow
          exact ⟨others,hothers.mono (List.subset_cons_self ..),hnot⟩
        · exact ⟨found,hasked,fun hrepresents => hrefuted (represented_iff.mpr hrepresents)⟩

end Searching

section Dropping

variable {t : Transcript} {candidateOid targetOid : CommitOid} {report out : SquashEquivalenceReport}

def Keeps (report : SquashEquivalenceReport) : Prop :=
  report.outcome ≠ .reconcilable ∧ ∀ row ∈ report.commits,row.action = .retained

/-- The commits up to the boundary are dropped after a clean replay of the rest. -/
structure Drops (t : Transcript) (report : SquashEquivalenceReport) (commits : List CommitOid) (index : ℕ)
    (boundary : CommitOid) : Prop where
  outcome : report.outcome = .reconcilable
  proven : report.provenBoundary = some boundary
  clean : ∃ output,Said t (mergeTreeCommand report.candidateOid report.targetOid (some boundary)) output ∧
    output.isSuccess = true
  rows : report.commits.map (fun row => (row.oid,row.action)) =
    commits.zipIdx.map fun source => (source.1,actionAt index .dropped source.2)

theorem reconcile_ok {mergeBase boundary : CommitOid} {commits : List CommitOid} {index : ℕ} {entries : DiffEntries}
    (h : Yields (reconcile report mergeBase commits index boundary entries) t (.ok out)) :
    out.candidateOid = report.candidateOid ∧ out.targetOid = report.targetOid ∧
      (Keeps out ∨ Drops t out commits index boundary) := by
  unfold reconcile at h
  obtain ⟨_,boundaryTree,t₁,rfl,_,h⟩ := yields_ask_bind.mp h
  obtain ⟨output,after,t₂,rfl,hread,h⟩ := yields_ask_bind.mp h
  dsimp only at h
  split at h
  · rename_i hclean
    obtain ⟨rows,t₃,t₄,rfl,hrows,h⟩ := (yields_bind_ok _ _ _).mp h
    obtain ⟨_,hout⟩ := (yields_pure _ _).mp h
    cases hout
    refine ⟨rfl,rfl,.inr ⟨rfl,rfl,⟨output,?_,readMergeTree_clean hread hclean⟩,describeCommits_ok hrows⟩⟩
    exact List.mem_cons_of_mem _ List.mem_cons_self
  · obtain ⟨rows,t₃,t₄,rfl,hrows,h⟩ := (yields_bind_ok _ _ _).mp h
    obtain ⟨_,hout⟩ := (yields_pure _ _).mp h
    cases hout
    exact ⟨rfl,rfl,.inl ⟨by simp,retained_of_described hrows⟩⟩

theorem Drops.mono {t' : Transcript} {commits : List CommitOid} {index : ℕ} {boundary : CommitOid}
    (h : Drops t report commits index boundary) (hsub : t ⊆ t') : Drops t' report commits index boundary where
  outcome := h.outcome
  proven := h.proven
  clean := by
    obtain ⟨output,hsaid,hclean⟩ := h.clean
    exact ⟨output,hsaid.mono hsub,hclean⟩
  rows := h.rows

structure Proven (t : Transcript) (mergeBase targetOid : CommitOid) (commits : List CommitOid) (index : ℕ)
    (boundary : CommitOid) (target cumulative : DiffEntries) : Prop where
  index_lt : index < evaluatedBoundaries commits
  boundary_eq : boundary = commits.getD index ""
  targetDiff : Diffed t mergeBase targetOid target
  cumulativeDiff : Diffed t mergeBase boundary cumulative
  represented : Represents target cumulative
  longest : ∀ later,index < later → later < evaluatedBoundaries commits →
    ∃ others,Diffed t mergeBase (commits.getD later "") others ∧ ¬Represents target others

theorem Proven.mono {t' : Transcript} {mergeBase : CommitOid} {commits : List CommitOid} {index : ℕ}
    {boundary : CommitOid} {target cumulative : DiffEntries}
    (h : Proven t mergeBase targetOid commits index boundary target cumulative) (hsub : t ⊆ t') :
    Proven t' mergeBase targetOid commits index boundary target cumulative where
  index_lt := h.index_lt
  boundary_eq := h.boundary_eq
  targetDiff := h.targetDiff.mono hsub
  cumulativeDiff := h.cumulativeDiff.mono hsub
  represented := h.represented
  longest later hlow hhigh := by
    obtain ⟨others,hothers,hnot⟩ := h.longest later hlow hhigh
    exact ⟨others,hothers.mono hsub,hnot⟩

theorem evaluateChain_ok {mergeBase : CommitOid} {commits : List CommitOid} (hkeeps : Keeps report)
    (h : Yields (evaluateChain report mergeBase commits) t (.ok out)) :
    Keeps out ∨ ∃ index boundary target cumulative,
      Proven t mergeBase report.targetOid commits index boundary target cumulative ∧
      Drops t out commits index boundary ∧ out.candidateOid = report.candidateOid ∧
      out.targetOid = report.targetOid := by
  unfold evaluateChain at h
  obtain ⟨output,target,t',rfl,hread,h⟩ := yields_ask_bind.mp h
  cases target with
  | none =>
    obtain ⟨_,hout⟩ := (yields_pure _ _).mp h
    cases hout
    exact .inl hkeeps
  | some target =>
    obtain ⟨found,t₁,t₂,rfl,hsearch,h⟩ := (yields_bind_ok _ _ _).mp h
    cases found with
    | unrepresentable =>
      obtain ⟨_,hout⟩ := (yields_pure _ _).mp h
      cases hout
      exact .inl hkeeps
    | exhausted =>
      obtain ⟨rows,t₃,t₄,rfl,hrows,h⟩ := (yields_bind_ok _ _ _).mp h
      obtain ⟨_,hout⟩ := (yields_pure _ _).mp h
      cases hout
      exact .inl ⟨by simp,retained_of_described hrows⟩
    | proven index boundary cumulative =>
      have hhead : ∀ row ∈ t₁,row ∈ (diffCommand mergeBase report.targetOid,Except.ok output)::(t₁ ++ t₂) :=
        fun row hrow => List.mem_cons_of_mem _ (List.mem_append_left _ hrow)
      have htail : ∀ row ∈ t₂,row ∈ (diffCommand mergeBase report.targetOid,Except.ok output)::(t₁ ++ t₂) :=
        fun row hrow => List.mem_cons_of_mem _ (List.mem_append_right _ hrow)
      obtain ⟨hcandidate,htarget,hkeeps | hdrops⟩ := reconcile_ok h
      · exact .inl hkeeps
      · obtain ⟨hlt,hboundary,hdiff,hrepresents,hlater⟩ := searchBoundary_proven hsearch
        refine .inr ⟨index,boundary,target,cumulative,⟨hlt,hboundary,?_,hdiff.mono hhead,hrepresents,?_⟩,
          hdrops.mono htail,hcandidate,htarget⟩
        · exact ⟨output,List.mem_cons_self,diffEntries_ok hread⟩
        · intro later hlow hhigh
          obtain ⟨others,hothers,hnot⟩ := hlater later hlow hhigh
          exact ⟨others,hothers.mono hhead,hnot⟩

theorem analyzeRange_ok {mergeBase : CommitOid} (hkeeps : Keeps report)
    (h : Yields (analyzeRange report mergeBase) t (.ok out)) :
    Keeps out ∨ ∃ commits index boundary target cumulative,
      (∃ output,Said t (revListCommand report.candidateOid mergeBase) output ∧ output.isSuccess = true ∧
        LinearFrom mergeBase (linesOf output) commits) ∧
      Proven t mergeBase report.targetOid commits index boundary target cumulative ∧
      Drops t out commits index boundary ∧ out.candidateOid = report.candidateOid ∧
      out.targetOid = report.targetOid := by
  unfold analyzeRange at h
  obtain ⟨_,targetTree,t₁,rfl,_,h⟩ := yields_ask_bind.mp h
  obtain ⟨_,before,t₂,rfl,_,h⟩ := yields_ask_bind.mp h
  obtain ⟨output,chain,t₃,rfl,hread,h⟩ := yields_ask_bind.mp h
  dsimp only at h
  split at h
  · obtain ⟨_,hout⟩ := (yields_pure _ _).mp h
    cases hout
    exact .inl ⟨by simp,hkeeps.2⟩
  · split at h
    · obtain ⟨_,hout⟩ := (yields_pure _ _).mp h
      cases hout
      exact .inl hkeeps
    · rename_i hnonempty hcomplete
      have hlength : chain.commits.length = chain.totalCommits := by
        simp only [Bool.and_eq_false_iff,decide_eq_false_iff_not,not_or,not_not] at hcomplete
        exact hcomplete.1
      obtain ⟨hsuccess,hlinear⟩ := linearPrefixChain_ok hread
      rcases evaluateChain_ok (by exact hkeeps) h with hkept | ⟨index,boundary,target,cumulative,hproven,hdrops,hids⟩
      · exact .inl hkept
      · have hsub : ∀ {a b c : GitCommand × Except CommandRunError CommandOutput},t₃ ⊆ a::b::c::t₃ := by
          intro a b c row hrow
          exact List.mem_cons_of_mem _ (List.mem_cons_of_mem _ (List.mem_cons_of_mem _ hrow))
        refine .inr ⟨chain.commits,index,boundary,target,cumulative,⟨output,?_,hsuccess,hlinear hlength⟩,
          hproven.mono hsub,hdrops.mono hsub,hids⟩
        exact List.mem_cons_of_mem _ (List.mem_cons_of_mem _ List.mem_cons_self)

end Dropping

section Result

variable {t : Transcript} {candidateOid targetOid : CommitOid} {report : SquashEquivalenceReport}

theorem zipIdx_filter {α : Type} (l : List α) (n k : ℕ) :
    ((l.zipIdx n).filter fun row => decide (row.2 ≤ k)).map (·.1) = l.take (k + 1 - n) ∧
      ((l.zipIdx n).filter fun row => decide (k < row.2)).map (·.1) = l.drop (k + 1 - n) := by
  induction l generalizing n with
  | nil => simp
  | cons a l ih =>
    obtain ⟨htake,hdrop⟩ := ih (n + 1)
    by_cases hle : n ≤ k
    · have hroom : k + 1 - n = (k + 1 - (n + 1)) + 1 := by omega
      simp [hle,not_lt.mpr hle,htake,hdrop,hroom]
    · have hnone : k + 1 - n = 0 ∧ k + 1 - (n + 1) = 0 := by omega
      simp [hle,not_le.mp hle,htake,hdrop,hnone]

section Rows

variable {commits : List CommitOid} {index : ℕ} {boundary : CommitOid} (h : Drops t report commits index boundary)

theorem commitsWith_eq (action : ReconciliationAction) : report.commitsWith action =
    ((report.commits.map fun row => (row.oid,row.action)).filter fun row => decide (row.2 = action)).map (·.1) := by
  rw [List.filter_map,List.map_map]
  rfl

include h

theorem Drops.dropped : report.droppedCommits = commits.take (index + 1) := by
  show report.commitsWith .dropped = _
  rw [commitsWith_eq,h.rows,List.filter_map,List.map_map]
  rw [← Nat.sub_zero (index + 1),← (zipIdx_filter commits 0 index).1]
  congr 1
  refine List.filter_congr fun row _ => ?_
  by_cases hle : row.2 ≤ index <;> simp [actionAt,hle]

theorem Drops.retained : report.retainedCommits = commits.drop (index + 1) := by
  show report.commitsWith .retained = _
  rw [commitsWith_eq,h.rows,List.filter_map,List.map_map]
  rw [← Nat.sub_zero (index + 1),← (zipIdx_filter commits 0 index).2]
  congr 1
  refine List.filter_congr fun row _ => ?_
  by_cases hlt : index < row.2 <;> simp [actionAt,hlt,not_le]

theorem Drops.order : report.commits.map (·.oid) = commits := by
  have hfirst := congrArg (List.map Prod.fst) h.rows
  rw [List.map_map,List.map_map] at hfirst
  have hrows : report.commits.map (·.oid) = commits.zipIdx.map Prod.fst := hfirst
  rw [hrows,List.zipIdx_map_fst]

end Rows

structure Reconciled (t : Transcript) (candidateOid targetOid : CommitOid) (report : SquashEquivalenceReport)
    (mergeBase boundary : CommitOid) (dropped retained : List CommitOid) (target cumulative : DiffEntries) :
    Prop where
  base : ∃ output,Said t (mergeBaseCommand candidateOid targetOid) output ∧ output.isSuccess = true ∧
    ∃ line,(linesOf output).filter (fun line => !isBlankLine line) = [line] ∧
      String.ofList (Text.trim line) = mergeBase
  range : ∃ output,Said t (revListCommand candidateOid mergeBase) output ∧ output.isSuccess = true ∧
    LinearFrom mergeBase (linesOf output) (dropped ++ retained)
  last : dropped.getLast? = some boundary
  proven : report.provenBoundary = some boundary
  targetDiff : Diffed t mergeBase targetOid target
  cumulativeDiff : Diffed t mergeBase boundary cumulative
  represented : Represents target cumulative
  longest : ∀ index later,(dropped ++ retained)[index]? = some later → dropped.length ≤ index →
    index < maxEvaluatedBoundaries → ∃ others,Diffed t mergeBase later others ∧ ¬Represents target others
  clean : ∃ output,Said t (mergeTreeCommand candidateOid targetOid (some boundary)) output ∧
    output.isSuccess = true
  drops : report.droppedCommits = dropped
  retains : report.retainedCommits = retained
  order : report.commits.map (·.oid) = dropped ++ retained

/-- A prefix is dropped only as represented history, and only by a reconcilable outcome. -/
theorem dropped_only_represented {candidate target : BranchSnapshot}
    (h : Yields (analyzeWithRunner candidate target candidateOid targetOid) t (.ok report)) :
    (report.outcome = .reconcilable → ∃ mergeBase boundary dropped retained target cumulative,
      Reconciled t candidateOid targetOid report mergeBase boundary dropped retained target cumulative) ∧
    (report.outcome ≠ .reconcilable → ∀ row ∈ report.commits,row.action = .retained) := by
  have hcases : Keeps report ∨ report.outcome = .reconcilable ∧
      ∃ mergeBase boundary dropped retained target cumulative,
        Reconciled t candidateOid targetOid report mergeBase boundary dropped retained target cumulative := by
    unfold analyzeWithRunner at h
    obtain ⟨output,found,t',rfl,hread,h⟩ := yields_ask_bind.mp h
    cases found with
    | none =>
      obtain ⟨_,hout⟩ := (yields_pure _ _).mp h
      cases hout
      exact .inl ⟨by simp,fun row hrow => by cases hrow⟩
    | some mergeBase =>
      have hfresh : Keeps
          { candidate := candidate,target := target,candidateOid := candidateOid,targetOid := targetOid } :=
        ⟨by simp,fun row hrow => by cases hrow⟩
      rcases analyzeRange_ok hfresh h with hkeeps |
        ⟨commits,index,boundary,targetEntries,cumulative,hrange,hproven,hdrops,hcandidate,htarget⟩
      · exact .inl hkeeps
      · have hsub : t' ⊆ (mergeBaseCommand candidateOid targetOid,Except.ok output)::t' := List.subset_cons_self ..
        have hlt : index < commits.length := lt_of_lt_of_le hproven.index_lt (min_le_left ..)
        have hat : commits[index]? = some boundary := by
          rw [hproven.boundary_eq,List.getD_eq_getElem?_getD,List.getElem?_eq_getElem hlt]
          rfl
        obtain ⟨hsuccess,hline⟩ := readMergeBase_some hread
        refine .inr ⟨hdrops.outcome,mergeBase,boundary,commits.take (index + 1),
          commits.drop (index + 1),targetEntries,cumulative,?_⟩
        have hclean := (hdrops.mono hsub).clean
        rw [hcandidate,htarget] at hclean
        obtain ⟨listed,hlisted,hlistedOk,hlinear⟩ := hrange
        exact {
          base := ⟨output,List.mem_cons_self,hsuccess,hline⟩
          range := ⟨listed,hlisted.mono hsub,hlistedOk,by rwa [List.take_append_drop]⟩
          last := by
            rw [List.getLast?_eq_getElem?,List.length_take,min_eq_left (by omega),Nat.add_sub_cancel,
              List.getElem?_take,if_pos (Nat.lt_succ_self _)]
            exact hat
          proven := hdrops.proven
          targetDiff := hproven.targetDiff.mono hsub
          cumulativeDiff := hproven.cumulativeDiff.mono hsub
          represented := hproven.represented
          longest := fun later other hother hpast hbound => by
            rw [List.take_append_drop] at hother
            obtain ⟨hlength,rfl⟩ := List.getElem?_eq_some_iff.mp hother
            rw [List.length_take] at hpast
            obtain ⟨others,hothers,hnot⟩ := hproven.longest later (by omega) (lt_min hlength hbound)
            refine ⟨others,?_,hnot⟩
            rw [List.getD_eq_getElem?_getD,List.getElem?_eq_getElem hlength] at hothers
            exact hothers.mono hsub
          clean := hclean
          drops := hdrops.dropped
          retains := hdrops.retained
          order := by rw [hdrops.order,List.take_append_drop] }
  rcases hcases with hkeeps | ⟨houtcome,hreconciled⟩
  · exact ⟨fun houtcome => absurd houtcome hkeeps.1,fun _ => hkeeps.2⟩
  · exact ⟨fun _ => hreconciled,fun hnot => absurd houtcome hnot⟩

section Landed

def oidOf (c : Char) : CommitOid := String.ofList (List.replicate 40 c)

def nulText (fields : List String) : String := String.join (fields.map fun field => field ++ String.singleton Text.nul)

def answered (stdout : String) : Except CommandRunError CommandOutput := .ok ⟨some 0,stdout,""⟩

def added (path : String) (c : Char) : List String :=
  [":000000 100644 " ++ oidOf '0' ++ " " ++ oidOf c ++ " A",path]

/-- Of two commits the first landed: the target holds the file that it adds. -/
def landedAnswers : List (Except CommandRunError CommandOutput) := [
  answered (oidOf 'b' ++ "\n"),
  answered (oidOf 'e' ++ "\n"),
  answered (nulText [oidOf 'e']),
  answered (oidOf '1' ++ " " ++ oidOf 'b' ++ "\n" ++ oidOf '2' ++ " " ++ oidOf '1' ++ "\n"),
  answered (nulText (added "one" 'c')),
  answered (nulText (added "one" 'c' ++ added "two" 'd')),
  answered (nulText (added "one" 'c')),
  answered (oidOf '3' ++ "\n"),
  answered (nulText [oidOf '4']),
  answered (oidOf '3' ++ " tree\n" ++ oidOf '4' ++ " tree\n"),
  answered (nulText (added "one" 'c'))]

def landedBranch (name : String) (oid : CommitOid) : BranchSnapshot := ⟨⟨"team","app"⟩,name,oid⟩

def landedAnalysis : Git SquashEquivalenceReport :=
  analyzeWithRunner (landedBranch "feature" (oidOf '2')) (landedBranch "main" (oidOf 'a')) (oidOf '2') (oidOf 'a')

def reportOf (p : Git SquashEquivalenceReport) (answers : List (Except CommandRunError CommandOutput)) :
    Option SquashEquivalenceReport :=
  match p.run.replay answers with
  | some (some (.ok report),_) => some report
  | _ => none

theorem landed_drops : ((reportOf landedAnalysis landedAnswers).map fun report =>
      (report.outcome,report.droppedCommits,report.retainedCommits)) =
    some (.reconcilable,[oidOf '1'],[oidOf '2']) := by
  decide +kernel

theorem yields_of_reportOf {p : Git SquashEquivalenceReport}
    {answers : List (Except CommandRunError CommandOutput)} (h : reportOf p answers = some report) :
    ∃ t,Yields p t (.ok report) := by
  unfold reportOf at h
  split at h
  · rename_i found t hreplay
    cases h
    obtain ⟨s,_,hconverses⟩ := Prog.converses_of_run (Prog.run_of_replay hreplay [])
    exact ⟨s,hconverses⟩
  · cases h

theorem dropped_only_represented_landed : ∃ t report,report.outcome = .reconcilable ∧
    (report.outcome = .reconcilable → ∃ mergeBase boundary dropped retained target cumulative,
      Reconciled t (oidOf '2') (oidOf 'a') report mergeBase boundary dropped retained target cumulative) ∧
    (report.outcome ≠ .reconcilable → ∀ row ∈ report.commits,row.action = .retained) := by
  obtain ⟨report,hreport,hdrops⟩ := Option.map_eq_some_iff.mp landed_drops
  obtain ⟨t,hyields⟩ := yields_of_reportOf hreport
  exact ⟨t,report,congrArg Prod.fst hdrops,dropped_only_represented hyields⟩

end Landed

end Result

end SquashEquivalence
end Cara
