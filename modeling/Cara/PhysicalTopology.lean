import Cara.PhysicalRange

/-! The proof of a physical rewrite that keeps merges, and the shape of the old range in it. -/
namespace Cara
namespace PhysicalRebase

section MergeProof

structure RebaseTopologyMapping where
  oldOid : CommitOid
  newOid : CommitOid
  oldParents : List CommitOid
  newParents : List CommitOid
deriving DecidableEq

structure RebaseTopologyParentReplacement where
  oldParent : CommitOid
  newParent : CommitOid
deriving DecidableEq

structure MergePreservingTopology where
  strategy : String
  expectedMergeTreeOid : CommitOid
  oldCommits : List TopologyCommit
  newCommits : List TopologyCommit
  mapping : List RebaseTopologyMapping
  parentReplacement : Option RebaseTopologyParentReplacement
  elidedTargetMerges : List CommitOid
deriving DecidableEq

def resumableDecision (code message : String) (pr : PrNumber) (details : List (String × String)) : RebaseError :=
  decision code message (("pr",toString pr)::details ++ [("resumable","true")])

section Validation

variable (history : CommitHistory) (topology : List TopologyCommit) (target : BranchSnapshot)
  (boundary : Option CommitOid) (pr : PrNumber)

/-- The exact old provider base, where the range was made from it and its replacement is planned. -/
def replacedParentBoundary (rangeSource : PlannedRangeBase) (newBase : PlannedBase) : Option CommitOid :=
  if newBase.isSimulated = true ∧ (topology.any fun c => decide (rangeSource.branch.oid ∈ c.parents)) = true then
    some rangeSource.branch.oid
  else none

/-- A parent outside of the range lies behind the replaced base or the target. -/
def anchored (parent : CommitOid) : Bool :=
  (boundary.any fun b => decide (parent ∈ history.history b)) || decide (parent ∈ history.history target.oid)

def validateCommit (commit : TopologyCommit) : Except RebaseError Unit := do
  let external := commit.parents.filter fun parent => decide (parent ∉ topology.map (·.name))
  Guard.refuse commit.parents.isEmpty
    (resumableDecision "rebase_cousin_history"
      "candidate topology contains a root that is not anchored in exact target ancestry" pr
      [("commit",commit.name),("target",target.oid)])
  Guard.refuse (isMerge commit && decide (external = commit.parents))
    (resumableDecision "rebase_external_merge_parents"
      "merge commit has no parent in the candidate-only range" pr
      [("commit",commit.name),("target",target.oid)])
  Guard.refuse (external.any fun parent => !anchored history target boundary parent)
    (resumableDecision "rebase_cousin_history" ("candidate merge references history outside both the " ++
        "candidate range and target ancestry") pr [("commit",commit.name),("target",target.oid)])

def validateMergePreservingTopology : Except RebaseError Unit := do
  let _ ← topology.mapM (validateCommit history topology target boundary pr)

end Validation

section Build

variable (graph : CommitHistory) (target : CommitOid) (boundary : Option CommitOid) (pr : PrNumber)
  (old new : List TopologyCommit)

/-- The source commits that need an image, and the merges that Git dropped. -/
def mappedReplaySource : Except RebaseError (List TopologyCommit × List CommitOid) :=
  let oldWithoutMerges := old.filter fun c => !isMerge c
  if new.length = old.length then .ok (old,[])
  else if new.length = oldWithoutMerges.length ∧ (new.all fun c => !isMerge c) = true then
    .ok (oldWithoutMerges,(old.filter isMerge).map (·.name))
  else .error (resumableDecision "rebase_topology_changed" ("join refused because Git rebuilt a different " ++
      "number of commits than the source range; this usually means source patches already exist on the " ++
      "selected tail/current default or the merge structure changed, so Cara cannot prove a one-to-one " ++
      "safe replay") pr
    [("source_commit_count",toString old.length),("rebuilt_commit_count",toString new.length),
      ("dropped_commit_count",toString (old.length - new.length)),
      ("added_commit_count",toString (new.length - old.length))])

variable (oidMapping : List (CommitOid × CommitOid))

def imageOf (oid : CommitOid) : Option CommitOid :=
  (oidMapping.find? fun row => decide (row.1 = oid)).map (·.2)

def topologyChanged (message : String) (commit parent : CommitOid) : RebaseError :=
  resumableDecision "rebase_topology_changed" message pr [("new",commit),("parent",parent)]

/-- The replaced base became the target; an internal parent became its image. -/
def checkOldParent (commit : TopologyCommit) (oldParent : CommitOid) : Except RebaseError Unit :=
  if boundary = some oldParent then
    Guard.refuse (decide (target ∉ commit.parents))
      (topologyChanged pr ("merge-preserving replay did not replace the exact old provider parent with the " ++
        "retained planned parent") commit.name oldParent)
  else Guard.refuse ((imageOf oidMapping oldParent).any fun expected => decide (expected ∉ commit.parents))
    (topologyChanged pr "merge-preserving replay changed an internal candidate parent edge" commit.name oldParent)

def checkNewParent (commit : TopologyCommit) (newParent : CommitOid) : Except RebaseError Unit :=
  Guard.refuse (decide (newParent ∉ oidMapping.map (·.2) ∧ newParent ∉ graph.history target))
    (topologyChanged pr ("rebuilt merge contains a parent outside the mapped candidate range and exact " ++
      "target ancestry") commit.name newParent)

def mapCommit (pair : TopologyCommit × TopologyCommit) : Except RebaseError RebaseTopologyMapping := do
  Guard.refuse (decide (pair.1.parents.length ≠ pair.2.parents.length))
    (topologyChanged pr "merge-preserving replay changed a commit's parent cardinality" pair.2.name pair.1.name)
  let _ ← pair.1.parents.mapM (checkOldParent target boundary pr oidMapping pair.2)
  let _ ← pair.2.parents.mapM (checkNewParent graph target pr oidMapping pair.2)
  return ⟨pair.1.name,pair.2.name,pair.1.parents,pair.2.parents⟩

def revParseTree (oid : CommitOid) : Except RebaseError CommitOid :=
  match graph.treeOf oid with
  | some tree => do
      validateOid tree
      return tree
  | none => .error (decision "rebase_result_invalid" "could not resolve the simulated rebase result" [("oid",oid)])

def buildMergeTopologyProof (newHead expectedTree : CommitOid) : Except RebaseError MergePreservingTopology := do
  let newTree ← revParseTree graph newHead
  Guard.refuse (decide (newTree ≠ expectedTree))
    (resumableDecision "rebase_merge_tree_mismatch"
      "merge-preserving replay tree differs from the independently computed clean merge tree" pr
      [("expected_tree",expectedTree),("actual_tree",newTree)])
  let new ← collectRangeTopology graph [target] newHead
  let mapped ← mappedReplaySource pr old new
  let pairs := mapped.1.zip new
  let mapping ← pairs.mapM (mapCommit graph target boundary pr (pairs.map fun pair => (pair.1.name,pair.2.name)))
  return {
    strategy := if boundary.isSome then "git_rebase_merges_rebase_cousins_v3_replaced_parent"
      else "git_rebase_merges_rebase_cousins_v2"
    expectedMergeTreeOid := expectedTree
    oldCommits := old
    newCommits := new
    mapping := mapping
    parentReplacement := boundary.map (⟨·,target⟩)
    elidedTargetMerges := mapped.2 }

/-- A range with merges whose head does not contain the target yet is validated first. -/
def proveMergeRewrite (history : CommitHistory) (head : CommitOid) (targetBranch : BranchSnapshot)
    (newHead expectedTree : CommitOid) : Except RebaseError MergePreservingTopology := do
  if targetBranch.oid ∉ history.history head then
    validateMergePreservingTopology history old targetBranch boundary pr
  buildMergeTopologyProof graph targetBranch.oid boundary pr old newHead expectedTree

end Build

section Laws

variable {graph history : CommitHistory} {target : CommitOid} {boundary : Option CommitOid} {pr : PrNumber}
  {old new mapped : List TopologyCommit} {elided : List CommitOid} {oidMapping : List (CommitOid × CommitOid)}

theorem mappedReplaySource_ok (h : mappedReplaySource pr old new = .ok (mapped,elided)) :
    (new.length = old.length ∧ mapped = old ∧ elided = []) ∨
      (new.length ≠ old.length ∧ mapped = old.filter (fun c => !isMerge c) ∧
        elided = (old.filter isMerge).map (·.name)) := by
  unfold mappedReplaySource at h
  dsimp only at h
  split_ifs at h with hsame hdropped
  · cases h
    exact .inl ⟨hsame,rfl,rfl⟩
  · cases h
    exact .inr ⟨hsame,rfl,rfl⟩

theorem mappedReplaySource_length (h : mappedReplaySource pr old new = .ok (mapped,elided)) :
    mapped.length = new.length := by
  unfold mappedReplaySource at h
  dsimp only at h
  split_ifs at h with hsame hdropped
  · cases h
    exact hsame.symm
  · cases h
    exact hdropped.1.symm

theorem mem_merge_of_elided {oid : CommitOid} (h : mappedReplaySource pr old new = .ok (mapped,elided))
    (hoid : oid ∈ elided) : new.length ≠ old.length ∧ ∃ c ∈ old,c.name = oid ∧ isMerge c = true := by
  rcases mappedReplaySource_ok h with ⟨_,_,rfl⟩ | ⟨hne,_,rfl⟩
  · cases hoid
  · obtain ⟨c,hc,hname⟩ := List.mem_map.mp hoid
    obtain ⟨hc,hmerge⟩ := List.mem_filter.mp hc
    exact ⟨hne,c,hc,hname,hmerge⟩

theorem mapped_names (h : mappedReplaySource pr old new = .ok (mapped,elided)) (hnodup : (old.map (·.name)).Nodup) :
    mapped.map (·.name) = (old.map (·.name)).filter fun oid => decide (oid ∉ elided) := by
  rcases mappedReplaySource_ok h with ⟨_,rfl,rfl⟩ | ⟨_,rfl,rfl⟩
  · simp
  · rw [List.filter_map]
    congr 1
    refine List.filter_congr fun c hc => ?_
    rw [Bool.eq_iff_iff]
    simp only [Bool.not_eq_true',Function.comp_apply,decide_eq_true_eq,List.mem_map,List.mem_filter]
    constructor
    · rintro hlinear ⟨c',⟨hc',hmerge⟩,hname⟩
      rw [List.inj_on_of_nodup_map hnodup hc' hc hname,hlinear] at hmerge
      cases hmerge
    · intro hnot
      by_contra hmerge
      exact hnot ⟨c,⟨hc,by simpa using hmerge⟩,rfl⟩

theorem mapped_subset (h : mappedReplaySource pr old new = .ok (mapped,elided)) {c : TopologyCommit}
    (hc : c ∈ mapped) : c ∈ old := by
  rcases mappedReplaySource_ok h with ⟨_,rfl,_⟩ | ⟨_,rfl,_⟩
  · exact hc
  · exact (List.mem_filter.mp hc).1

theorem imageOf_eq_some {oid image : CommitOid} (hnodup : (oidMapping.map (·.1)).Nodup)
    (h : (oid,image) ∈ oidMapping) : imageOf oidMapping oid = some image := by
  unfold imageOf
  cases hfind : oidMapping.find? fun row => decide (row.1 = oid) with
  | none =>
    have hnone := List.find?_eq_none.mp hfind (oid,image) h
    simp at hnone
  | some row =>
    have hkey : row.1 = oid := by simpa using List.find?_some hfind
    rw [List.inj_on_of_nodup_map hnodup (List.mem_of_find?_eq_some hfind) h hkey]
    rfl

theorem mapCommit_ok {pair : TopologyCommit × TopologyCommit} {row : RebaseTopologyMapping}
    (h : mapCommit graph target boundary pr oidMapping pair = .ok row) :
    row = ⟨pair.1.name,pair.2.name,pair.1.parents,pair.2.parents⟩ ∧
      pair.1.parents.length = pair.2.parents.length ∧
      (∀ p ∈ pair.1.parents,boundary ≠ some p → ∀ image,imageOf oidMapping p = some image →
        image ∈ pair.2.parents) ∧
      ∀ p ∈ pair.2.parents,p ∈ oidMapping.map (·.2) ∨ p ∈ graph.history target := by
  obtain ⟨hcount,h⟩ := (Guard.refuse_bind_eq_ok ..).mp h
  obtain ⟨_,holdChecks,h⟩ := Guard.bind_eq_ok.mp h
  obtain ⟨_,hnewChecks,h⟩ := Guard.bind_eq_ok.mp h
  cases h
  refine ⟨rfl,not_not.mp (of_decide_eq_false hcount),fun p hp hne image himage => ?_,fun p hp => ?_⟩
  · obtain ⟨_,_,hcheck⟩ := Guard.mem_of_mapM_eq_ok holdChecks hp
    unfold checkOldParent at hcheck
    rw [if_neg hne,Guard.refuse_eq_ok,himage] at hcheck
    exact not_not.mp (of_decide_eq_false hcheck)
  · obtain ⟨_,_,hcheck⟩ := Guard.mem_of_mapM_eq_ok hnewChecks hp
    unfold checkNewParent at hcheck
    rw [Guard.refuse_eq_ok,decide_eq_false_iff_not,not_and_or,not_not,not_not] at hcheck
    exact hcheck

end Laws

section Embedding

variable (graph : CommitHistory) (old : List TopologyCommit) (target newHead expectedTree : CommitOid)

structure Embeds (proof : MergePreservingTopology) : Prop where
  tree : graph.treeOf newHead = some expectedTree
  sources : proof.mapping.map (·.oldOid) =
    (old.map (·.name)).filter fun oid => decide (oid ∉ proof.elidedTargetMerges)
  images : proof.mapping.map (·.newOid) = (graph.range [target] newHead).map (·.name)
  bijective : (proof.mapping.map (·.oldOid)).Nodup ∧ (proof.mapping.map (·.newOid)).Nodup
  parents : ∀ row ∈ proof.mapping,(∃ c ∈ old,c.name = row.oldOid ∧ c.parents = row.oldParents) ∧
    ∃ c ∈ graph.range [target] newHead,c.name = row.newOid ∧ c.parents = row.newParents
  counts : ∀ row ∈ proof.mapping,row.oldParents.length = row.newParents.length
  edges : ∀ row ∈ proof.mapping,∀ other ∈ proof.mapping,other.oldOid ∈ row.oldParents →
    other.newOid ∈ row.newParents
  external : ∀ row ∈ proof.mapping,∀ p ∈ row.newParents,
    (∃ other ∈ proof.mapping,other.newOid = p) ∨ p ∈ graph.history target
  elided : ∀ oid ∈ proof.elidedTargetMerges,∃ c ∈ old,c.name = oid ∧ c.parents.length = 2 ∧
    ∃ p ∈ c.parents,p ∉ old.map (·.name)

/-- Every merge of the old range merges something from outside of it. -/
def MergesOutside : Prop := ∀ c ∈ old,isMerge c = true → ∃ p ∈ c.parents,p ∉ old.map (·.name)

def rowOf (pair : TopologyCommit × TopologyCommit) : RebaseTopologyMapping :=
  ⟨pair.1.name,pair.2.name,pair.1.parents,pair.2.parents⟩

structure Built (boundary : Option CommitOid) (pr : PrNumber) (proof : MergePreservingTopology)
    (mapped : List TopologyCommit) : Prop where
  tree : graph.treeOf newHead = some expectedTree
  source : mappedReplaySource pr old (graph.range [target] newHead) = .ok (mapped,proof.elidedTargetMerges)
  mapping : proof.mapping = (mapped.zip (graph.range [target] newHead)).map rowOf
  checked : ∀ pair ∈ mapped.zip (graph.range [target] newHead),mapCommit graph target boundary pr
    ((mapped.zip (graph.range [target] newHead)).map fun pair => (pair.1.name,pair.2.name)) pair = .ok (rowOf pair)

variable {graph old target newHead expectedTree} {boundary : Option CommitOid} {pr : PrNumber}
  {proof : MergePreservingTopology}

theorem built_of_ok (h : buildMergeTopologyProof graph target boundary pr old newHead expectedTree = .ok proof) :
    ∃ mapped,Built graph old target newHead expectedTree boundary pr proof mapped := by
  obtain ⟨newTree,htree,h⟩ := Guard.bind_eq_ok.mp h
  obtain ⟨hsame,h⟩ := (Guard.refuse_bind_eq_ok ..).mp h
  obtain ⟨new,hnew,h⟩ := Guard.bind_eq_ok.mp h
  obtain ⟨⟨mapped,elided⟩,hsource,h⟩ := Guard.bind_eq_ok.mp h
  obtain ⟨mapping,hmapping,h⟩ := Guard.bind_eq_ok.mp h
  cases h
  obtain ⟨rfl,_⟩ := collectRangeTopology_ok.mp hnew
  have hrows := Guard.eq_map_of_mapM_eq_ok hmapping fun pair _ row hrow => (mapCommit_ok hrow).1
  refine ⟨mapped,⟨?_,hsource,hrows,fun pair hpair => ?_⟩⟩
  · have hexpected := not_not.mp (of_decide_eq_false hsame)
    unfold revParseTree at htree
    cases hfound : graph.treeOf newHead with
    | none =>
      rw [hfound] at htree
      cases htree
    | some tree =>
      rw [hfound] at htree
      have hpure := (Guard.unit_bind_eq_ok.mp htree).2
      cases hpure
      rw [hexpected]
  · obtain ⟨row,_,hrow⟩ := Guard.mem_of_mapM_eq_ok hmapping hpair
    rw [hrow,(mapCommit_ok hrow).1]
    rfl

namespace Built

variable {mapped : List TopologyCommit}

theorem sources (h : Built graph old target newHead expectedTree boundary pr proof mapped) :
    proof.mapping.map (·.oldOid) = mapped.map (·.name) := by
  have hzip : (mapped.zip (graph.range [target] newHead)).map Prod.fst = mapped :=
    List.map_fst_zip (mappedReplaySource_length h.source).le
  rw [h.mapping,List.map_map]
  conv_rhs => rw [← hzip,List.map_map]
  rfl

theorem images (h : Built graph old target newHead expectedTree boundary pr proof mapped) :
    proof.mapping.map (·.newOid) = (graph.range [target] newHead).map (·.name) := by
  have hzip : (mapped.zip (graph.range [target] newHead)).map Prod.snd = graph.range [target] newHead :=
    List.map_snd_zip (mappedReplaySource_length h.source).ge
  rw [h.mapping,List.map_map]
  conv_rhs => rw [← hzip,List.map_map]
  rfl

theorem oidMapping_eq (h : Built graph old target newHead expectedTree boundary pr proof mapped) :
    (mapped.zip (graph.range [target] newHead)).map (fun pair => (pair.1.name,pair.2.name)) =
      proof.mapping.map fun row => (row.oldOid,row.newOid) := by
  rw [h.mapping,List.map_map]
  rfl

/-- Nothing of the shape is lost but, perhaps, merges of the range itself. -/
theorem embeds_iff (h : Built graph old target newHead expectedTree boundary pr proof mapped)
    (hnodup : (old.map (·.name)).Nodup) (hboundary : ∀ b,boundary = some b → b ∉ old.map (·.name)) :
    Embeds graph old target newHead expectedTree proof ↔
      (graph.range [target] newHead).length = old.length ∨ MergesOutside old := by
  have hnames := mapped_names h.source hnodup
  have hkeys : (proof.mapping.map (·.oldOid)).Nodup := by
    rw [h.sources,hnames]
    exact hnodup.filter _
  have hrow : ∀ row ∈ proof.mapping,∃ pair ∈ mapped.zip (graph.range [target] newHead),row = rowOf pair ∧
      pair.1 ∈ old ∧ pair.2 ∈ graph.range [target] newHead := by
    intro row hrow
    rw [h.mapping] at hrow
    obtain ⟨pair,hpair,rfl⟩ := List.mem_map.mp hrow
    obtain ⟨hfirst,hsecond⟩ := List.of_mem_zip hpair
    exact ⟨pair,hpair,rfl,mapped_subset h.source hfirst,hsecond⟩
  constructor
  · intro hembeds
    by_cases hsame : (graph.range [target] newHead).length = old.length
    · exact .inl hsame
    · refine .inr fun c hc hmerge => ?_
      rcases mappedReplaySource_ok h.source with ⟨heq,_⟩ | ⟨_,_,helided⟩
      · exact absurd heq hsame
      · obtain ⟨c',hc',hname,_,houtside⟩ := hembeds.elided c.name
          (helided ▸ List.mem_map_of_mem (List.mem_filter.mpr ⟨hc,hmerge⟩))
        rwa [List.inj_on_of_nodup_map hnodup hc' hc hname] at houtside
  · intro hlegitimate
    refine {
      tree := h.tree
      sources := h.sources.trans hnames
      images := h.images
      bijective := ⟨hkeys,h.images ▸ CommitGraph.nodup_range⟩
      parents := fun row hmem => ?_
      counts := fun row hmem => ?_
      edges := fun row hmem other hother hin => ?_
      external := fun row hmem p hp => ?_
      elided := fun oid hoid => ?_ }
    · obtain ⟨pair,_,rfl,hfirst,hsecond⟩ := hrow row hmem
      exact ⟨⟨_,hfirst,rfl,rfl⟩,_,hsecond,rfl,rfl⟩
    · obtain ⟨pair,hpair,rfl,_⟩ := hrow row hmem
      exact (mapCommit_ok (h.checked pair hpair)).2.1
    · obtain ⟨pair,hpair,rfl,_⟩ := hrow row hmem
      obtain ⟨source,_,rfl,hold,_⟩ := hrow other hother
      refine (mapCommit_ok (h.checked pair hpair)).2.2.1 _ hin (fun heq => ?_) _ ?_
      · exact hboundary _ heq (List.mem_map_of_mem hold)
      · rw [h.oidMapping_eq]
        refine imageOf_eq_some ?_ (List.mem_map_of_mem hother)
        rw [List.map_map]
        exact hkeys
    · obtain ⟨pair,hpair,rfl,_⟩ := hrow row hmem
      rcases (mapCommit_ok (h.checked pair hpair)).2.2.2 p hp with himage | htarget
      · rw [h.oidMapping_eq,List.map_map] at himage
        obtain ⟨other,hother,rfl⟩ := List.mem_map.mp himage
        exact .inl ⟨other,hother,rfl⟩
      · exact .inr htarget
    · obtain ⟨hne,c,hc,hname,hmerge⟩ := mem_merge_of_elided h.source hoid
      have houtside := hlegitimate.resolve_left hne c hc hmerge
      exact ⟨c,hc,hname,of_decide_eq_true hmerge,houtside⟩

end Built

end Embedding

section Prepared

variable {git : GitTools} {repository : Repository} {history graph : CommitHistory}
  {candidate : PullRequestSnapshot} {rangeSource : PlannedRangeBase} {newBase : PlannedBase}
  {workflowSource : BranchSnapshot} {owner : RepositoryId} {i : Inspection} {newHead expectedTree : CommitOid}
  {proof : MergePreservingTopology}

theorem replacedParentBoundary_outside
    (hconditions : preconditions owner candidate rangeSource newBase workflowSource = .ok ())
    (hinspect : inspect git repository history candidate rangeSource newBase workflowSource = .ok i)
    {b : CommitOid} (hb : replacedParentBoundary i.topology rangeSource newBase = some b) :
    b ∉ i.topology.map (·.name) := by
  obtain ⟨_,_,hbase,htopology,_,_⟩ := inspect_ok.mp hinspect
  unfold replacedParentBoundary at hb
  split_ifs at hb
  cases hb
  rw [boundary_of_preconditions hconditions]
  intro hin
  obtain ⟨c,hc,hname⟩ := List.mem_map.mp hin
  rw [htopology] at hc
  obtain ⟨hrecorded,hhead,hout⟩ := CommitGraph.mem_range.mp hc
  have hself : c.name ∈ history.history candidate.base.oid := by
    rw [← hname]
    exact CommitGraph.history_self (List.mem_map_of_mem hrecorded)
  exact hout _ List.mem_cons_self ((mem_rangeBase_iff hbase hhead).mpr hself)

/-- A merge-preserving rewrite that is proved embeds the old range, unless it dropped a merge of the range
with itself. -/
theorem mergeProof_embeds_iff
    (hconditions : preconditions owner candidate rangeSource newBase workflowSource = .ok ())
    (hinspect : inspect git repository history candidate rangeSource newBase workflowSource = .ok i)
    (h : proveMergeRewrite graph (replacedParentBoundary i.topology rangeSource newBase) candidate.number
      i.topology history candidate.head.oid newBase.branch newHead expectedTree = .ok proof) :
    Embeds graph i.topology newBase.branch.oid newHead expectedTree proof ↔
      (graph.range [newBase.branch.oid] newHead).length = i.topology.length ∨ MergesOutside i.topology := by
  have hbuild : buildMergeTopologyProof graph newBase.branch.oid
      (replacedParentBoundary i.topology rangeSource newBase) candidate.number i.topology newHead expectedTree =
        .ok proof := by
    unfold proveMergeRewrite at h
    dsimp only at h
    split at h
    · obtain ⟨_,_,h⟩ := Guard.bind_eq_ok.mp h
      exact h
    · exact h
  obtain ⟨mapped,hbuilt⟩ := built_of_ok hbuild
  apply hbuilt.embeds_iff
  · rw [(inspect_ok.mp hinspect).2.2.2.1]
    exact CommitGraph.nodup_range
  · exact fun b hb => replacedParentBoundary_outside hconditions hinspect hb

end Prepared

section Redundant

def redundantMerge : CommitOid := "b222222222222222222222222222222222222222"
def rebuiltFirst : CommitOid := "c000000000000000000000000000000000000000"
def rebuiltSecond : CommitOid := "c111111111111111111111111111111111111111"

/-- A branch of two commits that merges its first commit once more. -/
def redundantHistory : CommitHistory :=
  promotedHistory.add ⟨redundantMerge,[promotedHead,landedHead],promotedHead⟩ (by decide +kernel) (by decide +kernel)

/-- Its rewrite on the default branch, without the merge. -/
def rebuiltHistory : CommitHistory :=
  (redundantHistory.add ⟨rebuiltFirst,[landedMain],rebuiltFirst⟩ (by decide +kernel) (by decide +kernel)).add
    ⟨rebuiltSecond,[rebuiltFirst],rebuiltSecond⟩ (by decide +kernel) (by decide +kernel)

def redundantRepository : Repository :=
  .ofRefs redundantHistory [("main",landedMain),("two",redundantMerge)] (by decide +kernel)

def redundantRoot : PullRequestSnapshot :=
  { promotedRoot with head := ⟨promotedOwner,"two",redundantMerge⟩,base := ⟨promotedOwner,"main",oldMain⟩ }

def redundantRange : PlannedRangeBase := .historicalTargetBranch redundantRoot.base landedDefault

def redundantInspection : Inspection :=
  ⟨oldMain,[⟨landedHead,[oldMain],landedHead⟩,⟨promotedHead,[landedHead],promotedHead⟩,
    ⟨redundantMerge,[promotedHead,landedHead],promotedHead⟩],[]⟩

def redundantProof : MergePreservingTopology where
  strategy := "git_rebase_merges_rebase_cousins_v2"
  expectedMergeTreeOid := rebuiltSecond
  oldCommits := redundantInspection.topology
  newCommits := [⟨rebuiltFirst,[landedMain],rebuiltFirst⟩,⟨rebuiltSecond,[rebuiltFirst],rebuiltSecond⟩]
  mapping := [⟨landedHead,rebuiltFirst,[oldMain],[landedMain]⟩,⟨promotedHead,rebuiltSecond,[landedHead],[rebuiltFirst]⟩]
  parentReplacement := none
  elidedTargetMerges := [redundantMerge]

theorem redundant_inspected : inspect promotedGit redundantRepository redundantHistory redundantRoot redundantRange
    (.remote landedDefault) landedDefault = .ok redundantInspection :=
  inspect_ok.mpr ⟨by decide +kernel,rfl,by decide +kernel,by decide +kernel,
    ⟨by decide +kernel,by decide +kernel⟩,by decide +kernel⟩

theorem redundant_conditions : preconditions promotedOwner redundantRoot redundantRange (.remote landedDefault)
    landedDefault = .ok () := by
  decide +kernel

theorem redundant_proved : proveMergeRewrite rebuiltHistory
    (replacedParentBoundary redundantInspection.topology redundantRange (.remote landedDefault)) 2
    redundantInspection.topology redundantHistory redundantMerge landedDefault rebuiltSecond rebuiltSecond =
      .ok redundantProof := by
  decide +kernel

theorem mergeProof_embeds_redundant :
    Embeds rebuiltHistory redundantInspection.topology landedMain rebuiltSecond rebuiltSecond redundantProof ↔
      (rebuiltHistory.range [landedMain] rebuiltSecond).length = redundantInspection.topology.length ∨
        MergesOutside redundantInspection.topology :=
  mergeProof_embeds_iff redundant_conditions redundant_inspected redundant_proved

/-- The merge of two commits of the range is dropped, and the proof is accepted. -/
theorem mergeProof_drops_internal :
    preconditions promotedOwner redundantRoot redundantRange (.remote landedDefault) landedDefault = .ok () ∧
    inspect promotedGit redundantRepository redundantHistory redundantRoot redundantRange
      (.remote landedDefault) landedDefault = .ok redundantInspection ∧
    proveMergeRewrite rebuiltHistory
      (replacedParentBoundary redundantInspection.topology redundantRange (.remote landedDefault)) 2
      redundantInspection.topology redundantHistory redundantMerge landedDefault rebuiltSecond rebuiltSecond =
        .ok redundantProof ∧
    ¬Embeds rebuiltHistory redundantInspection.topology landedMain rebuiltSecond rebuiltSecond redundantProof := by
  refine ⟨redundant_conditions,redundant_inspected,redundant_proved,fun hembeds => ?_⟩
  obtain ⟨c,hc,hname,_,p,hp,hout⟩ := hembeds.elided redundantMerge List.mem_cons_self
  have hinside : ∀ c ∈ redundantInspection.topology,c.name = redundantMerge → ∀ p ∈ c.parents,
      p ∈ redundantInspection.topology.map (·.name) := by decide +kernel
  exact hout (hinside c hc hname p hp)

end Redundant

end MergeProof

end PhysicalRebase
end Cara
