import Cara.Model
import Cara.Lib.Component
import Cara.Lib.Fnv
import Cara.Lib.Grouping
import Mathlib.Data.List.Sort

/-! Generation integrity of the open pull requests. Facts of one agent, overlapping bead
stream and stack slot are grouped into connected components; a component has one
canonical generation by reviewed links or by source containment, or is ambiguous. -/
namespace Cara
namespace Generation
open Std (ExtTreeMap)

def maxStreamComparisons : ℕ := 64

inductive CommitRelation where
  | ahead
  | behind
  | identical
  | diverged
  | unknown (reason : String)
deriving DecidableEq

inductive GenerationDisposition where
  | currentGeneration
  | supersededGeneration
  | ambiguousGeneration
  | invalidGenerationMetadata
deriving DecidableEq

inductive GenerationLifecycleDisposition where
  | active
  | temporaryDeferral
  | durableSupersession
  | invalidMetadata
deriving DecidableEq

inductive SupersededGenerationAction where
  | preserve
  | proposeClosure
  | close
deriving DecidableEq

structure GenerationSupersessionEvidence where
  supersededPr : PrNumber
  supersededProviderHead : CommitOid
  canonicalPr : PrNumber
  canonicalProviderHead : CommitOid
  authority : String
  closureEligible : Bool
deriving DecidableEq

structure GenerationFinding where
  pr : PrNumber
  disposition : GenerationDisposition
  lifecycle : GenerationLifecycleDisposition
  lifecycleAction : SupersededGenerationAction := .preserve
  supersession : Option GenerationSupersessionEvidence := none
  canonicalPr : Option PrNumber := none
  relatedPrs : List PrNumber
  agent : Option String := none
  beadIds : Finset String := ∅
  reason : String
  safeNextAction : String
deriving DecidableEq

structure GenerationIntegrityStatus where
  schemaVersion : ℕ := 1
  fingerprint : String
  findings : List GenerationFinding
  comparisonsUsed : ℕ
  comparisonsTruncated : Bool
deriving DecidableEq

def GenerationIntegrityStatus.finding (status : GenerationIntegrityStatus) (pr : PrNumber) :
    Option GenerationFinding :=
  status.findings.find? fun finding => decide (finding.pr = pr)

/-- A stacked child and its declared parent are separate slots even with a shared bead. -/
def sameStreamSlot (left right : CacophonyGenerationProvenance) : Bool :=
  if left.agent ≠ right.agent ∨ Disjoint left.beadIds right.beadIds then false
  else if left.generation = right.stackBase ∨ right.generation = left.stackBase then false
  else if (left.stackState = "root" ∧ right.stackState = "root") ∨
      (left.stackState = "blocked_on_parent" ∧ right.stackState = "blocked_on_parent") then
    decide (left.stackBase = right.stackBase)
  else false

structure ValidRow where
  fact : PullRequestGenerationFact
  provenance : CacophonyGenerationProvenance
deriving DecidableEq

def ValidRow.pr (row : ValidRow) : PrNumber := row.fact.pr

def validRow? (fact : PullRequestGenerationFact) : Option ValidRow :=
  if fact.metadataError.isSome then none else fact.provenance.map fun p => ⟨fact,p⟩

/-- The valid facts by number; a later fact of the same number replaces an earlier one. -/
def validRows (facts : List PullRequestGenerationFact) : List ValidRow :=
  (Grouping.indexRows ((facts.filterMap validRow?).map fun row => (row.pr,row))).toList.map
    Prod.snd

def invalidFinding (pr : PrNumber) (error : String) : GenerationFinding where
  pr := pr
  disposition := .invalidGenerationMetadata
  lifecycle := .invalidMetadata
  relatedPrs := [pr]
  reason := error
  safeNextAction := "repair exact Cacophony PR metadata or close the stale PR after owner " ++
    "review; Cara never auto-closes it"

def invalidFindings (facts : List PullRequestGenerationFact) : List GenerationFinding :=
  facts.filterMap fun fact => fact.metadataError.map (invalidFinding fact.pr)

def currentFinding (row : ValidRow) (relatedPrs : List PrNumber) : GenerationFinding where
  pr := row.pr
  disposition := .currentGeneration
  lifecycle := .active
  canonicalPr := some row.pr
  relatedPrs := relatedPrs
  agent := some row.provenance.agent
  beadIds := row.provenance.beadIds
  reason := "unique newest contained generation for this exact Cacophony agent/bead/stack slot"
  safeNextAction := "normal admission preflight may continue under immediate generation " ++
    "revalidation"

def supersededFinding (row canonical : ValidRow) (relatedPrs : List PrNumber)
    (authority : String) : GenerationFinding where
  pr := row.pr
  disposition := .supersededGeneration
  lifecycle := .durableSupersession
  supersession := some
    { supersededPr := row.pr
      supersededProviderHead := row.fact.providerHead
      canonicalPr := canonical.pr
      canonicalProviderHead := canonical.fact.providerHead
      authority
      closureEligible := true }
  canonicalPr := some canonical.pr
  relatedPrs := relatedPrs
  agent := some row.provenance.agent
  beadIds := row.provenance.beadIds
  reason := "generation " ++ row.provenance.generation ++ " is superseded by canonical open PR #" ++
    toString canonical.pr ++ " (" ++ authority ++ ")"
  safeNextAction := "preserve PR #" ++ toString canonical.pr ++ "; exact evidence permits a " ++
    "configured closure proposal for PR #" ++ toString row.pr ++ ", but no provider mutation " ++
    "occurs without reviewed policy"

def recordCanonicalComponent (component : List ValidRow) (canonical : ValidRow)
    (authority : String) : List GenerationFinding :=
  component.map fun row =>
    if row.pr = canonical.pr then
      { currentFinding row (component.map (·.pr)) with
        reason := "unique canonical generation for this exact Cacophony agent/bead/stack slot (" ++
          authority ++ ")" }
    else supersededFinding row canonical (component.map (·.pr)) authority

def ambiguousFinding (row : ValidRow) (relatedPrs : List PrNumber)
    (reason safeNextAction : String) : GenerationFinding where
  pr := row.pr
  disposition := .ambiguousGeneration
  lifecycle := .temporaryDeferral
  relatedPrs := relatedPrs
  agent := some row.provenance.agent
  beadIds := row.provenance.beadIds
  reason := reason
  safeNextAction := safeNextAction

def recordAmbiguousComponent (component : List ValidRow) (reason safeNextAction : String) :
    List GenerationFinding :=
  component.map fun row => ambiguousFinding row (component.map (·.pr)) reason safeNextAction

structure CompareState (σ : Type*) where
  used : ℕ
  truncated : Bool
  provider : σ

section Analyze

variable {σ : Type*} (compare : σ → CommitOid → CommitOid → σ × CommitRelation)

/-- One bounded provider comparison of two source heads. -/
def compareStep (state : CompareState σ) (left right : ValidRow) :
    CommitRelation × CompareState σ :=
  if maxStreamComparisons ≤ state.used then
    (.unknown ("generation comparison bound " ++ toString maxStreamComparisons ++ " exhausted"),
      { state with truncated := true })
  else
    let answer := compare state.provider left.provenance.sourceHead right.provenance.sourceHead
    (answer.2,{ state with used := state.used + 1, provider := answer.1 })

/-- All pairs of a list, each element with the elements behind it. -/
def orderedPairs {α : Type*} : List α → List (α × α)
  | [] => []
  | a::rest => rest.map (fun b => (a,b)) ++ orderedPairs rest

abbrev RelationTable := List ((PrNumber × PrNumber) × CommitRelation)

def relate : List (ValidRow × ValidRow) → CompareState σ → RelationTable × CompareState σ
  | [],state => ([],state)
  | (left,right)::pairs,state =>
      let answer := compareStep compare state left right
      let rest := relate pairs answer.2
      (((left.pr,right.pr),answer.1)::rest.1,rest.2)

/-- Whether the source of `candidate` contains the source of `other`. -/
def containsSource (relations : RelationTable) (candidate other : PrNumber) : Bool :=
  if candidate = other then true
  else
    let key := if other < candidate then (other,candidate) else (candidate,other)
    let reversed := decide (¬other < candidate)
    match relations.lookup key with
    | some .identical => true
    | some .ahead => !reversed
    | some .behind => reversed
    | some .diverged | some (.unknown _) | none => false

def creationKey (row : ValidRow) : String := row.fact.createdAt.getD ""

def createdLe (a b : ValidRow) : Prop :=
  creationKey a < creationKey b ∨ creationKey a = creationKey b ∧ a.pr ≤ b.pr

instance : DecidableRel createdLe := fun a b => by
  unfold createdLe
  infer_instance

/-- Members that contain every member; of several identical sources the newest one. -/
def maxima (relations : RelationTable) (component : List ValidRow) : List ValidRow :=
  let found := component.filter fun row =>
    component.all fun other => containsSource relations row.pr other.pr
  if 1 < found.length then (found.insertionSort createdLe).getLast?.toList else found

/-- Members whose reviewed link names every other member. -/
def linkedCanonicals (component : List ValidRow) : List ValidRow :=
  component.filter fun row => component.all fun other =>
    decide (other.pr = row.pr ∨ other.pr ∈ row.fact.supersedes)

variable (debugStr : String → String)

def debugRelation : Option CommitRelation → String
  | none => "None"
  | some .ahead => "Some(Ahead)"
  | some .behind => "Some(Behind)"
  | some .identical => "Some(Identical)"
  | some .diverged => "Some(Diverged)"
  | some (.unknown reason) => "Some(Unknown \x7b reason: " ++ debugStr reason ++ " \x7d)"

def debugNumbers (prs : List PrNumber) : String :=
  "[" ++ String.intercalate ", " (prs.map fun pr => "PrNumber(" ++ toString pr ++ ")") ++ "]"

/-- Reason and next action of an unproved component. An unreachable comparison is not a
divergence. -/
def unprovedTexts (relations : RelationTable) (component : List ValidRow) : String × String :=
  let rows := (orderedPairs component).map fun pair =>
    (pair.1.pr,pair.2.pr,relations.lookup (pair.1.pr,pair.2.pr))
  let diverged := rows.any fun row => decide (row.2.2 = some .diverged)
  let unproved := rows.filterMap fun row =>
    match row.2.2 with
    | some (.unknown reason) =>
        some ("#" ++ toString row.1 ++ "...#" ++ toString row.2.1 ++ " (" ++ reason ++ ")")
    | _ => none
  if diverged ∨ unproved = [] then
    ("same-stream open generations are divergent or unproved: " ++ String.intercalate ", "
      (rows.map fun row => toString row.1 ++ "..." ++ toString row.2.1 ++ "=" ++
        debugRelation debugStr row.2.2),
     "the owning agent/controller must choose one exact canonical generation; do not admit, " ++
      "close, or rewrite any sibling automatically")
  else
    ("same-stream ancestry is unproved because " ++ toString unproved.length ++
      " provider comparison(s) were unreachable: " ++ String.intercalate ", " unproved,
     "no divergence was observed; re-run discovery once the referenced commits are reachable, " ++
      "or declare the exact canonical generation. Cara excludes these rows without wedging " ++
      "selection")

/-- Findings of one component and the comparisons they took. -/
def classifyComponent (state : CompareState σ) (component : List ValidRow) :
    List GenerationFinding × CompareState σ :=
  match component with
  | [row] => ([currentFinding row [row.pr]],state)
  | _ =>
      match linkedCanonicals component with
      | [canonical] =>
          (recordCanonicalComponent component canonical
            "reviewed provider-visible canonical supersession link",state)
      | [] =>
          let relations := relate compare (orderedPairs component) state
          match maxima relations.1 component with
          | [canonical] =>
              (recordCanonicalComponent component canonical "exact source containment",relations.2)
          | _ =>
              let texts := unprovedTexts debugStr relations.1 component
              (recordAmbiguousComponent component texts.1 texts.2,relations.2)
      | linked =>
          (recordAmbiguousComponent component
            ("conflicting reviewed canonical-generation links name PRs " ++
              debugNumbers (linked.map (·.pr)))
            ("the owning controller must revoke the conflicting links and select one exact " ++
              "canonical generation"),state)

def classifyComponents : List (List ValidRow) → CompareState σ →
    List GenerationFinding × CompareState σ
  | [],state => ([],state)
  | component::components,state =>
      let first := classifyComponent compare debugStr state component
      let rest := classifyComponents components first.2
      (first.1 ++ rest.1,rest.2)

/-- Connected components of the slot relation over the valid rows, each in number order. -/
def streamComponents (facts : List PullRequestGenerationFact) : List (List ValidRow) :=
  (Component.components (fun a b : ValidRow => sameStreamSlot a.provenance b.provenance)
    (validRows facts).length (validRows facts)).map fun component =>
      component.insertionSort fun a b => a.pr ≤ b.pr

/-- Insert findings under their numbers and read them back in number order. -/
def orderedFindings (findings : List GenerationFinding) : List GenerationFinding :=
  (Grouping.indexRows (findings.map fun finding => (finding.pr,finding))).toList.map Prod.snd

variable (serialize : List PullRequestGenerationFact → List GenerationFinding → List UInt8)

/-- Classify all open generation facts and return the provider state after the last
comparison. The digest covers the facts in number order together with the findings. -/
def analyze (facts : List PullRequestGenerationFact) (provider : σ) :
    GenerationIntegrityStatus × σ :=
  let classified := classifyComponents compare debugStr (streamComponents facts) ⟨0,false,provider⟩
  let findings := orderedFindings (invalidFindings facts ++ classified.1)
  ({ fingerprint := Fnv.fnv1a64 (serialize (facts.insertionSort fun a b => a.pr ≤ b.pr) findings)
     findings
     comparisonsUsed := classified.2.used
     comparisonsTruncated := classified.2.truncated },classified.2.provider)

end Analyze

structure AdmissibilityDetails where
  pr : PrNumber
  generationIntegrity : GenerationIntegrityStatus
  finding : GenerationFinding
  mutated : Bool
  safeNextAction : String
deriving DecidableEq

def refuse (integrity : GenerationIntegrityStatus) (pr : PrNumber) (finding : GenerationFinding)
    (code message : String) : Except (AppError AdmissibilityDetails) Unit :=
  .error
    { category := .validation
      code
      message
      details := some ⟨pr,integrity,finding,false,finding.safeNextAction⟩ }

/-- Fail closed for every disposition other than the current generation. -/
def requireAdmissible (integrity : GenerationIntegrityStatus) (pr : PrNumber) :
    Except (AppError AdmissibilityDetails) Unit :=
  match integrity.finding pr with
  | none => .ok ()
  | some finding =>
      match finding.disposition with
      | .currentGeneration => .ok ()
      | .supersededGeneration => refuse integrity pr finding "superseded_generation"
          "selected PR is an older contained Cacophony generation"
      | .ambiguousGeneration => refuse integrity pr finding "ambiguous_generation"
          "selected PR has divergent or unproved same-stream Cacophony siblings"
      | .invalidGenerationMetadata => refuse integrity pr finding "invalid_generation_metadata"
          "selected PR has incomplete or invalid Cacophony generation metadata"

end Generation
end Cara
