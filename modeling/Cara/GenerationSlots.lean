import Cara.Generation

/-! At most one admissible generation in every stream slot: the components of the slot
relation are classified as a whole, whatever the provider answers. -/
namespace Cara
namespace Generation
open Std (ExtTreeMap)

/-- `pr` has a fact without metadata error that declares this provenance. -/
def Valid (facts : List PullRequestGenerationFact) (pr : PrNumber)
    (provenance : CacophonyGenerationProvenance) : Prop :=
  ∃ fact ∈ facts, fact.pr = pr ∧ fact.metadataError = none ∧ fact.provenance = some provenance

theorem sameStreamSlot_comm (a b : CacophonyGenerationProvenance) :
    sameStreamSlot a b = sameStreamSlot b a := by
  have hagent : (a.agent ≠ b.agent ∨ Disjoint a.beadIds b.beadIds) ↔
      (b.agent ≠ a.agent ∨ Disjoint b.beadIds a.beadIds) := by
    rw [ne_comm,disjoint_comm]
  have hparent : (a.generation = b.stackBase ∨ b.generation = a.stackBase) ↔
      (b.generation = a.stackBase ∨ a.generation = b.stackBase) := or_comm
  have hstate : ((a.stackState = "root" ∧ b.stackState = "root") ∨
      (a.stackState = "blocked_on_parent" ∧ b.stackState = "blocked_on_parent")) ↔
      ((b.stackState = "root" ∧ a.stackState = "root") ∨
      (b.stackState = "blocked_on_parent" ∧ a.stackState = "blocked_on_parent")) := by
    rw [and_comm,@and_comm (a.stackState = "blocked_on_parent")]
  have hbase : a.stackBase = b.stackBase ↔ b.stackBase = a.stackBase := eq_comm
  unfold sameStreamSlot
  simp only [hagent,hparent,hstate,hbase]

section Rows

variable {facts : List PullRequestGenerationFact}

theorem validRow?_eq_some_iff {fact : PullRequestGenerationFact} {row : ValidRow} :
    validRow? fact = some row ↔
      row.fact = fact ∧ fact.metadataError = none ∧ fact.provenance = some row.provenance := by
  obtain ⟨stored,provenance⟩ := row
  unfold validRow?
  cases herror : fact.metadataError with
  | some error => simp
  | none =>
    simp only [Option.isSome_none,Bool.false_eq_true,if_false,Option.map_eq_some_iff,
      ValidRow.mk.injEq,true_and]
    constructor
    · intro h
      obtain ⟨p,hp,hfact,hprov⟩ := h
      exact ⟨hfact.symm,hprov ▸ hp⟩
    · intro h
      exact ⟨provenance,h.2,h.1.symm,rfl⟩

theorem mem_validRows_index {row : ValidRow} :
    row ∈ validRows facts ↔ (Grouping.indexRows ((facts.filterMap validRow?).map
      fun row => (row.pr,row)))[row.pr]? = some row := by
  simp only [validRows,List.mem_map,Prod.exists,ExtTreeMap.mem_toList_iff_getElem?_eq_some,
    exists_eq_right]
  constructor
  · intro h
    obtain ⟨n,hn⟩ := h
    obtain ⟨other,-,heq⟩ := List.mem_map.mp (Grouping.mem_of_indexRows_eq_some hn)
    simp only [Prod.mk.injEq] at heq
    obtain ⟨rfl,rfl⟩ := heq
    exact hn
  · intro h
    exact ⟨row.pr,h⟩

theorem validRows_nodup : ((validRows facts).map (·.pr)).Nodup := by
  have hkeys : (validRows facts).map (·.pr) = (Grouping.indexRows ((facts.filterMap
      validRow?).map fun row => (row.pr,row))).keys := by
    rw [← ExtTreeMap.map_fst_toList_eq_keys,validRows,List.map_map]
    apply List.map_congr_left
    intro entry hentry
    have hmem := Grouping.mem_of_indexRows_eq_some
      (ExtTreeMap.mem_toList_iff_getElem?_eq_some.mp hentry)
    obtain ⟨row,-,heq⟩ := List.mem_map.mp hmem
    obtain ⟨hkey,hrow⟩ := Prod.mk.inj heq
    simp only [Function.comp_apply]
    rw [← hrow,hkey]
  rw [hkeys]
  apply ExtTreeMap.distinct_keys.imp
  intro a b h heq
  exact h (heq ▸ Std.ReflOrd.compare_self)

theorem validRows_sound {row : ValidRow} (h : row ∈ validRows facts) :
    row.fact ∈ facts ∧ Valid facts row.pr row.provenance := by
  have hmem := Grouping.mem_of_indexRows_eq_some (mem_validRows_index.mp h)
  obtain ⟨other,hother,heq⟩ := List.mem_map.mp hmem
  obtain ⟨fact,hfact,hrow⟩ := List.mem_filterMap.mp hother
  have hsame : other = row := (Prod.mk.inj heq).2
  obtain ⟨hstored,herror,hprov⟩ := validRow?_eq_some_iff.mp hrow
  rw [← hsame]
  exact ⟨hstored ▸ hfact,fact,hfact,congrArg (·.pr) hstored.symm,herror,hprov⟩

variable (hdistinct : (facts.map (·.pr)).Nodup)

include hdistinct in
theorem exists_validRow {pr : PrNumber} {provenance : CacophonyGenerationProvenance}
    (h : Valid facts pr provenance) :
    ∃ row ∈ validRows facts, row.pr = pr ∧ row.provenance = provenance := by
  obtain ⟨fact,hfact,hpr,herror,hprov⟩ := h
  have hrow : validRow? fact = some ⟨fact,provenance⟩ :=
    validRow?_eq_some_iff.mpr ⟨rfl,herror,hprov⟩
  have hmem : (pr,(⟨fact,provenance⟩ : ValidRow)) ∈
      (facts.filterMap validRow?).map fun row => (row.pr,row) :=
    List.mem_map.mpr ⟨_,List.mem_filterMap.mpr ⟨fact,hfact,hrow⟩,by rw [← hpr]; rfl⟩
  obtain ⟨stored,hstored⟩ := Grouping.indexRows_isSome_of_mem hmem
  obtain ⟨other,hother,heq⟩ := List.mem_map.mp (Grouping.mem_of_indexRows_eq_some hstored)
  obtain ⟨hkey,rfl⟩ := Prod.mk.inj heq
  obtain ⟨fact',hfact',hrow'⟩ := List.mem_filterMap.mp hother
  obtain ⟨hsame,-,hprov'⟩ := validRow?_eq_some_iff.mp hrow'
  have hfacts : fact' = fact := by
    apply List.inj_on_of_nodup_map hdistinct hfact' hfact
    rw [← hsame,hpr]
    exact hkey
  subst hfacts
  rw [hprov',Option.some.injEq] at hprov
  exact ⟨other,mem_validRows_index.mpr (hkey ▸ hstored),hkey,hprov⟩

end Rows

/-- One member is current and every other one is superseded in its favour. -/
def Decided (findings : List GenerationFinding) (canonical : PrNumber) : Prop :=
  ∀ f ∈ findings, (f.pr = canonical → f.disposition = .currentGeneration) ∧
    (f.pr ≠ canonical → f.disposition = .supersededGeneration ∧ f.canonicalPr = some canonical ∧
      ∃ evidence, f.supersession = some evidence ∧ evidence.canonicalPr = canonical)

def Undecided (findings : List GenerationFinding) : Prop :=
  ∀ f ∈ findings, f.disposition = .ambiguousGeneration ∧ f.supersession = none

theorem recordCanonicalComponent_spec (component : List ValidRow) (canonical : ValidRow)
    (authority : String) :
    (recordCanonicalComponent component canonical authority).map (·.pr) = component.map (·.pr) ∧
      Decided (recordCanonicalComponent component canonical authority) canonical.pr := by
  constructor
  · unfold recordCanonicalComponent
    rw [List.map_map]
    apply List.map_congr_left
    intro row _
    simp only [Function.comp_apply]
    split <;> rfl
  · intro f hf
    obtain ⟨row,-,rfl⟩ := List.mem_map.mp hf
    by_cases hrow : row.pr = canonical.pr
    · simp [hrow,currentFinding]
    · simp [hrow,supersededFinding]

theorem recordAmbiguousComponent_spec (component : List ValidRow) (reason next : String) :
    (recordAmbiguousComponent component reason next).map (·.pr) = component.map (·.pr) ∧
      Undecided (recordAmbiguousComponent component reason next) := by
  constructor
  · simp [recordAmbiguousComponent,ambiguousFinding,Function.comp_def]
  · intro f hf
    obtain ⟨row,-,rfl⟩ := List.mem_map.mp hf
    exact ⟨rfl,rfl⟩

theorem maxima_subset (relations : RelationTable) (component : List ValidRow) :
    ∀ row ∈ maxima relations component, row ∈ component := by
  intro row hrow
  unfold maxima at hrow
  simp only at hrow
  split at hrow
  · have hmem := List.mem_of_getLast? (Option.mem_toList.mp hrow)
    rw [List.mem_insertionSort] at hmem
    exact (List.mem_filter.mp hmem).1
  · exact (List.mem_filter.mp hrow).1

section Classify

variable {σ : Type*} (compare : σ → CommitOid → CommitOid → σ × CommitRelation)
  (debugStr : String → String)

/-- Whatever the links and the comparisons say, a component gets one finding for every
member and is decided or undecided as a whole. -/
theorem classifyComponent_spec (state : CompareState σ) {component : List ValidRow}
    (hne : component ≠ []) :
    ((classifyComponent compare debugStr state component).1.map (·.pr) = component.map (·.pr)) ∧
      ((∃ row ∈ component, Decided (classifyComponent compare debugStr state component).1 row.pr) ∨
        Undecided (classifyComponent compare debugStr state component).1) := by
  unfold classifyComponent
  split
  next row =>
    refine ⟨rfl,.inl ⟨row,List.mem_singleton_self row,?_⟩⟩
    intro f hf
    rw [List.mem_singleton.mp hf]
    simp [currentFinding]
  next =>
    split
    next canonical hlinked =>
      have hmem : canonical ∈ linkedCanonicals component := by simp [hlinked]
      obtain ⟨hprs,hdecided⟩ := recordCanonicalComponent_spec component canonical
        "reviewed provider-visible canonical supersession link"
      exact ⟨hprs,.inl ⟨canonical,(List.mem_filter.mp hmem).1,hdecided⟩⟩
    next =>
      simp only
      split
      next canonical hmaxima =>
        have hmem := maxima_subset _ component canonical (by rw [hmaxima]; simp)
        obtain ⟨hprs,hdecided⟩ := recordCanonicalComponent_spec component canonical
          "exact source containment"
        exact ⟨hprs,.inl ⟨canonical,hmem,hdecided⟩⟩
      next =>
        obtain ⟨hprs,hundecided⟩ := recordAmbiguousComponent_spec component _ _
        exact ⟨hprs,.inr hundecided⟩
    next =>
      obtain ⟨hprs,hundecided⟩ := recordAmbiguousComponent_spec component _ _
      exact ⟨hprs,.inr hundecided⟩

/-- The findings of all components are those of each, at some state of the budget. -/
theorem classifyComponents_spec (components : List (List ValidRow)) (state : CompareState σ)
    (hne : ∀ component ∈ components, component ≠ []) :
    (classifyComponents compare debugStr components state).1.map (·.pr) =
        components.flatten.map (·.pr) ∧
      ∀ component ∈ components, ∃ findings : List GenerationFinding,
        findings.map (·.pr) = component.map (·.pr) ∧
        (∀ f ∈ findings, f ∈ (classifyComponents compare debugStr components state).1) ∧
        ((∃ row ∈ component, Decided findings row.pr) ∨ Undecided findings) := by
  induction components generalizing state with
  | nil => simp [classifyComponents]
  | cons first components ih =>
    obtain ⟨hprs,hverdict⟩ := classifyComponent_spec compare debugStr state
      (hne first List.mem_cons_self)
    obtain ⟨hrest,hall⟩ := ih (classifyComponent compare debugStr state first).2
      fun component hc => hne component (List.mem_cons_of_mem _ hc)
    simp only [classifyComponents]
    constructor
    · rw [List.map_append,hprs,hrest,List.flatten_cons,List.map_append]
    · intro component hc
      rcases List.mem_cons.mp hc with rfl | hc
      · exact ⟨_,hprs,fun f hf => List.mem_append_left _ hf,hverdict⟩
      · obtain ⟨findings,hfprs,hsub,hv⟩ := hall component hc
        exact ⟨findings,hfprs,fun f hf => List.mem_append_right _ (hsub f hf),hv⟩

end Classify

theorem find_orderedFindings {findings : List GenerationFinding}
    (hinj : ∀ f ∈ findings, ∀ g ∈ findings, f.pr = g.pr → f = g) {f : GenerationFinding}
    (hf : f ∈ findings) :
    ((orderedFindings findings).find? fun g => decide (g.pr = f.pr)) = some f := by
  have hsub : ∀ g ∈ orderedFindings findings, g ∈ findings := by
    intro g hg
    obtain ⟨entry,hentry,rfl⟩ := List.mem_map.mp hg
    have hmem := Grouping.mem_of_indexRows_eq_some
      (ExtTreeMap.mem_toList_iff_getElem?_eq_some.mp hentry)
    obtain ⟨g,hg,heq⟩ := List.mem_map.mp hmem
    exact (Prod.mk.inj heq).2 ▸ hg
  have hmem : f ∈ orderedFindings findings := by
    have hrow : (f.pr,f) ∈ findings.map fun finding => (finding.pr,finding) :=
      List.mem_map.mpr ⟨f,hf,rfl⟩
    obtain ⟨g,hg⟩ := Grouping.indexRows_isSome_of_mem hrow
    obtain ⟨g',hg',heq⟩ := List.mem_map.mp (Grouping.mem_of_indexRows_eq_some hg)
    obtain ⟨hkey,rfl⟩ := Prod.mk.inj heq
    rw [hinj g' hg' f hf hkey] at hg
    exact List.mem_map.mpr ⟨(f.pr,f),ExtTreeMap.mem_toList_iff_getElem?_eq_some.mpr hg,rfl⟩
  cases hfind : (orderedFindings findings).find? fun g => decide (g.pr = f.pr) with
  | none =>
    have hnone := List.find?_eq_none.mp hfind f hmem
    simp at hnone
  | some g =>
    have hpr : g.pr = f.pr := by simpa using List.find?_some hfind
    rw [hinj g (hsub g (List.mem_of_find?_eq_some hfind)) f hf hpr]

section Components

variable {facts : List PullRequestGenerationFact}

def SlotLinked (facts : List PullRequestGenerationFact) (p q : PrNumber) : Prop :=
  ∃ a b, Valid facts p a ∧ Valid facts q b ∧ sameStreamSlot a b = true

abbrev slotAdjacent (a b : ValidRow) : Bool := sameStreamSlot a.provenance b.provenance

theorem mem_streamComponents_iff {component : List ValidRow} :
    component ∈ streamComponents facts ↔ ∃ raw ∈ Component.components slotAdjacent
      (validRows facts).length (validRows facts),
        raw.insertionSort (fun a b => a.pr ≤ b.pr) = component := List.mem_map

theorem streamComponents_perm :
    (streamComponents facts).flatten.Perm (validRows facts) := by
  refine List.Perm.trans ?_ (@Component.components_flatten_perm _ slotAdjacent
    (validRows facts).length (validRows facts) (Nat.le_refl _))
  unfold streamComponents
  generalize Component.components _ _ _ = raw
  induction raw with
  | nil => simp
  | cons component raw ih =>
    simp only [List.map_cons,List.flatten_cons]
    exact (List.perm_insertionSort _ component).append ih

theorem streamComponents_linked {component : List ValidRow}
    (hc : component ∈ streamComponents facts) {x y : ValidRow} (hx : x ∈ component) :
    y ∈ component ↔
      Relation.ReflTransGen (Component.Linked slotAdjacent (validRows facts)) x y := by
  obtain ⟨raw,hraw,rfl⟩ := mem_streamComponents_iff.mp hc
  rw [List.mem_insertionSort] at hx ⊢
  exact Component.mem_component_iff (fun a b => sameStreamSlot_comm _ _) _ (Nat.le_refl _) hraw hx

theorem slotLinked_of_rows {x y : ValidRow}
    (h : Relation.ReflTransGen (Component.Linked slotAdjacent (validRows facts)) x y) :
    Relation.ReflTransGen (SlotLinked facts) x.pr y.pr := by
  induction h with
  | refl => exact .refl
  | tail _ hstep ih =>
    exact ih.tail ⟨_,_,(validRows_sound hstep.1).2,(validRows_sound hstep.2.1).2,hstep.2.2⟩

variable (hdistinct : (facts.map (·.pr)).Nodup)

include hdistinct in
theorem Valid.unique {pr : PrNumber} {a b : CacophonyGenerationProvenance}
    (ha : Valid facts pr a) (hb : Valid facts pr b) : a = b := by
  obtain ⟨f,hf,hfpr,-,hfa⟩ := ha
  obtain ⟨g,hg,hgpr,-,hgb⟩ := hb
  have hfg : f = g := List.inj_on_of_nodup_map hdistinct hf hg (hfpr.trans hgpr.symm)
  rw [hfg,hgb] at hfa
  exact (Option.some.inj hfa).symm

include hdistinct in
theorem rows_of_slotLinked {x : ValidRow} (hx : x ∈ validRows facts) {q : PrNumber}
    (h : Relation.ReflTransGen (SlotLinked facts) x.pr q) :
    ∃ y ∈ validRows facts, y.pr = q ∧
      Relation.ReflTransGen (Component.Linked slotAdjacent (validRows facts)) x y := by
  induction h with
  | refl => exact ⟨x,hx,rfl,.refl⟩
  | tail _ hstep ih =>
    obtain ⟨y,hy,hypr,hreach⟩ := ih
    obtain ⟨a,b,ha,hb,hslot⟩ := hstep
    obtain ⟨z,hz,hzpr,hzprov⟩ := exists_validRow hdistinct hb
    have hyprov : y.provenance = a :=
      Valid.unique hdistinct (hypr ▸ (validRows_sound hy).2) ha
    refine ⟨z,hz,hzpr,hreach.tail ⟨hy,hz,?_⟩⟩
    rw [slotAdjacent,hyprov,hzprov]
    exact hslot

end Components

/-- Every connectivity class of the slot relation has one current generation in whose
favour all others are superseded, or is ambiguous throughout; so two valid facts of one
slot are never both admissible. -/
structure OneGenerationPerSlot (facts : List PullRequestGenerationFact)
    (status : GenerationIntegrityStatus) : Prop where
  exclusive : ∀ p q a b, Valid facts p a → Valid facts q b → p ≠ q → sameStreamSlot a b = true →
    ¬(requireAdmissible status p = .ok () ∧ requireAdmissible status q = .ok ())
  component : ∀ p a, Valid facts p a →
    (∃ canonical, Relation.ReflTransGen (SlotLinked facts) p canonical ∧
      (∃ f, status.finding canonical = some f ∧ f.disposition = .currentGeneration) ∧
      ∀ q, Relation.ReflTransGen (SlotLinked facts) p q → q ≠ canonical →
        ∃ f, status.finding q = some f ∧ f.disposition = .supersededGeneration ∧
          f.canonicalPr = some canonical ∧
          ∃ evidence, f.supersession = some evidence ∧ evidence.canonicalPr = canonical) ∨
    ∀ q, Relation.ReflTransGen (SlotLinked facts) p q →
      ∃ f, status.finding q = some f ∧ f.disposition = .ambiguousGeneration ∧
        f.supersession = none

section Main

variable {σ : Type*} (compare : σ → CommitOid → CommitOid → σ × CommitRelation)
  (debugStr : String → String)
  (serialize : List PullRequestGenerationFact → List GenerationFinding → List UInt8)
  {facts : List PullRequestGenerationFact}

theorem streamComponents_ne_nil {component : List ValidRow}
    (hc : component ∈ streamComponents facts) : component ≠ [] := by
  obtain ⟨raw,hraw,rfl⟩ := mem_streamComponents_iff.mp hc
  have hne : raw ≠ [] := Component.components_ne_nil _ _ hraw
  intro hempty
  have hlen := List.length_insertionSort (fun a b : ValidRow => a.pr ≤ b.pr) raw
  rw [hempty] at hlen
  exact hne (List.eq_nil_of_length_eq_zero hlen.symm)

/-- Findings of invalid facts and of the components never share a number. -/
theorem allFindings_injective (hdistinct : (facts.map (·.pr)).Nodup) (provider : σ) :
    ∀ f ∈ invalidFindings facts ++ (classifyComponents compare debugStr (streamComponents facts)
        ⟨0,false,provider⟩).1,
      ∀ g ∈ invalidFindings facts ++ (classifyComponents compare debugStr (streamComponents facts)
        ⟨0,false,provider⟩).1, f.pr = g.pr → f = g := by
  have hprs := (classifyComponents_spec compare debugStr (streamComponents facts)
    ⟨0,false,provider⟩ fun c hc => streamComponents_ne_nil hc).1
  have hnodup : ((classifyComponents compare debugStr (streamComponents facts)
      ⟨0,false,provider⟩).1.map (·.pr)).Nodup := by
    rw [hprs]
    exact (streamComponents_perm.map _).nodup_iff.mpr validRows_nodup
  have hinvalid : ∀ f ∈ invalidFindings facts, ∃ fact ∈ facts, ∃ error,
      fact.metadataError = some error ∧ f = invalidFinding fact.pr error := by
    intro f hf
    obtain ⟨fact,hfact,hmap⟩ := List.mem_filterMap.mp hf
    obtain ⟨error,herror,heq⟩ := Option.map_eq_some_iff.mp hmap
    exact ⟨fact,hfact,error,herror,heq.symm⟩
  have hclassified : ∀ f ∈ (classifyComponents compare debugStr (streamComponents facts)
      ⟨0,false,provider⟩).1, ∃ fact ∈ facts, fact.metadataError = none ∧ fact.pr = f.pr := by
    intro f hf
    have hmem : f.pr ∈ (streamComponents facts).flatten.map (·.pr) :=
      hprs ▸ List.mem_map_of_mem hf
    obtain ⟨row,hrow,hpr⟩ := List.mem_map.mp hmem
    obtain ⟨-,fact,hfact,hfpr,herror,-⟩ :=
      validRows_sound (streamComponents_perm.mem_iff.mp hrow)
    exact ⟨fact,hfact,herror,hfpr.trans hpr⟩
  intro f hf g hg hpr
  rcases List.mem_append.mp hf with hf | hf <;> rcases List.mem_append.mp hg with hg | hg
  · obtain ⟨fact,hfact,error,herror,rfl⟩ := hinvalid f hf
    obtain ⟨fact',hfact',error',herror',rfl⟩ := hinvalid g hg
    have hsame : fact = fact' := List.inj_on_of_nodup_map hdistinct hfact hfact' hpr
    subst hsame
    rw [herror,Option.some.injEq] at herror'
    rw [herror']
  · obtain ⟨fact,hfact,error,herror,rfl⟩ := hinvalid f hf
    obtain ⟨fact',hfact',hnone,hpr'⟩ := hclassified g hg
    have hsame : fact = fact' := List.inj_on_of_nodup_map hdistinct hfact hfact' (hpr.trans hpr'.symm)
    rw [hsame,hnone] at herror
    simp at herror
  · obtain ⟨fact,hfact,hnone,hpr'⟩ := hclassified f hf
    obtain ⟨fact',hfact',error,herror,rfl⟩ := hinvalid g hg
    have hsame : fact = fact' := List.inj_on_of_nodup_map hdistinct hfact hfact' (hpr'.trans hpr)
    rw [← hsame,hnone] at herror
    simp at herror
  · exact List.inj_on_of_nodup_map hnodup hf hg hpr

theorem analyze_finding (hdistinct : (facts.map (·.pr)).Nodup) (provider : σ)
    {f : GenerationFinding} (hf : f ∈ (classifyComponents compare debugStr (streamComponents facts)
      ⟨0,false,provider⟩).1) :
    (analyze compare debugStr serialize facts provider).1.finding f.pr = some f :=
  find_orderedFindings (allFindings_injective compare debugStr hdistinct provider)
    (List.mem_append_right _ hf)

theorem analyze_component (hdistinct : (facts.map (·.pr)).Nodup) (provider : σ) {p : PrNumber}
    {a : CacophonyGenerationProvenance} (hp : Valid facts p a) :
    (∃ canonical, Relation.ReflTransGen (SlotLinked facts) p canonical ∧
      (∃ f, (analyze compare debugStr serialize facts provider).1.finding canonical = some f ∧
        f.disposition = .currentGeneration) ∧
      ∀ q, Relation.ReflTransGen (SlotLinked facts) p q → q ≠ canonical →
        ∃ f, (analyze compare debugStr serialize facts provider).1.finding q = some f ∧
          f.disposition = .supersededGeneration ∧ f.canonicalPr = some canonical ∧
          ∃ evidence, f.supersession = some evidence ∧ evidence.canonicalPr = canonical) ∨
    ∀ q, Relation.ReflTransGen (SlotLinked facts) p q →
      ∃ f, (analyze compare debugStr serialize facts provider).1.finding q = some f ∧
        f.disposition = .ambiguousGeneration ∧ f.supersession = none := by
  obtain ⟨x,hx,hxpr,-⟩ := exists_validRow hdistinct hp
  subst hxpr
  obtain ⟨component,hc,hxc⟩ := List.mem_flatten.mp (streamComponents_perm.mem_iff.mpr hx)
  obtain ⟨findings,hprs,hsub,hverdict⟩ := (classifyComponents_spec compare debugStr
    (streamComponents facts) ⟨0,false,provider⟩ fun c hc => streamComponents_ne_nil hc).2 component hc
  -- Every number reachable from `x` is a member of the component and has its finding there.
  have hfinding : ∀ q, Relation.ReflTransGen (SlotLinked facts) x.pr q →
      ∃ f ∈ findings, f.pr = q ∧
        (analyze compare debugStr serialize facts provider).1.finding q = some f := by
    intro q hq
    obtain ⟨y,hy,hypr,hreach⟩ := rows_of_slotLinked hdistinct hx hq
    have hmem : y.pr ∈ findings.map (·.pr) :=
      hprs ▸ List.mem_map_of_mem ((streamComponents_linked hc hxc).mpr hreach)
    obtain ⟨f,hf,hfpr⟩ := List.mem_map.mp hmem
    have hqf : f.pr = q := hfpr.trans hypr
    refine ⟨f,hf,hqf,?_⟩
    rw [← hqf]
    exact analyze_finding compare debugStr serialize hdistinct provider (hsub f hf)
  rcases hverdict with ⟨row,hrow,hdecided⟩ | hundecided
  · left
    have hreach := slotLinked_of_rows ((streamComponents_linked hc hxc).mp hrow)
    refine ⟨row.pr,hreach,?_,?_⟩
    · obtain ⟨f,hf,hfpr,hfound⟩ := hfinding row.pr hreach
      exact ⟨f,hfound,(hdecided f hf).1 hfpr⟩
    · intro q hq hne
      obtain ⟨f,hf,hfpr,hfound⟩ := hfinding q hq
      exact ⟨f,hfound,(hdecided f hf).2 (hfpr ▸ hne)⟩
  · right
    intro q hq
    obtain ⟨f,hf,-,hfound⟩ := hfinding q hq
    exact ⟨f,hfound,hundecided f hf⟩

theorem requireAdmissible_ok {status : GenerationIntegrityStatus} {pr : PrNumber}
    {f : GenerationFinding} (hf : status.finding pr = some f)
    (hok : requireAdmissible status pr = .ok ()) : f.disposition = .currentGeneration := by
  unfold requireAdmissible at hok
  rw [hf] at hok
  cases hd : f.disposition <;> simp [hd,refuse] at hok ⊢

/-- For every list of facts with distinct numbers and every provider, consistent or not. -/
theorem analyze_oneGenerationPerSlot (facts : List PullRequestGenerationFact)
    (hdistinct : (facts.map (·.pr)).Nodup) (provider : σ) :
    OneGenerationPerSlot facts (analyze compare debugStr serialize facts provider).1 := by
  refine ⟨?_,fun p a hp => analyze_component compare debugStr serialize hdistinct provider hp⟩
  intro p q a b hp hq hne hslot hboth
  have hlink : Relation.ReflTransGen (SlotLinked facts) p q := .single ⟨a,b,hp,hq,hslot⟩
  rcases analyze_component compare debugStr serialize hdistinct provider hp with
    ⟨canonical,hreach,-,hothers⟩ | hambiguous
  · by_cases hpc : p = canonical
    · obtain ⟨f,hf,hd,-⟩ := hothers q hlink (hpc ▸ hne.symm)
      rw [requireAdmissible_ok hf hboth.2] at hd
      simp at hd
    · obtain ⟨f,hf,hd,-⟩ := hothers p .refl hpc
      rw [requireAdmissible_ok hf hboth.1] at hd
      simp at hd
  · obtain ⟨f,hf,hd,-⟩ := hambiguous p .refl
    rw [requireAdmissible_ok hf hboth.1] at hd
    simp at hd

end Main

/-- Two generations of one stream, the second containing the first. -/
def pairFacts : List PullRequestGenerationFact :=
  let provenance (head : String) : CacophonyGenerationProvenance :=
    { generation := "agent-pr-g" ++ head, agent := "agent", sourceHead := head
      beadIds := {"bd-1"}, stackBase := "main", stackState := "root" }
  [{ pr := 1, providerHead := "a", provenance := some (provenance "a") },
   { pr := 2, providerHead := "b", provenance := some (provenance "b") }]

/-- A provider that answers every comparison with `ahead`. -/
def aheadStatus : GenerationIntegrityStatus :=
  (analyze (fun (_ : Unit) _ _ => ((),.ahead)) (fun s => "\"" ++ s ++ "\"") (fun _ _ => [])
    pairFacts ()).1

theorem analyze_oneGenerationPerSlot_pair :
    (pairFacts.map (·.pr)).Nodup ∧ requireAdmissible aheadStatus 2 = .ok () ∧
      requireAdmissible aheadStatus 1 ≠ .ok () ∧ OneGenerationPerSlot pairFacts aheadStatus :=
  ⟨by decide,by decide +kernel,by decide +kernel,
    analyze_oneGenerationPerSlot _ _ _ pairFacts (by decide) ()⟩

end Generation
end Cara
