import Cara.RequiredRuns

/-! The effective policy of a landing branch: legacy protection united with the active rules. A read that
is refused, malformed or bounded is never an empty policy. -/
namespace Cara
namespace RequiredPolicy

open RequiredRuns (RequiredCheck RequiredContextsRead)

section Documents

inductive ProviderValue where
  | null
  | bool (b : Bool)
  | integer (n : ℤ)
  | fraction
  | str (s : String)
  | arr (items : List ProviderValue)
  | obj (fields : List (String × ProviderValue))

namespace ProviderValue

/-- The member of an object; a repeated key counts by its last value. -/
def get (key : String) : ProviderValue → Option ProviderValue
  | .obj fields => (fields.reverse.find? fun field => decide (field.1 = key)).map (·.2)
  | _ => none

def asStr : ProviderValue → Option String
  | .str s => some s
  | _ => none

def asArray : ProviderValue → Option (List ProviderValue)
  | .arr items => some items
  | _ => none

def asU64 : ProviderValue → Option ℕ
  | .integer n => if 0 ≤ n ∧ n < 18446744073709551616 then some n.toNat else none
  | _ => none

end ProviderValue

structure BranchRule where
  kind : String
  parameters : Option ProviderValue

structure RequiredCheckJson where
  context : String
  appId : Option ℤ := none
deriving DecidableEq

structure RequiredStatusChecksJson where
  contexts : List String := []
  checks : List RequiredCheckJson := []
deriving DecidableEq

inductive PolicyReadError where
  | commandFailed (stderr : String)
  | other
deriving DecidableEq

structure PolicyProvider where
  settings : Except PolicyReadError Bool
  rules : Except PolicyReadError (List (List BranchRule))
  protection : Except PolicyReadError (Option RequiredStatusChecksJson)

end Documents

section Read

def unprotected (branch : String) : RequiredContextsRead :=
  { branch := branch,isProtected := false,complete := true }

def incomplete (branch : String) : RequiredContextsRead :=
  { branch := branch,isProtected := true,complete := false }

/-- The App a legacy check is bound to, and whether the binding is understood. -/
def legacyApp : Option ℤ → Option ℕ × Bool
  | none => (none,true)
  | some id =>
      if id = -1 then (none,true)
      else if 0 < id then (some id.toNat,true)
      else (none,false)

def legacyCheck (check : RequiredCheckJson) : RequiredCheck := ⟨check.context,(legacyApp check.appId).1⟩

/-- Only the provider's explicit absence response stands for a branch without legacy protection. -/
def saysNotProtected : PolicyReadError → Bool
  | .commandFailed stderr => Text.contains stderr "Branch not protected" && Text.contains stderr "404"
  | .other => false

def addLegacy (protection : Except PolicyReadError (Option RequiredStatusChecksJson))
    (read : RequiredContextsRead) : RequiredContextsRead :=
  match protection with
  | .ok none => read
  | .ok (some required) => { read with
      contexts := required.contexts
      checks := read.checks ++ required.checks.map legacyCheck
      complete := read.complete && required.checks.all fun check => (legacyApp check.appId).2 }
  | .error error => if saysNotProtected error then read else { read with complete := false }

/-- The App a rule entry is bound to, and whether the binding is understood. -/
def entryApp : Option ProviderValue → Option ℕ × Bool
  | none | some .null => (none,true)
  | some value =>
      let app := value.asU64.filter fun id => decide (0 < id)
      (app,app.isSome)

def addEntry (read : RequiredContextsRead) (entry : ProviderValue) : RequiredContextsRead :=
  match (entry.get "context").bind (·.asStr) with
  | none => { read with complete := false }
  | some context =>
      let app := entryApp (entry.get "integration_id")
      { read with
        checks := read.checks ++ [⟨context,app.1⟩]
        complete := read.complete && app.2 }

def BranchRule.entries (rule : BranchRule) : Option (List ProviderValue) :=
  (rule.parameters.bind (·.get "required_status_checks")).bind (·.asArray)

def addRule (read : RequiredContextsRead) (rule : BranchRule) : RequiredContextsRead :=
  -- Required workflows cannot be reduced to a guessed context.
  let read := if rule.kind = "workflows" then { read with complete := false } else read
  if rule.kind ≠ "required_status_checks" then read
  else match rule.entries with
    | none => { read with complete := false }
    | some entries => entries.foldl addEntry read

/-- The legacy names are refined by their own checks before the independent rules join them. -/
def effectiveRequiredChecks (branch : String) (provider : PolicyProvider) : RequiredContextsRead :=
  match provider.settings,provider.rules with
  | .ok isProtected,.ok pages =>
      let rules := pages.flatten
      let start := { unprotected branch with
        complete := !pages.isEmpty
        isProtected := isProtected || !rules.isEmpty }
      let legacy := if isProtected then addLegacy provider.protection start else start
      (rules.foldl addRule legacy.normalized).normalized
  | _,_ => incomplete branch

end Read

section Requirements

variable (provider : PolicyProvider)

def PolicyProvider.activeRules : List BranchRule :=
  match provider.rules with
  | .ok pages => pages.flatten
  | .error _ => []

/-- The legacy declarations that a protection read holds. -/
def declared (protection : Except PolicyReadError (Option RequiredStatusChecksJson)) :
    RequiredStatusChecksJson :=
  match protection with
  | .ok (some required) => required
  | _ => {}

/-- The legacy declarations of a branch that is protected. -/
def PolicyProvider.legacy : RequiredStatusChecksJson :=
  match provider.settings with
  | .ok true => declared provider.protection
  | _ => {}

def entryRequirement (entry : ProviderValue) : Option RequiredCheck :=
  ((entry.get "context").bind (·.asStr)).bind fun context =>
    if (entryApp (entry.get "integration_id")).2 then
      some ⟨context,(entryApp (entry.get "integration_id")).1⟩
    else none

inductive Demands : RequiredCheck → Prop
  | check {check : RequiredCheckJson} : check ∈ provider.legacy.checks → Demands (legacyCheck check)
  | context {name : String} : name ∈ provider.legacy.contexts →
      (∀ check ∈ provider.legacy.checks,check.context ≠ name) → Demands ⟨name,none⟩
  | entry {rule : BranchRule} {entries : List ProviderValue} {entry : ProviderValue}
      {required : RequiredCheck} : rule ∈ provider.activeRules → rule.kind = "required_status_checks" →
      rule.entries = some entries → entry ∈ entries → entryRequirement entry = some required →
      Demands required

/-- A read that holds every demand and nothing else, from answers that were all understood. -/
structure LosesNothing (read : RequiredContextsRead) : Prop where
  exact : ∀ required,required ∈ read.checks ↔ Demands provider required
  legacyApps : ∀ check ∈ provider.legacy.checks,(legacyApp check.appId).2 = true
  legacyRead : provider.settings = .ok true → (∃ required,provider.protection = .ok required) ∨
    ∃ error,provider.protection = .error error ∧ saysNotProtected error = true
  rulesRead : ∀ rule ∈ provider.activeRules,rule.kind = "required_status_checks" →
    ∃ entries,rule.entries = some entries ∧ ∀ entry ∈ entries,(entryRequirement entry).isSome = true
  noWorkflows : ∀ rule ∈ provider.activeRules,rule.kind ≠ "workflows"
  stable : read.normalized = read

end Requirements

section Rules

variable {read : RequiredContextsRead} {entry : ProviderValue} {entries : List ProviderValue}
  {rule : BranchRule} {rules : List BranchRule}

structure Added (read : RequiredContextsRead) (P : RequiredCheck → Prop) (after : RequiredContextsRead) :
    Prop where
  complete : read.complete = true
  contexts : after.contexts = read.contexts
  checks : ∀ required,required ∈ after.checks ↔ required ∈ read.checks ∨ P required

theorem addEntry_added (h : (addEntry read entry).complete = true) :
    ∃ required,entryRequirement entry = some required ∧ Added read (· = required) (addEntry read entry) := by
  unfold addEntry at h ⊢
  unfold entryRequirement
  cases hcontext : (entry.get "context").bind (·.asStr) with
  | none =>
    rw [hcontext] at h
    cases h
  | some context =>
    rw [hcontext] at h
    dsimp only at h ⊢
    obtain ⟨hcomplete,happ⟩ := (Bool.and_eq_true _ _).mp h
    refine ⟨_,by rw [Option.bind_some,if_pos happ],hcomplete,rfl,?_⟩
    intro required
    rw [List.mem_append,List.mem_singleton]

theorem addEntries_added (h : (entries.foldl addEntry read).complete = true) :
    (∀ entry ∈ entries,(entryRequirement entry).isSome = true) ∧
      Added read (fun required => ∃ entry ∈ entries,entryRequirement entry = some required)
        (entries.foldl addEntry read) := by
  induction entries generalizing read with
  | nil => exact ⟨fun _ hmem => (by cases hmem),h,rfl,fun required => by simp⟩
  | cons entry entries ih =>
    rw [List.foldl_cons] at h ⊢
    obtain ⟨hall,hrest⟩ := ih h
    obtain ⟨required,hrequired,hadded⟩ := addEntry_added hrest.complete
    refine ⟨?_,hadded.complete,hrest.contexts.trans hadded.contexts,?_⟩
    · intro other hother
      rcases List.mem_cons.mp hother with rfl | hother
      · rw [hrequired]
        rfl
      · exact hall other hother
    · intro other
      rw [hrest.checks,hadded.checks,or_assoc]
      apply or_congr_right
      constructor
      · intro hor
        rcases hor with heq | hlater
        · exact ⟨entry,List.mem_cons_self,heq ▸ hrequired⟩
        · obtain ⟨later,hmem,heq⟩ := hlater
          exact ⟨later,List.mem_cons_of_mem _ hmem,heq⟩
      · intro hex
        obtain ⟨later,hmem,heq⟩ := hex
        rcases List.mem_cons.mp hmem with rfl | hmem
        · exact .inl (Option.some.inj (heq.symm.trans hrequired))
        · exact .inr ⟨later,hmem,heq⟩

def RuleDemands (rule : BranchRule) (required : RequiredCheck) : Prop :=
  rule.kind = "required_status_checks" ∧
    ∃ entries,rule.entries = some entries ∧ ∃ entry ∈ entries,entryRequirement entry = some required

structure Understood (rule : BranchRule) : Prop where
  noWorkflows : rule.kind ≠ "workflows"
  entries : rule.kind = "required_status_checks" →
    ∃ entries,rule.entries = some entries ∧ ∀ entry ∈ entries,(entryRequirement entry).isSome = true

theorem addRule_added (h : (addRule read rule).complete = true) :
    Understood rule ∧ Added read (RuleDemands rule) (addRule read rule) := by
  unfold addRule at h ⊢
  by_cases hworkflows : rule.kind = "workflows"
  · have hother : rule.kind ≠ "required_status_checks" := by
      rw [hworkflows]
      decide
    rw [if_pos hworkflows,if_pos hother] at h
    cases h
  · rw [if_neg hworkflows] at h ⊢
    by_cases hkind : rule.kind = "required_status_checks"
    · rw [if_neg (not_not.mpr hkind)] at h ⊢
      cases hentries : rule.entries with
      | none =>
        rw [hentries] at h
        cases h
      | some entries =>
        rw [hentries] at h
        obtain ⟨hall,hadded⟩ := addEntries_added h
        refine ⟨⟨hworkflows,fun _ => ⟨entries,hentries,hall⟩⟩,hadded.complete,hadded.contexts,?_⟩
        intro required
        dsimp only
        rw [hadded.checks]
        apply or_congr_right
        unfold RuleDemands
        rw [hentries]
        simp [hkind]
    · rw [if_pos hkind] at h ⊢
      refine ⟨⟨hworkflows,fun heq => absurd heq hkind⟩,h,rfl,?_⟩
      intro required
      simp [RuleDemands,hkind]

theorem addRules_added (h : (rules.foldl addRule read).complete = true) :
    (∀ rule ∈ rules,Understood rule) ∧
      Added read (fun required => ∃ rule ∈ rules,RuleDemands rule required) (rules.foldl addRule read) := by
  induction rules generalizing read with
  | nil => exact ⟨fun _ hmem => (by cases hmem),h,rfl,fun required => by simp⟩
  | cons rule rules ih =>
    rw [List.foldl_cons] at h ⊢
    obtain ⟨hall,hrest⟩ := ih h
    obtain ⟨hunderstood,hadded⟩ := addRule_added hrest.complete
    refine ⟨?_,hadded.complete,hrest.contexts.trans hadded.contexts,?_⟩
    · intro other hother
      rcases List.mem_cons.mp hother with rfl | hother
      · exact hunderstood
      · exact hall other hother
    · intro required
      rw [hrest.checks,hadded.checks,or_assoc]
      simp

end Rules

section Order

theorem requiredCheck_le_total (a b : RequiredCheck) : a.le b ∨ b.le a := by
  unfold RequiredCheck.le
  rcases lt_trichotomy a.context b.context with hlt | heq | hgt
  · exact .inl (.inl hlt)
  · rw [heq]
    cases a.appId with
    | none => exact .inl (.inr ⟨rfl,trivial⟩)
    | some x =>
      cases b.appId with
      | none => exact .inr (.inr ⟨rfl,trivial⟩)
      | some y =>
        rcases Nat.le_total x y with h | h
        · exact .inl (.inr ⟨rfl,h⟩)
        · exact .inr (.inr ⟨rfl,h⟩)
  · exact .inr (.inl hgt)

theorem requiredCheck_le_trans {a b c : RequiredCheck} (hab : a.le b) (hbc : b.le c) : a.le c := by
  unfold RequiredCheck.le at *
  rcases hab with hab | ⟨hab,happ⟩
  · rcases hbc with hbc | ⟨hbc,_⟩
    · exact .inl (hab.trans hbc)
    · exact .inl (hbc ▸ hab)
  · rcases hbc with hbc | ⟨hbc,happ'⟩
    · exact .inl (hab ▸ hbc)
    · refine .inr ⟨hab.trans hbc,?_⟩
      cases ha : a.appId with
      | none => trivial
      | some x =>
        cases hb : b.appId with
        | none =>
          rw [ha,hb] at happ
          exact happ.elim
        | some y =>
          cases hc : c.appId with
          | none =>
            rw [hb,hc] at happ'
            exact happ'.elim
          | some z =>
            rw [ha,hb] at happ
            rw [hb,hc] at happ'
            exact Nat.le_trans happ happ'

instance : Std.Total RequiredCheck.le := ⟨requiredCheck_le_total⟩

instance : IsTrans RequiredCheck RequiredCheck.le := ⟨fun _ _ _ => requiredCheck_le_trans⟩

end Order

section Normalized

variable {read : RequiredContextsRead}

theorem refineChecks_eq_self {checks : List RequiredCheck} {contexts : List String}
    (h : ∀ context ∈ contexts,∃ check ∈ checks,check.context = context) :
    RequiredContextsRead.refineChecks checks contexts = checks := by
  unfold RequiredContextsRead.refineChecks
  induction contexts with
  | nil => rfl
  | cons context contexts ih =>
    obtain ⟨check,hcheck,hname⟩ := h context List.mem_cons_self
    have hany : (checks.any fun check => decide (check.context = context)) = true :=
      List.any_eq_true.mpr ⟨check,hcheck,decide_eq_true hname⟩
    rw [List.foldl_cons,if_pos hany]
    exact ih fun other hother => h other (List.mem_cons_of_mem _ hother)

theorem merged_pairwise (read : RequiredContextsRead) : read.merged.Pairwise RequiredCheck.le :=
  (List.pairwise_insertionSort _ _).sublist (Vec.dedupAdjacent_sublist _)

theorem merged_isChain (read : RequiredContextsRead) : List.IsChain (· ≠ ·) read.merged :=
  Vec.isChain_dedupAdjacent _

/-- Every name that a complete normal form reports is the name of one of its checks. -/
theorem mem_contexts_normalized {context : String} (h : context ∈ read.normalized.contexts) :
    ∃ check ∈ read.merged,check.context = context := by
  have hname : context ∈ read.merged.map (·.context) := by
    have hsorted := List.mem_of_mem_take h
    rwa [Vec.mem_dedupAdjacent,List.mem_insertionSort] at hsorted
  exact List.mem_map.mp hname

theorem merged_of_named (hchecks : read.checks.Pairwise RequiredCheck.le)
    (hchain : List.IsChain (· ≠ ·) read.checks)
    (hnamed : ∀ context ∈ read.contexts,∃ check ∈ read.checks,check.context = context) :
    read.merged = read.checks := by
  unfold RequiredContextsRead.merged
  rw [refineChecks_eq_self hnamed,Vec.dedupAdjacent_insertionSort_self hchecks hchain]

theorem merged_normalized (h : read.normalized.complete = true) :
    read.normalized.merged = read.merged := by
  obtain ⟨_,hchecks⟩ := RequiredRuns.normalized_complete h
  rw [merged_of_named,hchecks]
  · rw [hchecks]
    exact merged_pairwise read
  · rw [hchecks]
    exact merged_isChain read
  · rw [hchecks]
    exact fun context hcontext => mem_contexts_normalized hcontext

theorem normalized_normalized (h : read.normalized.complete = true) :
    read.normalized.normalized = read.normalized := by
  have hmerged := merged_normalized h
  unfold RequiredContextsRead.normalized at h hmerged ⊢
  dsimp only at h hmerged ⊢
  rw [hmerged]
  obtain ⟨hread,hbounded⟩ := (Bool.and_eq_true _ _).mp h
  rw [hread,hbounded]
  rfl

/-- Exactly the checks of a read, and its names that no check refines. -/
theorem mem_normalized_iff (h : read.normalized.complete = true) (required : RequiredCheck) :
    required ∈ read.normalized.checks ↔ RequiredRuns.Required read required := by
  rw [(RequiredRuns.normalized_complete h).2,RequiredRuns.mem_merged_iff]

end Normalized

section Union

variable {provider : PolicyProvider} {branch : String} {protection : Except PolicyReadError
  (Option RequiredStatusChecksJson)} {read : RequiredContextsRead}

structure LegacyUnderstood (protection : Except PolicyReadError (Option RequiredStatusChecksJson)) :
    Prop where
  apps : ∀ check ∈ (declared protection).checks,(legacyApp check.appId).2 = true
  read : (∃ required,protection = .ok required) ∨
    ∃ error,protection = .error error ∧ saysNotProtected error = true

theorem addLegacy_understood (hchecks : read.checks = []) (hcontexts : read.contexts = [])
    (h : (addLegacy protection read).complete = true) :
    LegacyUnderstood protection ∧ read.complete = true ∧
      (addLegacy protection read).checks = (declared protection).checks.map legacyCheck ∧
      (addLegacy protection read).contexts = (declared protection).contexts := by
  cases protection with
  | error error =>
    unfold addLegacy at h ⊢
    dsimp only at h ⊢
    split at h
    case isTrue habsent =>
      rw [if_pos habsent]
      exact ⟨⟨fun _ hmem => (by cases hmem),.inr ⟨error,rfl,habsent⟩⟩,h,hchecks,hcontexts⟩
    case isFalse => cases h
  | ok policy =>
    cases policy with
    | none => exact ⟨⟨fun _ hmem => (by cases hmem),.inl ⟨none,rfl⟩⟩,h,hchecks,hcontexts⟩
    | some required =>
      obtain ⟨hread,happs⟩ := (Bool.and_eq_true _ _).mp h
      refine ⟨⟨List.all_eq_true.mp happs,.inl ⟨some required,rfl⟩⟩,hread,?_,rfl⟩
      unfold addLegacy
      dsimp only
      rw [hchecks,List.nil_append]
      rfl

def Declares (legacy : RequiredStatusChecksJson) (required : RequiredCheck) : Prop :=
  (∃ check ∈ legacy.checks,legacyCheck check = required) ∨
    ∃ name ∈ legacy.contexts,(∀ check ∈ legacy.checks,check.context ≠ name) ∧ required = ⟨name,none⟩

theorem required_iff_declares {legacy : RequiredStatusChecksJson}
    (hchecks : read.checks = legacy.checks.map legacyCheck) (hcontexts : read.contexts = legacy.contexts)
    (required : RequiredCheck) : RequiredRuns.Required read required ↔ Declares legacy required := by
  unfold RequiredRuns.Required Declares
  rw [hchecks,hcontexts,List.mem_map]
  apply or_congr_right
  apply exists_congr
  intro name
  apply and_congr_right
  intro _
  rw [List.forall_mem_map]
  rfl

theorem demands_iff (required : RequiredCheck) : Demands provider required ↔
    Declares provider.legacy required ∨ ∃ rule ∈ provider.activeRules,RuleDemands rule required := by
  constructor
  · intro h
    cases h with
    | check hcheck => exact .inl (.inl ⟨_,hcheck,rfl⟩)
    | context hname hfree => exact .inl (.inr ⟨_,hname,hfree,rfl⟩)
    | entry hrule hkind hentries hentry hrequired =>
      exact .inr ⟨_,hrule,hkind,_,hentries,_,hentry,hrequired⟩
  · rintro ((⟨check,hcheck,rfl⟩ | ⟨name,hname,hfree,rfl⟩) |
      ⟨rule,hrule,hkind,entries,hentries,entry,hentry,hrequired⟩)
    · exact .check hcheck
    · exact .context hname hfree
    · exact .entry hrule hkind hentries hentry hrequired

/-- The legacy part of a read: what it starts from, and what a protected branch declares. -/
theorem legacy_understood {isProtected : Bool} (hsettings : provider.settings = .ok isProtected)
    (hchecks : read.checks = []) (hcontexts : read.contexts = [])
    (h : (if isProtected then addLegacy provider.protection read else read).complete = true) :
    (∀ required,RequiredRuns.Required
        (if isProtected then addLegacy provider.protection read else read) required ↔
          Declares provider.legacy required) ∧
      (∀ check ∈ provider.legacy.checks,(legacyApp check.appId).2 = true) ∧
      (provider.settings = .ok true → (∃ required,provider.protection = .ok required) ∨
        ∃ error,provider.protection = .error error ∧ saysNotProtected error = true) := by
  cases isProtected with
  | true =>
    have hlegacy : provider.legacy = declared provider.protection := by
      unfold PolicyProvider.legacy
      rw [hsettings]
    obtain ⟨hunderstood,_,hafter,hnames⟩ := addLegacy_understood hchecks hcontexts h
    rw [hlegacy]
    exact ⟨required_iff_declares hafter hnames,hunderstood.apps,fun _ => hunderstood.read⟩
  | false =>
    have hlegacy : provider.legacy = {} := by
      unfold PolicyProvider.legacy
      rw [hsettings]
    rw [hlegacy]
    refine ⟨required_iff_declares hchecks hcontexts,fun _ hmem => (by cases hmem),?_⟩
    intro htrue
    rw [hsettings] at htrue
    cases htrue

/-- The rules only add to a normal form: each of its names is one of its checks. -/
theorem required_added {P : RequiredCheck → Prop} {after : RequiredContextsRead}
    (hadded : Added read.normalized P after) (required : RequiredCheck) :
    RequiredRuns.Required after required ↔ required ∈ read.normalized.checks ∨ P required := by
  unfold RequiredRuns.Required
  rw [hadded.checks,hadded.contexts]
  constructor
  · rintro (hmem | ⟨name,hname,hfree,_⟩)
    · exact hmem
    · obtain ⟨check,hcheck,hnamed⟩ := mem_contexts_normalized hname
      rw [← (RequiredRuns.normalized_complete hadded.complete).2] at hcheck
      exact absurd hnamed (hfree check ((hadded.checks check).mpr (.inl hcheck)))
  · exact .inl

/-- The union of legacy protection and active rules neither drops nor loosens a requirement. -/
theorem effectiveRequiredChecks_exact (h : (effectiveRequiredChecks branch provider).complete = true) :
    LosesNothing provider (effectiveRequiredChecks branch provider) := by
  unfold effectiveRequiredChecks at h ⊢
  cases hsettings : provider.settings with
  | error error =>
    rw [hsettings] at h
    cases h
  | ok isProtected =>
    cases hrules : provider.rules with
    | error error =>
      rw [hsettings,hrules] at h
      cases h
    | ok pages =>
      rw [hsettings,hrules] at h
      dsimp only at h ⊢
      have hactive : provider.activeRules = pages.flatten := by
        unfold PolicyProvider.activeRules
        rw [hrules]
      rw [← hactive] at h ⊢
      obtain ⟨hunion,_⟩ := RequiredRuns.normalized_complete h
      obtain ⟨hall,hadded⟩ := addRules_added hunion
      obtain ⟨hlegacy,_⟩ := RequiredRuns.normalized_complete hadded.complete
      obtain ⟨hrequired,happs,hread⟩ := legacy_understood hsettings rfl rfl hlegacy
      refine ⟨?_,happs,hread,fun rule hrule => (hall rule hrule).entries,
        fun rule hrule => (hall rule hrule).noWorkflows,normalized_normalized h⟩
      intro required
      rw [demands_iff,mem_normalized_iff h,required_added hadded,mem_normalized_iff hadded.complete,
        hrequired]

end Union

section Example

private def sharedRule : BranchRule where
  kind := "required_status_checks"
  parameters := some (.obj [("required_status_checks",.arr [
    .obj [("context",.str "build"),("integration_id",.integer 9)],.obj [("context",.str "lint")]])])

/-- Both sources name `build`, each bound to an App of its own. -/
private def sharedProvider : PolicyProvider where
  settings := .ok true
  rules := .ok [[sharedRule]]
  protection := .ok (some ⟨["build","docs"],[⟨"build",some 7⟩]⟩)

theorem effectiveRequiredChecks_exact_shared :
    LosesNothing sharedProvider (effectiveRequiredChecks "main" sharedProvider) :=
  effectiveRequiredChecks_exact (by decide)

example : (effectiveRequiredChecks "main" sharedProvider).checks =
    [⟨"build",some 7⟩,⟨"build",some 9⟩,⟨"docs",none⟩,⟨"lint",none⟩] := by decide

end Example

end RequiredPolicy
end Cara
