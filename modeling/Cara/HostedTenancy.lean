import Cara.Model
import Cara.Lib.Guard
import Cara.Lib.Loop
import Cara.Lib.Saturating
import Cara.Lib.Text
import Mathlib.Data.List.Basic
import Std.Data.ExtTreeMap
import Std.Data.ExtTreeSet

/-! Repository-tenancy projection of a hosted installation. The projection changes only
after a complete read of the installation's repositories, page by page, and the deployment
allowlist is its upper bound. -/
namespace Cara
namespace HostedTenancy
open Std (ExtTreeMap ExtTreeSet)

def tenancySchemaVersion : ℕ := 1
def providerPageSize : ℕ := 100
def maxProviderRepositories : ℕ := 10000

inductive HostedTenancyState where
  | active
  | quarantined
deriving DecidableEq

structure HostedTenancyRecord where
  repository : String
  installationId : ℕ
  state : HostedTenancyState
  reason : String
  providerGeneration : String
  observedUnixMs : ℕ
deriving DecidableEq

structure HostedTenancyProjection where
  schemaVersion : ℕ
  installationId : ℕ
  providerGeneration : String
  providerTotalCount : ℕ
  observedUnixMs : ℕ
  complete : Bool
  reason : String
  repositories : ExtTreeMap String HostedTenancyRecord

abbrev Allowlist := ExtTreeSet String

def rowsOf {α : Type} (names : List String) (row : String → α) : ExtTreeMap String α :=
  ExtTreeMap.ofList (names.map fun name => (name,row name))

namespace HostedTenancyProjection

def active (p : HostedTenancyProjection) (repository : String) : Bool :=
  p.complete && p.repositories[repository]?.any fun record =>
    decide (record.state = .active) && decide (record.installationId = p.installationId) &&
      decide (record.providerGeneration = p.providerGeneration)

def quarantine (installationId : ℕ) (allowlist : Allowlist) (reason : String)
    (observedUnixMs : ℕ) : HostedTenancyProjection where
  schemaVersion := tenancySchemaVersion
  installationId := installationId
  providerGeneration := "unavailable"
  providerTotalCount := 0
  observedUnixMs := observedUnixMs
  complete := false
  reason := reason
  repositories := rowsOf allowlist.toList fun repository =>
    { repository := repository
      installationId := installationId
      state := .quarantined
      reason := reason
      providerGeneration := "unavailable"
      observedUnixMs := observedUnixMs }

end HostedTenancyProjection

open HostedTenancyProjection

structure HostedTenancyObservation where
  installationId : ℕ
  providerGeneration : String
  providerTotalCount : ℕ
  observedUnixMs : ℕ
  repositories : ExtTreeSet String

structure HostedTenancyProviderError where
  reason : String
deriving DecidableEq

structure InstallationRepository where
  id : ℕ
  fullName : String
deriving DecidableEq

structure InstallationRepositoriesPage where
  totalCount : ℕ
  repositories : List InstallationRepository
deriving DecidableEq

inductive PageAnswer where
  | unavailable
  | failed
  | invalid
  | page (page : InstallationRepositoriesPage)
deriving DecidableEq

/-- The answer to each command, by its position in the sequence and its endpoint. -/
abbrev Runner := ℕ → String → PageAnswer

abbrev Repositories := ExtTreeMap String ℕ

section Pages

structure PageState where
  pageNumber : ℕ
  expectedTotal : Option ℕ
  repositories : Repositories

def PageState.first : PageState := ⟨1,none,∅⟩

def endpoint (pageNumber : ℕ) : String :=
  "/installation/repositories?per_page=" ++ toString providerPageSize ++ "&page=" ++
    toString pageNumber

def pageOf : PageAnswer → Except HostedTenancyProviderError InstallationRepositoriesPage
  | .unavailable => .error ⟨"provider_command_unavailable"⟩
  | .failed => .error ⟨"installation_repository_read_failed"⟩
  | .invalid => .error ⟨"provider_response_invalid"⟩
  | .page page => .ok page

/-- Enter the repositories of one page; a malformed or repeated name ends the read. -/
def insertRepositories :
    List InstallationRepository → Repositories → Except HostedTenancyProviderError Repositories
  | [],repositories => .ok repositories
  | r::rest,repositories => do
      Guard.refuse ((Text.splitOnce ['/'] r.fullName.toList).isNone || repositories.contains r.fullName)
        ⟨"provider_repository_identity_invalid"⟩
      insertRepositories rest (repositories.insert r.fullName r.id)

/-- One page admitted to the read, with the number of rows on it. -/
def receivePage (s : PageState) (answer : PageAnswer) :
    Except HostedTenancyProviderError (PageState × ℕ) := do
  let page ← pageOf answer
  Guard.refuse (decide (maxProviderRepositories < page.totalCount))
    ⟨"provider_repository_limit_exceeded"⟩
  Guard.refuse (s.expectedTotal.any fun total => decide (total ≠ page.totalCount))
    ⟨"provider_repository_total_changed"⟩
  let repositories ← insertRepositories page.repositories s.repositories
  return (⟨s.pageNumber,some page.totalCount,repositories⟩,page.repositories.length)

def readPage (runner : Runner) (i : ℕ) (s : PageState) :
    Turn PageState (Except HostedTenancyProviderError Repositories) :=
  match receivePage s (runner i (endpoint s.pageNumber)) with
  | .error e => .done (.error e)
  | .ok (received,pageLen) =>
      let total := received.expectedTotal.getD 0
      if received.repositories.size = total then .done (.ok received.repositories)
      else if pageLen = 0 ∨ total < received.repositories.size then
        .done (.error ⟨"provider_repository_projection_incomplete"⟩)
      else .again { received with pageNumber := Saturating.add received.pageNumber 1 }

end Pages

section Termination

variable {runner : Runner} {s s' : PageState} {rows : List InstallationRepository}
  {repositories received : Repositories}

theorem insertRepositories_size (h : insertRepositories rows repositories = .ok received) :
    received.size = repositories.size + rows.length := by
  induction rows generalizing repositories with
  | nil =>
    cases h
    rfl
  | cons r rest ih =>
    rw [insertRepositories] at h
    simp only [Guard.refuse_bind_eq_ok,Bool.or_eq_false_iff] at h
    have hnew := h.1.2
    rw [ih h.2,ExtTreeMap.size_insert,List.length_cons]
    simp only [hnew,Bool.false_eq_true,↓reduceIte]
    omega

structure Received (s : PageState) (page : InstallationRepositoriesPage) (received : PageState) :
    Prop where
  limit : page.totalCount ≤ maxProviderRepositories
  steady : ∀ total, s.expectedTotal = some total → total = page.totalCount
  rows : insertRepositories page.repositories s.repositories = .ok received.repositories
  total : received.expectedTotal = some page.totalCount
  number : received.pageNumber = s.pageNumber

theorem receivePage_eq_ok {answer : PageAnswer} {received : PageState} {pageLen : ℕ}
    (h : receivePage s answer = .ok (received,pageLen)) :
    ∃ page, answer = .page page ∧ pageLen = page.repositories.length ∧ Received s page received := by
  rw [receivePage] at h
  obtain ⟨page,hpage,h⟩ := Guard.bind_eq_ok.mp h
  have hanswer : answer = .page page := by
    cases answer <;> cases hpage
    rfl
  simp only [Guard.refuse_bind_eq_ok,decide_eq_false_iff_not] at h
  obtain ⟨hlimit,hsteady,h⟩ := h
  obtain ⟨repositories,hrows,h⟩ := Guard.bind_eq_ok.mp h
  cases h
  refine ⟨page,hanswer,rfl,by omega,?_,hrows,rfl,rfl⟩
  intro total htotal
  simpa [htotal] using hsteady

theorem readPage_eq_again {i : ℕ} (h : readPage runner i s = .again s') :
    ∃ page received, runner i (endpoint s.pageNumber) = .page page ∧ Received s page received ∧
      page.repositories ≠ [] ∧ received.repositories.size < page.totalCount ∧
      s' = { received with pageNumber := Saturating.add received.pageNumber 1 } := by
  rw [readPage] at h
  cases hreceive : receivePage s (runner i (endpoint s.pageNumber)) with
  | error e =>
    rw [hreceive] at h
    cases h
  | ok out =>
    obtain ⟨received,pageLen⟩ := out
    obtain ⟨page,hanswer,hlen,hr⟩ := receivePage_eq_ok hreceive
    simp only [hreceive,hr.total,Option.getD_some] at h
    split_ifs at h with hsize hshort
    cases h
    rw [not_or] at hshort
    have hrows : page.repositories ≠ [] := by
      intro hnil
      exact hshort.1 (by rw [hlen,hnil,List.length_nil])
    refine ⟨page,received,hanswer,hr,hrows,?_,by rw [hr.total]⟩
    omega

/-- How a turn of the page loop ends the read with its repositories. -/
theorem readPage_eq_done {i : ℕ} {out : Repositories} (h : readPage runner i s = .done (.ok out)) :
    ∃ page received, runner i (endpoint s.pageNumber) = .page page ∧ Received s page received ∧
      received.repositories.size = page.totalCount ∧ out = received.repositories := by
  rw [readPage] at h
  cases hreceive : receivePage s (runner i (endpoint s.pageNumber)) with
  | error e =>
    rw [hreceive] at h
    cases h
  | ok pair =>
    obtain ⟨received,pageLen⟩ := pair
    obtain ⟨page,hanswer,hlen,hr⟩ := receivePage_eq_ok hreceive
    simp only [hreceive,hr.total,Option.getD_some] at h
    split_ifs at h with hsize hshort
    · cases h
      exact ⟨page,received,hanswer,hr,hsize,rfl⟩
    · cases h

def PageState.room (s : PageState) : ℕ := maxProviderRepositories - s.repositories.size

/-- A turn that goes round again has entered at least one new repository. -/
theorem readPage_room {i : ℕ} (h : readPage runner i s = .again s') : s'.room < s.room := by
  obtain ⟨page,received,hanswer,hr,hne,hsize,rfl⟩ := readPage_eq_again h
  have hgrow := insertRepositories_size hr.rows
  have hpos := List.length_pos_of_ne_nil hne
  have hlimit := hr.limit
  simp only [PageState.room]
  omega

/-- No answer sequence keeps the page loop going for more pages than the provider limit. -/
theorem readPages_end (runner : Runner) :
    ∃ result, Loop.run (readPage runner) (maxProviderRepositories + 1) 0 .first = some result :=
  Loop.run_ends PageState.room (fun _ _ _ h => readPage_room h)
    (Nat.lt_succ_of_le (Nat.sub_le _ _))

end Termination

/-- The result of the page loop, which ends after at most one page for each repository. -/
def readPages (runner : Runner) : Except HostedTenancyProviderError Repositories :=
  (Loop.run (readPage runner) (maxProviderRepositories + 1) 0 .first).get
    (Option.isSome_iff_exists.mpr (readPages_end runner))

section Observation

def beBytes (n : ℕ) : List UInt8 := (List.range 8).map fun i => UInt8.ofNat (n / 256 ^ (7 - i))

def generationBytes (installationId : ℕ) (repositories : Repositories) : List UInt8 :=
  beBytes installationId ++
    repositories.toList.flatMap fun row => row.1.toUTF8.toList ++ 0::beBytes row.2

/-- One complete read of the installation. The digest is the lower-case hexadecimal SHA-256. -/
def observeWithRunner (sha256 : List UInt8 → String) (runner : Runner) (installationId unixMs : ℕ) :
    Except HostedTenancyProviderError HostedTenancyObservation := do
  let repositories ← readPages runner
  return {
    installationId := installationId
    providerGeneration := "sha256:" ++ sha256 (generationBytes installationId repositories)
    providerTotalCount := repositories.size
    observedUnixMs := unixMs
    repositories := ExtTreeSet.ofList repositories.keys }

end Observation

section Projection

/-- Intersect one complete observation with the allowlist. Repositories outside of the
allowlist never become rows. -/
def reconcileTenancy (installationId : ℕ) (allowlist : Allowlist)
    (observation : Except HostedTenancyProviderError HostedTenancyObservation) (unixMs : ℕ) :
    HostedTenancyProjection :=
  match observation with
  | .error error => quarantine installationId allowlist error.reason unixMs
  | .ok observation =>
      if observation.installationId = installationId then
        { schemaVersion := tenancySchemaVersion
          installationId := installationId
          providerGeneration := observation.providerGeneration
          providerTotalCount := observation.providerTotalCount
          observedUnixMs := observation.observedUnixMs
          complete := true
          reason := "authoritative_installation_reconciliation"
          repositories := rowsOf allowlist.toList fun repository =>
            let active := observation.repositories.contains repository
            { repository := repository
              installationId := installationId
              state := if active then .active else .quarantined
              reason := if active then "authoritative_installation_access"
                else "repository_absent_from_installation"
              providerGeneration := observation.providerGeneration
              observedUnixMs := observation.observedUnixMs } }
      else quarantine installationId allowlist "installation_identity_mismatch" unixMs

def transitionReason (complete : Bool) (state : HostedTenancyState) (wasActive : Bool) : String :=
  match complete,state,wasActive with
  | true,.active,true => "retained_authoritative_access"
  | true,.active,false => "added_authoritative_access"
  | true,.quarantined,true => "removed_from_authoritative_installation"
  | true,.quarantined,false => "quarantined_not_in_authoritative_installation"
  | false,_,_ => "quarantined_provider_unknown"

def classifyTenancyTransitions (previous : Option HostedTenancyProjection)
    (p : HostedTenancyProjection) : HostedTenancyProjection :=
  { p with
    repositories := p.repositories.map fun repository record =>
      { record with
        reason := transitionReason p.complete record.state (previous.any (·.active repository)) } }

end Projection

section Storage

structure ProjectionCodec where
  text : HostedTenancyProjection → List UInt8
  parse : List UInt8 → Option HostedTenancyProjection

/-- The projection of a state file that was read, when it is one of this deployment. -/
def loadTenancy (codec : ProjectionCodec) (file : Option (List UInt8)) (installationId : ℕ)
    (allowlist : Allowlist) (unixMs : ℕ) : HostedTenancyProjection :=
  match file with
  | none => quarantine installationId allowlist "tenancy_state_missing" unixMs
  | some bytes =>
      match codec.parse bytes with
      | none => quarantine installationId allowlist "tenancy_state_invalid" unixMs
      | some p =>
          let exactRows := decide (p.repositories.keys = allowlist.toList)
          let exactGenerations := p.repositories.toList.all fun row =>
            decide (row.2.repository = row.1) && decide (row.2.installationId = installationId) &&
              decide (row.2.providerGeneration = p.providerGeneration) &&
              decide (row.2.observedUnixMs = p.observedUnixMs)
          if p.schemaVersion ≠ tenancySchemaVersion ∨ p.installationId ≠ installationId ∨
              p.complete = false ∨ exactRows = false ∨ exactGenerations = false then
            quarantine installationId allowlist "tenancy_state_generation_mismatch" unixMs
          else p

inductive PersistCall where
  | parent
  | createDirectory
  | restrictDirectory
  | createTemporary
  | writeTemporary
  | rename
deriving DecidableEq

/-- One request of a replacement, refused with the text of its failure. -/
def persistCall (answers : PersistCall → Option String) (call : PersistCall) :
    Except (AppError Unit) Unit :=
  match answers call with
  | none => .ok ()
  | some message => .error ⟨.validation,"hosted_tenancy_state_unavailable",message,none⟩

/-- Replace the state file through a temporary name. The old file stays until the rename. -/
def persistTenancy (codec : ProjectionCodec) (answers : PersistCall → Option String)
    (p : HostedTenancyProjection) : Except (AppError Unit) (List UInt8) := do
  Guard.refuse (answers .parent).isSome
    ⟨.validation,"hosted_tenancy_state_invalid","state path has no parent",none⟩
  persistCall answers .createDirectory
  persistCall answers .restrictDirectory
  persistCall answers .createTemporary
  persistCall answers .writeTemporary
  persistCall answers .rename
  return codec.text p

end Storage

end HostedTenancy
end Cara
