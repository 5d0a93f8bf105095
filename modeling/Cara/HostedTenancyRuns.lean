import Cara.HostedTenancy
import Mathlib.Data.List.Nodup

/-! Runs of a hosted installation: reconciliations with any provider answers, replacements
of the state file that succeed or fail, and restarts under any allowlist and installation. -/
namespace Cara
namespace HostedTenancy
open Std (ExtTreeMap ExtTreeSet LawfulEqOrd ReflOrd)
open HostedTenancyProjection

section Reads

/-- Pages answered one after the other with one total, which is the number of their
repositories, all of them different. -/
structure CompleteRead (runner : Runner) (total : ℕ) (pages : List InstallationRepositoriesPage) :
    Prop where
  answered : ∀ i page, pages[i]? = some page → runner i (endpoint (i + 1)) = .page page
  steady : ∀ page ∈ pages, page.totalCount = total
  distinct : ((pages.flatMap (·.repositories)).map (·.fullName)).Nodup
  count : ((pages.flatMap (·.repositories)).map (·.fullName)).length = total

def Contains (pages : List InstallationRepositoriesPage) (repository : String) : Prop :=
  repository ∈ (pages.flatMap (·.repositories)).map (·.fullName)

structure Entered (names : List String) (repositories : Repositories) : Prop where
  distinct : names.Nodup
  size : repositories.size = names.length
  mem : ∀ name, name ∈ repositories ↔ name ∈ names

theorem Entered.insert {names : List String} {repositories received : Repositories}
    {rows : List InstallationRepository} (h : Entered names repositories)
    (hrows : insertRepositories rows repositories = .ok received) :
    Entered (names ++ rows.map (·.fullName)) received := by
  induction rows generalizing names repositories with
  | nil =>
    cases hrows
    simpa using h
  | cons r rest ih =>
    rw [insertRepositories] at hrows
    simp only [Guard.refuse_bind_eq_ok,Bool.or_eq_false_iff] at hrows
    have hnew : r.fullName ∉ names := by
      rw [← h.mem,← ExtTreeMap.contains_iff_mem,hrows.1.2]
      simp
    have hentered : Entered (names ++ [r.fullName]) (repositories.insert r.fullName r.id) := by
      constructor
      · rw [List.nodup_append]
        refine ⟨h.distinct,List.nodup_singleton _,?_⟩
        intro a ha b hb
        rw [List.mem_singleton] at hb
        rintro rfl
        exact hnew (hb ▸ ha)
      · rw [ExtTreeMap.size_insert,h.size,List.length_append]
        simp [hrows.1.2]
      · intro name
        rw [ExtTreeMap.mem_insert,h.mem,List.mem_append,List.mem_singleton,compare_eq_iff_eq]
        exact ⟨fun hname => hname.symm.imp id Eq.symm,fun hname => hname.symm.imp Eq.symm id⟩
    have hrest := ih hentered hrows.2
    rwa [List.append_assoc] at hrest

structure ReadSoFar (runner : Runner) (i : ℕ) (s : PageState)
    (pages : List InstallationRepositoriesPage) : Prop where
  length : pages.length = i
  number : s.pageNumber = i + 1
  answered : ∀ j page, pages[j]? = some page → runner j (endpoint (j + 1)) = .page page
  total : ∀ page ∈ pages, s.expectedTotal = some page.totalCount
  entered : Entered ((pages.flatMap (·.repositories)).map (·.fullName)) s.repositories
  bound : s.repositories.size ≤ maxProviderRepositories
  short : i ≤ s.repositories.size

variable {runner : Runner} {i : ℕ} {s s' : PageState} {pages : List InstallationRepositoriesPage}

theorem ReadSoFar.first : ReadSoFar runner 0 .first [] where
  length := rfl
  number := rfl
  answered := by simp
  total := by simp
  entered := ⟨List.nodup_nil,rfl,by simp [PageState.first]⟩
  bound := Nat.zero_le _
  short := Nat.le_refl _

theorem ReadSoFar.answered_snoc {page : InstallationRepositoriesPage}
    (h : ReadSoFar runner i s pages) (hanswer : runner i (endpoint s.pageNumber) = .page page) :
    ∀ j p, (pages ++ [page])[j]? = some p → runner j (endpoint (j + 1)) = .page p := by
  intro j p hj
  rcases Nat.lt_or_ge j pages.length with hlt | hge
  · rw [List.getElem?_append_left hlt] at hj
    exact h.answered j p hj
  · have hlast : j = i := by
      have hlt := (List.getElem?_eq_some_iff.mp hj).1
      have hlen := h.length
      rw [List.length_append,List.length_singleton] at hlt
      omega
    subst hlast
    rw [List.getElem?_append_right hge,h.length,Nat.sub_self] at hj
    cases hj
    rw [← h.number]
    exact hanswer

theorem ReadSoFar.total_snoc {page : InstallationRepositoriesPage} {received : PageState}
    (h : ReadSoFar runner i s pages) (hr : Received s page received) :
    ∀ p ∈ pages ++ [page], p.totalCount = page.totalCount := by
  intro p hp
  rcases List.mem_append.mp hp with hp | hp
  · exact hr.steady _ (h.total p hp)
  · rw [List.mem_singleton.mp hp]

theorem ReadSoFar.entered_snoc {page : InstallationRepositoriesPage} {received : PageState}
    (h : ReadSoFar runner i s pages) (hr : Received s page received) :
    Entered (((pages ++ [page]).flatMap (·.repositories)).map (·.fullName)) received.repositories := by
  have hentered := h.entered.insert hr.rows
  rwa [List.flatMap_append,List.map_append,List.flatMap_singleton]

theorem ReadSoFar.again (h : ReadSoFar runner i s pages) (hturn : readPage runner i s = .again s') :
    ∃ pages, ReadSoFar runner (i + 1) s' pages := by
  obtain ⟨page,received,hanswer,hr,hne,hsize,rfl⟩ := readPage_eq_again hturn
  have hgrow := insertRepositories_size hr.rows
  have hpos := List.length_pos_of_ne_nil hne
  have hlimit := hr.limit
  have hshort := h.short
  have hentered := h.entered_snoc hr
  refine ⟨pages ++ [page],?_,?_,h.answered_snoc hanswer,?_,hentered,?_,?_⟩
  · rw [List.length_append,h.length,List.length_singleton]
  · have hsmall : i + 1 + 1 ≤ Saturating.maxU64 := by
      have hbound := h.bound
      have : maxProviderRepositories + 2 ≤ Saturating.maxU64 := by decide
      omega
    show Saturating.add received.pageNumber 1 = i + 1 + 1
    rw [hr.number,h.number,Saturating.add_eq hsmall]
  · intro p hp
    rw [h.total_snoc hr p hp]
    exact hr.total
  · show received.repositories.size ≤ maxProviderRepositories
    omega
  · show i + 1 ≤ received.repositories.size
    omega

theorem ReadSoFar.done {out : Repositories} (h : ReadSoFar runner i s pages)
    (hturn : readPage runner i s = .done (.ok out)) :
    ∃ total pages, CompleteRead runner total pages ∧ ∀ name, name ∈ out ↔ Contains pages name := by
  obtain ⟨page,received,hanswer,hr,hsize,rfl⟩ := readPage_eq_done hturn
  have hentered := h.entered_snoc hr
  refine ⟨page.totalCount,pages ++ [page],?_,hentered.mem⟩
  exact ⟨h.answered_snoc hanswer,h.total_snoc hr,hentered.distinct,by rw [← hentered.size,hsize]⟩

theorem readPages_complete {out : Repositories} (h : readPages runner = .ok out) :
    ∃ total pages, CompleteRead runner total pages ∧ ∀ name, name ∈ out ↔ Contains pages name := by
  have hrun : Loop.run (readPage runner) (maxProviderRepositories + 1) 0 .first = some (.ok out) := by
    rw [← h,readPages,Option.some_get]
  exact Loop.run_rule (fun i s => ∃ pages, ReadSoFar runner i s pages)
    (fun result => ∀ out, result = .ok out →
      ∃ total pages, CompleteRead runner total pages ∧ ∀ name, name ∈ out ↔ Contains pages name)
    (fun _ _ _ hpages hturn => hpages.elim fun _ hread => hread.again hturn)
    (fun _ _ _ hpages hturn out hout => hpages.elim fun _ hread => hread.done (hout ▸ hturn))
    ⟨[],.first⟩ hrun out rfl

end Reads

section Tenancy

variable {sha256 : List UInt8 → String} {installationId unixMs : ℕ} {allowlist : Allowlist}
  {repository : String}

theorem rowsOf_getElem {α : Type} {row : String → α} {record : α}
    (h : (rowsOf allowlist.toList row)[repository]? = some record) :
    repository ∈ allowlist ∧ record = row repository := by
  by_cases hmem : repository ∈ allowlist.toList
  · have hdistinct : (allowlist.toList.map fun name => (name,row name)).Pairwise
        (fun a b => ¬ compare a.1 b.1 = .eq) := by
      rw [List.pairwise_map]
      show allowlist.toList.Pairwise (fun a b => ¬ compare a b = .eq)
      exact ExtTreeSet.distinct_toList
    have hrow := ExtTreeMap.getElem?_ofList_of_mem (ReflOrd.compare_self (a := repository)) hdistinct
      (List.mem_map.mpr ⟨repository,hmem,rfl⟩)
    rw [rowsOf,hrow] at h
    exact ⟨ExtTreeSet.mem_toList.mp hmem,(Option.some.inj h).symm⟩
  · rw [rowsOf,ExtTreeMap.getElem?_ofList_of_contains_eq_false] at h
    · cases h
    · simpa [List.map_map,Function.comp_def] using hmem

theorem active_iff {p : HostedTenancyProjection} :
    p.active repository = true ↔ p.complete = true ∧ ∃ record,
      p.repositories[repository]? = some record ∧ record.state = .active ∧
      record.installationId = p.installationId ∧ record.providerGeneration = p.providerGeneration := by
  simp only [active,Bool.and_eq_true,Option.any_eq_true,decide_eq_true_eq,and_assoc]

theorem active_mem {p : HostedTenancyProjection} (h : p.active repository = true) :
    repository ∈ p.repositories.keys := by
  obtain ⟨_,record,hrecord,_⟩ := active_iff.mp h
  rw [ExtTreeMap.mem_keys,ExtTreeMap.mem_iff_isSome_getElem?,hrecord]
  rfl

@[simp] theorem quarantine_active {reason : String} :
    (quarantine installationId allowlist reason unixMs).active repository = false := rfl

@[simp] theorem classifyTenancyTransitions_active {previous : Option HostedTenancyProjection}
    {p : HostedTenancyProjection} :
    (classifyTenancyTransitions previous p).active repository = p.active repository := by
  rw [Bool.eq_iff_iff,active_iff,active_iff]
  simp only [classifyTenancyTransitions,ExtTreeMap.getElem?_map,Option.map_eq_some_iff]
  constructor
  · rintro ⟨hcomplete,_,⟨record,hrecord,rfl⟩,hstate⟩
    exact ⟨hcomplete,record,hrecord,hstate⟩
  · rintro ⟨hcomplete,record,hrecord,hstate⟩
    exact ⟨hcomplete,_,⟨record,hrecord,rfl⟩,hstate⟩

/-- A reconciliation grants what its observation has of the allowlist. -/
theorem reconcileTenancy_active
    {observation : Except HostedTenancyProviderError HostedTenancyObservation}
    (h : (reconcileTenancy installationId allowlist observation unixMs).active repository = true) :
    repository ∈ allowlist ∧ ∃ o, observation = .ok o ∧ repository ∈ o.repositories := by
  cases observation with
  | error e => cases h
  | ok o =>
    by_cases hid : o.installationId = installationId
    · simp only [reconcileTenancy,hid,if_true] at h
      obtain ⟨_,record,hrecord,hstate,_⟩ := active_iff.mp h
      obtain ⟨hmem,rfl⟩ := rowsOf_getElem hrecord
      refine ⟨hmem,o,rfl,?_⟩
      by_contra habsent
      rw [← ExtTreeSet.contains_iff_mem,Bool.not_eq_true] at habsent
      simp [habsent] at hstate
    · simp only [reconcileTenancy,if_neg hid] at h
      cases h

theorem reconcileTenancy_installationId
    {observation : Except HostedTenancyProviderError HostedTenancyObservation} :
    (reconcileTenancy installationId allowlist observation unixMs).installationId =
      installationId := by
  cases observation with
  | error e => rfl
  | ok o =>
    rw [reconcileTenancy]
    split <;> rfl

theorem observeWithRunner_eq_ok {runner : Runner} {o : HostedTenancyObservation}
    (h : observeWithRunner sha256 runner installationId unixMs = .ok o) :
    ∃ out, readPages runner = .ok out ∧ ∀ name, name ∈ o.repositories ↔ name ∈ out := by
  obtain ⟨out,hout,ho⟩ := Guard.bind_eq_ok.mp h
  cases ho
  refine ⟨out,hout,?_⟩
  intro name
  simp

variable {codec : ProjectionCodec} {file : Option (List UInt8)}

/-- A loaded projection that grants anything is the one in the file, and it was written for
the same installation and the same allowlist. -/
theorem loadTenancy_active
    (h : (loadTenancy codec file installationId allowlist unixMs).active repository = true) :
    ∃ bytes p, file = some bytes ∧ codec.parse bytes = some p ∧
      loadTenancy codec file installationId allowlist unixMs = p ∧
      p.installationId = installationId ∧ p.repositories.keys = allowlist.toList := by
  cases file with
  | none => cases h
  | some bytes =>
    rw [loadTenancy] at h ⊢
    cases hparse : codec.parse bytes with
    | none =>
      simp only [hparse] at h
      cases h
    | some p =>
      simp only [hparse] at h ⊢
      split at h
      · cases h
      · rename_i hchecks
        rw [if_neg hchecks]
        simp only [not_or,not_not,decide_eq_false_iff_not] at hchecks
        exact ⟨bytes,p,rfl,hparse,rfl,hchecks.2.1,hchecks.2.2.2.1⟩

end Tenancy

structure Deployment where
  installationId : ℕ
  allowlist : Allowlist

structure Reconciliation where
  deployment : Deployment
  runner : Runner
  unixMs : ℕ

/-- What a reconciliation writes, after a projection that was in memory before it. -/
def Reconciliation.written (sha256 : List UInt8 → String) (r : Reconciliation)
    (previous : Option HostedTenancyProjection) : HostedTenancyProjection :=
  classifyTenancyTransitions previous
    (reconcileTenancy r.deployment.installationId r.deployment.allowlist
      (observeWithRunner sha256 r.runner r.deployment.installationId r.unixMs) r.unixMs)

inductive Phase where
  | idle
  | reading (previous : Option HostedTenancyProjection)
  | reconciled (r : Reconciliation) (p : HostedTenancyProjection)
  | persisted (r : Reconciliation) (p : HostedTenancyProjection)

structure System where
  deployment : Deployment
  file : Option (List UInt8)
  memory : Option HostedTenancyProjection
  phase : Phase
  last : Option (Reconciliation × HostedTenancyProjection)

def System.fresh (deployment : Deployment) : System := ⟨deployment,none,none,.idle,none⟩

variable {codec : ProjectionCodec} {sha256 : List UInt8 → String} {s s' : System}

/-- One step of the process. A restart can come at any moment, under another deployment, and
its read of the state file can fail. -/
inductive Step (codec : ProjectionCodec) (sha256 : List UInt8 → String) : System → System → Prop
  | start {s : System} (unixMs : ℕ) (hphase : s.phase = .idle) :
      Step codec sha256 s
        { s with
          memory := some (quarantine s.deployment.installationId s.deployment.allowlist
            "authoritative_reconciliation_in_progress" unixMs)
          phase := .reading s.memory }
  | reconcile {s : System} {previous : Option HostedTenancyProjection} (runner : Runner)
      (unixMs : ℕ) (hphase : s.phase = .reading previous) :
      Step codec sha256 s
        { s with
          phase := .reconciled ⟨s.deployment,runner,unixMs⟩
            (Reconciliation.written sha256 ⟨s.deployment,runner,unixMs⟩ previous) }
  | persist {s : System} {r : Reconciliation} {p : HostedTenancyProjection} {bytes : List UInt8}
      (answers : PersistCall → Option String) (hphase : s.phase = .reconciled r p)
      (hwrite : persistTenancy codec answers p = .ok bytes) :
      Step codec sha256 s { s with file := some bytes, phase := .persisted r p, last := some (r,p) }
  | refuse {s : System} {r : Reconciliation} {p : HostedTenancyProjection} {e : AppError Unit}
      (answers : PersistCall → Option String) (hphase : s.phase = .reconciled r p)
      (hwrite : persistTenancy codec answers p = .error e) :
      Step codec sha256 s { s with phase := .idle }
  | publish {s : System} {r : Reconciliation} {p : HostedTenancyProjection}
      (hphase : s.phase = .persisted r p) :
      Step codec sha256 s { s with memory := some p, phase := .idle }
  | restart {s : System} (deployment : Deployment) (read : Option (List UInt8)) (unixMs : ℕ)
      (hread : read = s.file ∨ read = none) :
      Step codec sha256 s
        { s with
          deployment := deployment
          memory := some (loadTenancy codec read deployment.installationId deployment.allowlist unixMs)
          phase := .idle }

inductive Reachable (codec : ProjectionCodec) (sha256 : List UInt8 → String) : System → Prop
  | fresh (deployment : Deployment) : Reachable codec sha256 (.fresh deployment)
  | step {s s' : System} (h : Reachable codec sha256 s) (hstep : Step codec sha256 s s') :
      Reachable codec sha256 s'

/-- The memory of a process in the middle of a reconciliation grants nothing. -/
def System.Closed (s : System) : Prop :=
  ∀ p repository, s.memory = some p → p.active repository = false

inductive Origin (codec : ProjectionCodec) (s : System) (p : HostedTenancyProjection) : Prop
  | closed (h : ∀ repository, p.active repository = false)
  | loaded (read : Option (List UInt8)) (unixMs : ℕ) (hread : read = s.file ∨ read = none)
      (h : p = loadTenancy codec read s.deployment.installationId s.deployment.allowlist unixMs)
  | published (r : Reconciliation) (hdeployment : r.deployment = s.deployment)
      (hlast : s.last = some (r,p))

def PhaseKept (sha256 : List UInt8 → String) (s : System) : Phase → Prop
  | .idle => True
  | .reading _ => s.Closed
  | .reconciled r p => s.Closed ∧ r.deployment = s.deployment ∧ ∃ previous, p = r.written sha256 previous
  | .persisted r p => s.Closed ∧ r.deployment = s.deployment ∧ s.last = some (r,p)

structure Inv (codec : ProjectionCodec) (sha256 : List UInt8 → String) (s : System) : Prop where
  file : ∀ bytes, s.file = some bytes → ∃ r p, s.last = some (r,p) ∧ bytes = codec.text p
  last : ∀ r p, s.last = some (r,p) → ∃ previous, p = r.written sha256 previous
  phase : PhaseKept sha256 s s.phase
  memory : ∀ p, s.memory = some p → Origin codec s p

theorem Inv.fresh (deployment : Deployment) : Inv codec sha256 (.fresh deployment) where
  file _ h := nomatch h
  last _ _ h := nomatch h
  phase := trivial
  memory _ h := nomatch h

theorem persistTenancy_eq_ok {answers : PersistCall → Option String} {p : HostedTenancyProjection}
    {bytes : List UInt8} (h : persistTenancy codec answers p = .ok bytes) : bytes = codec.text p := by
  rw [persistTenancy] at h
  simp only [Guard.unit_bind_eq_ok] at h
  obtain ⟨_,_,_,_,_,_,h⟩ := h
  cases h
  rfl

/-- Every step keeps the file the text of the projection persisted last, and the memory
closed while a reconciliation is under way. -/
theorem Inv.step (h : Inv codec sha256 s) (hstep : Step codec sha256 s s') : Inv codec sha256 s' := by
  cases hstep with
  | start unixMs hphase =>
    have hclosed : ∀ repository, (quarantine s.deployment.installationId s.deployment.allowlist
        "authoritative_reconciliation_in_progress" unixMs).active repository = false :=
      fun _ => quarantine_active
    refine ⟨h.file,h.last,?_,?_⟩
    · intro p repository hp
      cases hp
      exact hclosed repository
    · intro p hp
      cases hp
      exact .closed hclosed
  | @reconcile previous runner unixMs hphase =>
    have hkept := h.phase
    rw [hphase] at hkept
    refine ⟨h.file,h.last,⟨hkept,rfl,previous,rfl⟩,?_⟩
    intro p hp
    exact .closed fun repository => hkept p repository hp
  | @persist r p bytes answers hphase hwrite =>
    have hkept := h.phase
    rw [hphase] at hkept
    obtain ⟨hclosed,hdeployment,previous,hp⟩ := hkept
    refine ⟨?_,?_,⟨hclosed,hdeployment,rfl⟩,?_⟩
    · intro out hout
      cases hout
      exact ⟨r,p,rfl,persistTenancy_eq_ok hwrite⟩
    · intro r' p' hlast
      cases hlast
      exact ⟨previous,hp⟩
    · intro m hm
      exact .closed fun repository => hclosed m repository hm
  | @refuse r p e answers hphase hwrite =>
    have hkept := h.phase
    rw [hphase] at hkept
    refine ⟨h.file,h.last,trivial,?_⟩
    intro m hm
    exact .closed fun repository => hkept.1 m repository hm
  | @publish r p hphase =>
    have hkept := h.phase
    rw [hphase] at hkept
    refine ⟨h.file,h.last,trivial,?_⟩
    intro m hm
    cases hm
    exact .published r hkept.2.1 hkept.2.2
  | restart deployment read unixMs hread =>
    refine ⟨h.file,h.last,trivial,?_⟩
    intro m hm
    cases hm
    exact .loaded read unixMs hread rfl

theorem Reachable.inv (h : Reachable codec sha256 s) : Inv codec sha256 s := by
  induction h with
  | fresh deployment => exact .fresh deployment
  | step _ hstep ih => exact ih.step hstep

/-- What entitles a repository: it is allowlisted, the projection belongs to the current
installation, and the reconciliation persisted last read the installation completely and
found it. -/
def System.Entitled (s : System) (deployment : Deployment) (p : HostedTenancyProjection)
    (repository : String) : Prop :=
  repository ∈ deployment.allowlist ∧ p.installationId = deployment.installationId ∧
    ∃ r written total pages, s.last = some (r,written) ∧
      r.deployment.installationId = deployment.installationId ∧
      CompleteRead r.runner total pages ∧ Contains pages repository

/-- A projection that a reconciliation wrote grants what its read found. -/
theorem written_active {r : Reconciliation} {previous : Option HostedTenancyProjection}
    {repository : String} (h : (r.written sha256 previous).active repository = true) :
    repository ∈ r.deployment.allowlist ∧
      ∃ total pages, CompleteRead r.runner total pages ∧ Contains pages repository := by
  rw [Reconciliation.written,classifyTenancyTransitions_active] at h
  obtain ⟨hallowed,o,ho,hmem⟩ := reconcileTenancy_active h
  obtain ⟨out,hout,hnames⟩ := observeWithRunner_eq_ok ho
  obtain ⟨total,pages,hread,hpages⟩ := readPages_complete hout
  exact ⟨hallowed,total,pages,hread,(hpages repository).mp ((hnames repository).mp hmem)⟩

theorem written_installationId {r : Reconciliation} {previous : Option HostedTenancyProjection} :
    (r.written sha256 previous).installationId = r.deployment.installationId :=
  reconcileTenancy_installationId

/-- What the state file grants under any deployment that reads it. -/
theorem Inv.loaded (h : Inv codec sha256 s)
    (hcodec : ∀ r p, s.last = some (r,p) → codec.parse (codec.text p) = some p)
    {deployment : Deployment} {read : Option (List UInt8)} {unixMs : ℕ} {repository : String}
    (hread : read = s.file ∨ read = none)
    (hactive : (loadTenancy codec read deployment.installationId deployment.allowlist unixMs).active
      repository = true) :
    s.Entitled deployment
      (loadTenancy codec read deployment.installationId deployment.allowlist unixMs) repository := by
  obtain ⟨bytes,p,hbytes,hparse,hload,hid,hkeys⟩ := loadTenancy_active hactive
  rw [hload] at hactive ⊢
  have hfile : s.file = some bytes := by
    rcases hread with hread | hread
    · rw [← hread,hbytes]
    · rw [hread] at hbytes
      cases hbytes
  obtain ⟨r,written,hlast,htext⟩ := h.file bytes hfile
  rw [htext,hcodec r written hlast] at hparse
  cases hparse
  obtain ⟨previous,hwritten⟩ := h.last r p hlast
  have hallowed : repository ∈ deployment.allowlist := by
    rw [← ExtTreeSet.mem_toList,← hkeys]
    exact active_mem hactive
  rw [hwritten] at hactive hid
  obtain ⟨_,total,pages,hcomplete,hcontains⟩ := written_active hactive
  rw [written_installationId] at hid
  exact ⟨hallowed,
    (congrArg HostedTenancyProjection.installationId hwritten).trans (written_installationId.trans hid),
    r,p,total,pages,hlast,hid,hcomplete,hcontains⟩

theorem Inv.granted (h : Inv codec sha256 s)
    (hcodec : ∀ r p, s.last = some (r,p) → codec.parse (codec.text p) = some p)
    {p : HostedTenancyProjection} {repository : String} (hmemory : s.memory = some p)
    (hactive : p.active repository = true) : s.Entitled s.deployment p repository := by
  rcases h.memory p hmemory with hclosed | ⟨read,unixMs,hread,rfl⟩ | ⟨r,hdeployment,hlast⟩
  · rw [hclosed] at hactive
    cases hactive
  · exact h.loaded hcodec hread hactive
  · obtain ⟨previous,rfl⟩ := h.last r p hlast
    obtain ⟨hallowed,total,pages,hcomplete,hcontains⟩ := written_active hactive
    have hid : r.deployment.installationId = s.deployment.installationId := by rw [hdeployment]
    exact ⟨hdeployment ▸ hallowed,written_installationId.trans hid,r,_,total,pages,hlast,hid,
      hcomplete,hcontains⟩

/-- Hosted tenancy fails closed. The page loop ends for every answer sequence, and in every
reachable state the projection a restart under any deployment loads, and the one a running
process holds, grant only what the reconciliation persisted last is entitled to. -/
theorem hostedTenancy_failsClosed (codec : ProjectionCodec) (sha256 : List UInt8 → String) :
    (∀ runner, ∃ result, ∀ fuel, maxProviderRepositories < fuel →
      Loop.run (readPage runner) fuel 0 .first = some result) ∧
    ∀ s, Reachable codec sha256 s →
      (∀ r p, s.last = some (r,p) → codec.parse (codec.text p) = some p) →
      (∀ deployment read unixMs repository, read = s.file ∨ read = none →
        (loadTenancy codec read deployment.installationId deployment.allowlist unixMs).active
          repository = true →
        s.Entitled deployment
          (loadTenancy codec read deployment.installationId deployment.allowlist unixMs) repository) ∧
      ∀ p repository, s.memory = some p → p.active repository = true →
        s.Entitled s.deployment p repository := by
  refine ⟨?_,?_⟩
  · intro runner
    obtain ⟨result,hresult⟩ := readPages_end runner
    exact ⟨result,fun fuel hfuel => Loop.run_mono hresult hfuel⟩
  · intro s hs hcodec
    exact ⟨fun _ _ _ _ hread hactive => hs.inv.loaded hcodec hread hactive,
      fun _ _ hmemory hactive => hs.inv.granted hcodec hmemory hactive⟩

section Sample

def appRunner : Runner := fun _ _ => .page ⟨1,[⟨1,"acme/app"⟩]⟩

def appDigest : String := "37b4fdef6855db96359baea820bd854159954099d680dfb1c2c7efa16dc7c258"

def appSha256 : List UInt8 → String := fun _ => appDigest

def appDeployment : Deployment := ⟨7,ExtTreeSet.ofList ["acme/app"]⟩

def appReconciliation : Reconciliation := ⟨appDeployment,appRunner,1000⟩

def appProjection : HostedTenancyProjection :=
  appReconciliation.written appSha256 none

def appText : String :=
  "\x7b\n" ++
    "  \"schema_version\": 1,\n" ++
    "  \"installation_id\": 7,\n" ++
    "  \"provider_generation\": \"sha256:" ++ appDigest ++ "\",\n" ++
    "  \"provider_total_count\": 1,\n" ++
    "  \"observed_unix_ms\": 1000,\n" ++
    "  \"complete\": true,\n" ++
    "  \"reason\": \"authoritative_installation_reconciliation\",\n" ++
    "  \"repositories\": \x7b\n" ++
    "    \"acme/app\": \x7b\n" ++
    "      \"repository\": \"acme/app\",\n" ++
    "      \"installation_id\": 7,\n" ++
    "      \"state\": \"active\",\n" ++
    "      \"reason\": \"added_authoritative_access\",\n" ++
    "      \"provider_generation\": \"sha256:" ++ appDigest ++ "\",\n" ++
    "      \"observed_unix_ms\": 1000\n" ++
    "    \x7d\n" ++
    "  \x7d\n" ++
    "\x7d"

def appFile : List UInt8 := appText.toUTF8.toList

def appCodec : ProjectionCodec where
  text _ := appFile
  parse bytes := if bytes = appFile then some appProjection else none

def appPersisted : System where
  deployment := appDeployment
  file := some appFile
  memory := some (quarantine 7 appDeployment.allowlist "authoritative_reconciliation_in_progress" 900)
  phase := .persisted appReconciliation appProjection
  last := some (appReconciliation,appProjection)

theorem appPersisted_reachable : Reachable appCodec appSha256 appPersisted := by
  have hfresh : Reachable appCodec appSha256 (.fresh appDeployment) := .fresh appDeployment
  have hread := (hfresh.step (.start 900 rfl)).step (.reconcile appRunner 1000 rfl)
  exact hread.step (.persist (fun _ => none) rfl rfl)

theorem appProjection_active : appProjection.active "acme/app" = true := by decide +kernel

theorem appProjection_loads :
    loadTenancy appCodec (some appFile) 7 appDeployment.allowlist 2000 = appProjection := by
  have hparse : appCodec.parse appFile = some appProjection := if_pos rfl
  rw [loadTenancy,hparse]
  exact if_neg (by decide +kernel)

/-- A process that stopped after the rename finds the repository active. -/
theorem hostedTenancy_restarted :
    appPersisted.Entitled appDeployment
      (loadTenancy appCodec (some appFile) 7 appDeployment.allowlist 2000) "acme/app" := by
  have hcodec : ∀ r p, appPersisted.last = some (r,p) → appCodec.parse (appCodec.text p) = some p := by
    intro r p hlast
    cases hlast
    exact if_pos rfl
  refine ((hostedTenancy_failsClosed appCodec appSha256).2 appPersisted appPersisted_reachable hcodec).1
    appDeployment (some appFile) 2000 "acme/app" (.inl rfl) ?_
  rw [show appDeployment.installationId = 7 from rfl,appProjection_loads]
  exact appProjection_active

end Sample

end HostedTenancy
end Cara
