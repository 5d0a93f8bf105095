import Cara.Config
import Cara.Lib.Guard
import Cara.Lib.Lines
import Cara.Lib.Saturating

/-! Append-only storage for events and hook receipts: an active file of JSON lines with its
rotated archives, the writer with its recovery of a torn tail, and the bounded reader. -/
namespace Cara
namespace Journal

open Config (EventKind JournalConfig)

def maxLimit : ℕ := 10000

def maxRecordBytes : ℕ := 1024 * 1024

structure CaravanEvent (δ : Type) where
  version : ℕ
  eventId : String
  operationId : String
  kind : EventKind
  repository : RepositoryId
  caravanId : Option PrNumber := none
  prs : List PrNumber := []
  timestamp : String
  detail : δ
deriving DecidableEq

inductive HookDeliveryState where
  | succeeded
  | failed
  | timedOut
deriving DecidableEq

structure HookDelivery where
  eventId : String
  kind : EventKind
  state : HookDeliveryState
  blocking : Bool
  exitCode : Option ℤ := none
  stdoutBytes : ℕ
  stderrBytes : ℕ
deriving DecidableEq

inductive JournalRecord (δ : Type) where
  | event (version : ℕ) (event : CaravanEvent δ)
  | hookDelivery (version : ℕ) (eventId operationId : String) (kind : EventKind)
      (caravanId : Option PrNumber) (prs : List PrNumber) (timestamp : String) (delivery : HookDelivery)
deriving DecidableEq

variable {δ : Type}

namespace JournalRecord

def kind : JournalRecord δ → EventKind
  | event _ e => e.kind
  | hookDelivery _ _ _ kind .. => kind

def timestamp : JournalRecord δ → String
  | event _ e => e.timestamp
  | hookDelivery _ _ _ _ _ _ timestamp _ => timestamp

def containsPr (pr : PrNumber) : JournalRecord δ → Bool
  | event _ e => decide (e.caravanId = some pr) || decide (pr ∈ e.prs)
  | hookDelivery _ _ _ _ caravanId prs _ _ => decide (caravanId = some pr) || decide (pr ∈ prs)

def eventId : JournalRecord δ → String
  | event _ e => e.eventId
  | hookDelivery _ eventId .. => eventId

def isEvent : JournalRecord δ → Bool
  | event .. => true
  | hookDelivery .. => false

end JournalRecord

structure RecordCodec (δ : Type) where
  text : JournalRecord δ → List Char
  parse : List Char → Option (JournalRecord δ)

inductive JournalDetails where
  | recordTooLarge (bytes maxBytes : ℕ)
  | io (rollback : String) (queueAuthority : Bool)
deriving DecidableEq

abbrev JournalError := AppError JournalDetails

def ioError (code error : String) : JournalError where
  category := .executionFailure
  code := code
  message := "event journal I/O failed: " ++ error
  details := some (.io "completed GitHub mutations are not rolled back" false)

def validation (code message : String) : JournalError :=
  { category := .validation,code := code,message := message }

abbrev Bytes := List UInt8

structure Files where
  active : Option Bytes
  archive : ℕ → Option Bytes

section Read

variable (codec : RecordCodec δ)

/-- Records of the lines that are left and how many of these could not be read. A last line
without a newline that is no record ends the file. -/
def readLines (length : ℕ) : ℕ → List Bytes → Except JournalError (List (JournalRecord δ) × ℕ)
  | _,[] => .ok ([],0)
  | consumed,line::lines =>
      match Lines.decode line with
      | none => .error (ioError "journal_read_failed" "stream did not contain valid UTF-8")
      | some text =>
          let consumed := consumed + line.length
          if (Text.trim text).isEmpty then readLines length consumed lines
          else match codec.parse (Text.trimEnd text) with
            | some record => (readLines length consumed lines).map fun r => (record::r.1,r.2)
            | none =>
                if consumed = length ∧ text.getLast? ≠ some '\n' then .ok ([],0)
                else (readLines length consumed lines).map fun r => (r.1,r.2 + 1)

def readFile : Option Bytes → Except JournalError (List (JournalRecord δ) × ℕ)
  | none => .ok ([],0)
  | some bytes => readLines codec bytes.length 0 (Lines.split bytes)

def readFrom (files : Files) : ℕ → Except JournalError (List (JournalRecord δ) × ℕ)
  | 0 => readFile codec files.active
  | index + 1 => do
      let oldest ← readFile codec (files.archive (index + 1))
      let rest ← readFrom files index
      return (oldest.1 ++ rest.1,oldest.2 + rest.2)

def readAllLocked (files : Files) (maxArchives : ℕ) :
    Except JournalError (List (JournalRecord δ) × ℕ) := readFrom codec files maxArchives

end Read

section Append

def recoverTruncatedTail (file : Option Bytes) : Option Bytes :=
  file.map fun bytes =>
    if bytes.isEmpty || decide (bytes.getLast? = some Lines.newline) then bytes
    else bytes.take (Lines.terminatedLength bytes)

def renameArchive (archive : ℕ → Option Bytes) (source target : ℕ) : ℕ → Option Bytes :=
  Function.update (Function.update archive target (archive source)) source none

/-- Every archive up to this one moves up by one, the oldest first. -/
def shiftArchives (archive : ℕ → Option Bytes) : ℕ → ℕ → Option Bytes
  | 0 => archive
  | index + 1 => shiftArchives (if (archive (index + 1)).isSome then
      renameArchive archive (index + 1) (index + 2) else archive) index

def rotate (maxArchives : ℕ) (files : Files) : Files :=
  if maxArchives = 0 then { files with active := none }
  else
    let archive := Function.update files.archive maxArchives none
    { active := none
      archive := Function.update (shiftArchives archive (maxArchives - 1)) 1 files.active }

variable (codec : RecordCodec δ) (config : JournalConfig)

def payload (record : JournalRecord δ) : Bytes :=
  Lines.encode (codec.text record) ++ [Lines.newline]

def tooLarge (record : JournalRecord δ) : Bool :=
  decide ((Lines.encode (codec.text record)).length > maxRecordBytes)

def repeats (record existing : JournalRecord δ) : Bool :=
  existing.isEvent && decide (existing.eventId = record.eventId)

/-- Whether the record is an event that is already there. -/
def duplicate (files : Files) (record : JournalRecord δ) : Except JournalError Bool :=
  if record.isEvent then
    (readAllLocked codec files config.maxArchives).map fun r => r.1.any (repeats record)
  else .ok false

def activeLength (files : Files) : ℕ := (files.active.getD []).length

def rotates (files : Files) (record : JournalRecord δ) : Bool :=
  decide (activeLength files > 0) &&
    decide (Saturating.add (activeLength files) (payload codec record).length > config.maxBytes)

def recovered (files : Files) : Files := { files with active := recoverTruncatedTail files.active }

/-- An append of which these bytes of the payload reach the file. -/
def appendWriting (files : Files) (record : JournalRecord δ) (written : Bytes) :
    Except JournalError Unit × Files :=
  if tooLarge codec record then
    (.error { category := .validation
              code := "journal_record_too_large"
              message := "journal record exceeds the one-megabyte limit"
              details := some (.recordTooLarge (Lines.encode (codec.text record)).length maxRecordBytes) },
      files)
  else
    let files := recovered files
    match duplicate codec config files record with
    | .error error => (.error error,files)
    | .ok true => (.ok (),files)
    | .ok false =>
        let files := if rotates codec config files record then rotate config.maxArchives files else files
        (.ok (),{ files with active := some (files.active.getD [] ++ written) })

end Append

section Snapshot

structure LogInput where
  limit : ℕ := 100
  kind : Option String := none
  pr : Option PrNumber := none
  since : Option String := none
  upUntil : Option String := none
deriving DecidableEq

structure JournalSource where
  path : String
  present : Bool
  archives : ℕ
  unreadableRecords : ℕ
deriving DecidableEq

structure LogOutput (δ : Type) where
  records : List (JournalRecord δ)
  limit : ℕ
  matchingRecords : ℕ
  truncated : Bool
  source : JournalSource
deriving DecidableEq

def validateInput (input : LogInput) : Except JournalError Unit := do
  Guard.refuse (decide (input.limit = 0 ∨ input.limit > maxLimit))
    (validation "invalid_log_limit" ("log limit must be between 1 and " ++ toString maxLimit))
  match input.since,input.upUntil with
  | some since,some stop =>
      Guard.refuse (decide (since > stop))
        (validation "invalid_log_time_range" "--since must not be after --until")
  | _,_ => .ok ()

def eventKinds : List (String × EventKind) :=
  [("caravan_created",.caravanCreated),("pr_joined",.prJoined),("ready_pr_unqueued",.readyPrUnqueued),
    ("conflict_detected",.conflictDetected),("sync_completed",.syncCompleted),
    ("sync_failed",.syncFailed),("join_failed",.joinFailed),("admission_skipped",.admissionSkipped),
    ("eviction_failed",.evictionFailed),("head_advanced",.headAdvanced),("evicted",.evicted),
    ("split",.split),("caravans_concatenated",.caravansConcatenated),
    ("caravan_parked",.caravanParked),("caravan_unparked",.caravanUnparked),("ci_failed",.ciFailed),
    ("force_merge_attempted",.forceMergeAttempted),("force_merge_completed",.forceMergeCompleted),
    ("root_auto_merge_armed",.rootAutoMergeArmed),("root_promoted",.rootPromoted),
    ("root_merged",.rootMerged),("required_runs_missing",.requiredRunsMissing),
    ("required_runs_retriggered",.requiredRunsRetriggered)]

def parseKind (value : String) : Except JournalError EventKind :=
  match eventKinds.lookup value with
  | some kind => .ok kind
  | none => .error (validation "invalid_event_kind" ("unknown event kind " ++ "\u0060" ++ value ++ "\u0060"))

def requestedKind (input : LogInput) : Except JournalError (Option EventKind) :=
  match input.kind with
  | none => .ok none
  | some value => (parseKind value).map some

def LogInput.admits (input : LogInput) (kind : Option EventKind) (record : JournalRecord δ) : Bool :=
  kind.all (fun kind => decide (record.kind = kind)) && input.pr.all (fun pr => record.containsPr pr) &&
    input.since.all (fun since => decide (since ≤ record.timestamp)) &&
    input.upUntil.all fun stop => decide (record.timestamp ≤ stop)

/-- Archives without a gap from the newest on, counted up to a bound. -/
def countArchives (files : Files) (index : ℕ) : ℕ → ℕ
  | 0 => 0
  | bound + 1 => if (files.archive index).isSome then 1 + countArchives files (index + 1) bound else 0

def archiveCount (files : Files) : ℕ := countArchives files 1 4294967295

def bounded (path : String) (files : Files) (input : LogInput) (kind : Option EventKind)
    (records : List (JournalRecord δ)) (unreadable : ℕ) : LogOutput δ :=
  let filtered := records.filter fun record => input.admits kind record
  let start := filtered.length - input.limit
  { records := filtered.drop start
    limit := input.limit
    matchingRecords := filtered.length
    truncated := decide (0 < start)
    source := ⟨path,files.active.isSome,archiveCount files,unreadable⟩ }

variable (codec : RecordCodec δ) (config : JournalConfig)

def snapshot (path : String) (files : Files) (input : LogInput) : Except JournalError (LogOutput δ) := do
  validateInput input
  let kind ← requestedKind input
  let read ← readAllLocked codec files config.maxArchives
  return bounded path files input kind read.1 read.2

end Snapshot

end Journal
end Cara
