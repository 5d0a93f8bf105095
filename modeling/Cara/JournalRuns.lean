import Cara.Journal
import Mathlib.Data.List.TakeWhile

/-! Runs of one journal: appends that complete or are cut after any bytes of their payload,
and snapshots between them. The state keeps beside the files what should be in them: the
completed records file by file. -/
namespace Cara
namespace Journal

open Config (EventKind JournalConfig)

variable {δ : Type} {codec : RecordCodec δ} {config : JournalConfig}

/-- What the serializer does with a record: one line that starts and ends with a brace, parses
to the record and has no shorter text in front of it that parses. -/
structure Lawful (codec : RecordCodec δ) (record : JournalRecord δ) : Prop where
  parse : codec.parse (codec.text record) = some record
  line : '\n' ∉ codec.text record
  opened : ∃ c rest,codec.text record = c::rest ∧ Text.isWhitespace c = false
  closed : Text.trimEnd (codec.text record) = codec.text record
  shorter : ∀ text,text <+: codec.text record → text ≠ codec.text record → codec.parse text = none

section Lines

variable {record : JournalRecord δ} {text : List Char}

theorem trimEnd_prefix (text : List Char) : Text.trimEnd text <+: text := by
  unfold Text.trimEnd
  rw [← List.reverse_suffix,List.reverse_reverse]
  exact List.dropWhile_suffix _

theorem trimEnd_newline (text : List Char) : Text.trimEnd (text ++ ['\n']) = Text.trimEnd text := by
  unfold Text.trimEnd
  rw [List.reverse_append]
  rfl

theorem not_blank {c : Char} {rest : List Char} (hc : Text.isWhitespace c = false) :
    (Text.trim (c::rest)).isEmpty = false := by
  have hfirst : (c::rest).dropWhile Text.isWhitespace = c::rest :=
    List.dropWhile_cons_of_neg (by rw [hc]; exact Bool.false_ne_true)
  unfold Text.trim
  rw [hfirst,List.isEmpty_eq_false_iff]
  intro h
  rw [List.reverse_eq_nil_iff,List.dropWhile_eq_nil_iff] at h
  have hws := h c (by simp)
  rw [hc] at hws
  cases hws

theorem Lawful.newline (h : Lawful codec record) :
    Lines.newline ∉ Lines.encode (codec.text record) := Lines.newline_not_mem_encode h.line

def fileOf (codec : RecordCodec δ) (records : List (JournalRecord δ)) : Bytes :=
  records.flatMap (payload codec)

theorem readLines_record (h : Lawful codec record) (length consumed : ℕ) (lines : List Bytes) :
    readLines codec length consumed (payload codec record::lines) =
      (readLines codec length (consumed + (payload codec record).length) lines).map
        fun r => (record::r.1,r.2) := by
  have hdecode : Lines.decode (payload codec record) = some (codec.text record ++ ['\n']) := by
    have hpayload : payload codec record = Lines.encode (codec.text record ++ ['\n']) := by
      rw [Lines.encode_append]
      rfl
    rw [hpayload,Lines.decode_encode]
  obtain ⟨c,rest,htext,hc⟩ := h.opened
  have hblank : (Text.trim (codec.text record ++ ['\n'])).isEmpty = false := by
    rw [htext,List.cons_append]
    exact not_blank hc
  rw [readLines,hdecode]
  simp only [hblank,Bool.false_eq_true,↓reduceIte,trimEnd_newline,h.closed,h.parse]

theorem readLines_records {records : List (JournalRecord δ)} (h : ∀ r ∈ records,Lawful codec r)
    (length consumed : ℕ) (tail : Bytes) :
    readLines codec length consumed (Lines.split (fileOf codec records ++ tail)) =
      (readLines codec length (consumed + (fileOf codec records).length) (Lines.split tail)).map
        fun r => (records ++ r.1,r.2) := by
  induction records generalizing consumed with
  | nil =>
    show readLines codec length consumed (Lines.split tail) =
      (readLines codec length consumed (Lines.split tail)).map fun r => ([] ++ r.1,r.2)
    cases readLines codec length consumed (Lines.split tail) <;> rfl
  | cons record records ih =>
    have hrecord := h record List.mem_cons_self
    have hfile : fileOf codec (record::records) ++ tail =
        Lines.encode (codec.text record) ++ Lines.newline::(fileOf codec records ++ tail) := by
      unfold fileOf
      rw [List.flatMap_cons,payload]
      simp
    have hlength : consumed + (fileOf codec (record::records)).length =
        consumed + (payload codec record).length + (fileOf codec records).length := by
      unfold fileOf
      rw [List.flatMap_cons,List.length_append]
      omega
    rw [hfile,Lines.split_line hrecord.newline,hlength]
    show readLines codec length consumed (payload codec record::_) = _
    rw [readLines_record hrecord,ih fun r hr => h r (List.mem_cons_of_mem _ hr)]
    cases readLines codec length
      (consumed + (payload codec record).length + (fileOf codec records).length) (Lines.split tail) <;> rfl

theorem readFile_complete {records : List (JournalRecord δ)} (h : ∀ r ∈ records,Lawful codec r) :
    readFile codec (some (fileOf codec records)) = .ok (records,0) := by
  have hread := readLines_records h (fileOf codec records).length 0 []
  rw [List.append_nil] at hread
  show readLines codec _ _ _ = _
  rw [hread]
  show Except.ok (records ++ [],0) = _
  rw [List.append_nil]

end Lines

/-- How an append was cut: in the middle of a character, right before its newline, or between
two characters of its text. -/
inductive Cut (codec : RecordCodec δ) (record : JournalRecord δ) (written : Bytes) : Prop
  | inside : Lines.decode written = none → Cut codec record written
  | whole : written = Lines.encode (codec.text record) → Cut codec record written
  | clean {text : List Char} : text <+: codec.text record → text ≠ codec.text record →
      written = Lines.encode text → Cut codec record written

/-- A cut between two characters of the text, or before all of them. -/
def CleanCut (codec : RecordCodec δ) (record : JournalRecord δ) (written : Bytes) : Prop :=
  ∃ text,text <+: codec.text record ∧ text ≠ codec.text record ∧ written = Lines.encode text

structure Torn (codec : RecordCodec δ) (record : JournalRecord δ) (written : Bytes) : Prop where
  lawful : Lawful codec record
  part : written <+: payload codec record
  cut : written ≠ payload codec record

section Torn

variable {record : JournalRecord δ} {written : Bytes}

theorem Torn.text (h : Torn codec record written) :
    written <+: Lines.encode (codec.text record) := by
  have hpart := h.part
  unfold payload at hpart
  rcases List.prefix_concat_iff.mp hpart with hall | hpart
  · exact absurd hall h.cut
  · exact hpart

theorem Torn.newline (h : Torn codec record written) : Lines.newline ∉ written := by
  intro hmem
  exact h.lawful.newline (h.text.subset hmem)

theorem Torn.cases (h : Torn codec record written) : Cut codec record written := by
  cases hdecode : Lines.decode written with
  | none => exact .inside hdecode
  | some text =>
    have hwritten := Lines.encode_of_decode hdecode
    have hpart : text <+: codec.text record := Lines.prefix_of_encode (hwritten ▸ h.text)
    by_cases hall : text = codec.text record
    · exact .whole (by rw [← hall,hwritten])
    · exact .clean hpart hall hwritten.symm

theorem readLines_inside {length consumed : ℕ} (h : Torn codec record written)
    (hdecode : Lines.decode written = none) :
    readLines codec length consumed (Lines.split written) =
      .error (ioError "journal_read_failed" "stream did not contain valid UTF-8") := by
  have hne : written ≠ [] := by
    intro hnil
    rw [hnil] at hdecode
    exact absurd (Lines.decode_encode []) (by rw [Lines.encode_nil,hdecode]; exact fun h => nomatch h)
  rw [Lines.split_tail h.newline hne,readLines,hdecode]

theorem readLines_whole {length consumed : ℕ} (h : Torn codec record written)
    (hwritten : written = Lines.encode (codec.text record)) :
    readLines codec length consumed (Lines.split written) = .ok ([record],0) := by
  obtain ⟨c,rest,htext,hc⟩ := h.lawful.opened
  have hne : written ≠ [] := by
    intro hnil
    rw [hnil] at hwritten
    have hempty := Lines.encode_eq_nil hwritten.symm
    rw [htext] at hempty
    cases hempty
  have hblank : (Text.trim (codec.text record)).isEmpty = false := by
    rw [htext]
    exact not_blank hc
  rw [Lines.split_tail h.newline hne,readLines,hwritten,Lines.decode_encode]
  simp only [hblank,Bool.false_eq_true,↓reduceIte,h.lawful.closed,h.lawful.parse]
  rfl

theorem readLines_clean {length consumed : ℕ} (h : Torn codec record written)
    (hclean : CleanCut codec record written) (hlength : length = consumed + written.length) :
    readLines codec length consumed (Lines.split written) = .ok ([],0) := by
  obtain ⟨text,hpart,hshort,hwritten⟩ := hclean
  cases text with
  | nil =>
    rw [hwritten]
    rfl
  | cons d text =>
    obtain ⟨c,rest,htext,hc⟩ := h.lawful.opened
    have hd : Text.isWhitespace d = false := by
      rw [htext,List.cons_prefix_cons] at hpart
      rw [hpart.1]
      exact hc
    have hne : written ≠ [] := by
      intro hnil
      rw [hnil] at hwritten
      cases Lines.encode_eq_nil hwritten.symm
    have hparse : codec.parse (Text.trimEnd (d::text)) = none := by
      have hless := trimEnd_prefix (d::text)
      apply h.lawful.shorter _ (hless.trans hpart)
      intro hall
      exact hshort (hpart.eq_of_length_le (hall ▸ hless.length_le))
    have hline : (d::text).getLast? ≠ some '\n' := by
      intro hlast
      exact h.lawful.line (hpart.subset (List.mem_of_getLast? hlast))
    have hdecode : Lines.decode written = some (d::text) := by rw [hwritten,Lines.decode_encode]
    rw [Lines.split_tail h.newline hne,readLines,hdecode]
    simp only [not_blank hd,Bool.false_eq_true,↓reduceIte,hparse]
    rw [if_pos ⟨hlength.symm,hline⟩]

end Torn

section Rotation

variable {archive : ℕ → Option Bytes}

theorem shiftArchives_apply (index : ℕ) (h : archive (index + 1) = none) (place : ℕ) :
    shiftArchives archive index place =
      if 2 ≤ place ∧ place ≤ index + 1 then archive (place - 1)
      else if place = 1 ∧ 1 ≤ index then none else archive place := by
  induction index generalizing archive with
  | zero =>
    rw [if_neg (by omega),if_neg (by omega)]
    rfl
  | succ index ih =>
    -- the topmost archive moves into the vacated place
    have hmoved : ∀ k,(if (archive (index + 1)).isSome then
        renameArchive archive (index + 1) (index + 2) else archive) k =
        if k = index + 2 then archive (index + 1) else if k = index + 1 then none else archive k := by
      intro k
      by_cases hsome : (archive (index + 1)).isSome
      · rw [if_pos hsome]
        unfold renameArchive
        by_cases hk : k = index + 1
        · rw [hk,Function.update_self,if_neg (by omega),if_pos rfl]
        · rw [Function.update_of_ne hk,if_neg hk]
          by_cases hk' : k = index + 2
          · rw [hk',Function.update_self,if_pos rfl]
          · rw [Function.update_of_ne hk',if_neg hk']
      · have hnone : archive (index + 1) = none := Option.not_isSome_iff_eq_none.mp hsome
        rw [if_neg hsome]
        by_cases hk : k = index + 2
        · rw [if_pos hk,hk,h,hnone]
        · rw [if_neg hk]
          by_cases hk' : k = index + 1
          · rw [if_pos hk',hk',hnone]
          · rw [if_neg hk']
    rw [shiftArchives,ih (by rw [hmoved,if_neg (by omega),if_pos rfl])]
    simp only [hmoved]
    split_ifs <;> first | rfl | omega | exact congrArg archive (by omega)

theorem rotate_archive {maxArchives : ℕ} (files : Files) {place : ℕ} (h : place < maxArchives) :
    (rotate maxArchives files).archive (place + 1) =
      if place = 0 then files.active else files.archive place := by
  unfold rotate
  rw [if_neg (by omega)]
  show Function.update (shiftArchives _ (maxArchives - 1)) 1 files.active (place + 1) = _
  have hvacated : Function.update files.archive maxArchives none (maxArchives - 1 + 1) = none := by
    rw [Nat.sub_add_cancel (by omega),Function.update_self]
  cases place with
  | zero => rw [Function.update_self,if_pos rfl]
  | succ place =>
    rw [Function.update_of_ne (by omega),shiftArchives_apply _ hvacated,if_pos (by omega),
      if_neg (by omega),Function.update_of_ne (by omega)]
    rfl

theorem rotate_active (maxArchives : ℕ) (files : Files) : (rotate maxArchives files).active = none := by
  unfold rotate
  split <;> rfl

end Rotation

/-- A journal with what it should hold: the completed records of the active file and of the
archives, the newest first, those of the files that rotation removed, and the append that was
cut last, until the next one. -/
structure State (δ : Type) where
  files : Files
  current : List (JournalRecord δ)
  archives : List (List (JournalRecord δ))
  dropped : List (List (JournalRecord δ))
  cut : Option (JournalRecord δ × Bytes)

namespace State

def empty : State δ := ⟨⟨none,fun _ => none⟩,[],[],[],none⟩

/-- The completed records that no rotation removed, in the order of their appends. -/
def retained (s : State δ) : List (JournalRecord δ) := s.archives.reverse.flatten ++ s.current

def completed (s : State δ) : List (JournalRecord δ) := s.dropped.reverse.flatten ++ s.retained

/-- The active file becomes the newest archive, and those beyond the bound are removed. -/
def roll (config : JournalConfig) (s : State δ) : State δ :=
  { s with current := []
           archives := (s.current::s.archives).take config.maxArchives
           dropped := (s.current::s.archives).drop config.maxArchives ++ s.dropped }

/-- Whether an event of this identity is among the retained records. -/
def known (s : State δ) (record : JournalRecord δ) : Bool :=
  record.isEvent && s.retained.any (repeats record)

def append (codec : RecordCodec δ) (config : JournalConfig) (s : State δ) (record : JournalRecord δ)
    (written : Bytes) : State δ :=
  let files := (appendWriting codec config s.files record written).2
  if tooLarge codec record then { s with files := files }
  else if s.known record then { s with files := files,cut := none }
  else
    let rolled := if rotates codec config (recovered s.files) record then s.roll config else s
    if written = payload codec record then
      { rolled with files := files,current := rolled.current ++ [record],cut := none }
    else { rolled with files := files,cut := some (record,written) }

end State

/-- The files hold the completed records, and behind them what a cut append left. -/
structure Inv (codec : RecordCodec δ) (config : JournalConfig) (s : State δ) : Prop where
  lawful : ∀ record ∈ s.retained,Lawful codec record
  torn : ∀ record written,s.cut = some (record,written) → Torn codec record written
  active : s.files.active.getD [] =
    fileOf codec s.current ++ (s.cut.elim [] fun cut => cut.2)
  archive : ∀ place < config.maxArchives,
    s.files.archive (place + 1) = s.archives[place]?.map (fileOf codec)
  length : s.archives.length ≤ config.maxArchives
  distinct : ((s.retained.filter (·.isEvent)).map (·.eventId)).Nodup

section Reading

variable {s : State δ}

/-- What the reader returns beyond the completed records, from what was cut. -/
def tailRead (codec : RecordCodec δ) (s : State δ) : Except JournalError (List (JournalRecord δ) × ℕ) :=
  readLines codec (s.files.active.getD []).length (fileOf codec s.current).length
    (Lines.split (s.cut.elim [] fun cut => cut.2))

theorem Inv.read_active (h : Inv codec config s) :
    readFile codec s.files.active = (tailRead codec s).map fun r => (s.current ++ r.1,r.2) := by
  have hlawful : ∀ r ∈ s.current,Lawful codec r := fun r hr =>
    h.lawful r (List.mem_append_right _ hr)
  have hread := readLines_records hlawful (s.files.active.getD []).length 0
    (s.cut.elim [] fun cut => cut.2)
  rw [← h.active,Nat.zero_add] at hread
  cases hactive : s.files.active with
  | none =>
    have hnil : fileOf codec s.current ++ (s.cut.elim [] fun cut => cut.2) = [] := by
      rw [← h.active,hactive]
      rfl
    have hempty := List.append_eq_nil_iff.mp hnil
    have hcurrent : s.current = [] := by
      cases hs : s.current with
      | nil => rfl
      | cons record rest =>
        rw [hs] at hempty
        simp [fileOf,payload] at hempty
    unfold tailRead
    rw [hempty.2,hcurrent]
    rfl
  | some bytes =>
    rw [hactive] at hread
    show readLines codec bytes.length 0 (Lines.split bytes) = _
    unfold tailRead
    rw [hactive]
    exact hread

theorem Inv.read_from (h : Inv codec config s) {index : ℕ} (hindex : index ≤ config.maxArchives) :
    readFrom codec s.files index = (tailRead codec s).map fun r =>
      ((s.archives.take index).reverse.flatten ++ s.current ++ r.1,r.2) := by
  induction index with
  | zero =>
    show readFile codec s.files.active = _
    rw [h.read_active]
    rfl
  | succ index ih =>
    have hfile := h.archive index (by omega)
    have holdest : readFile codec (s.files.archive (index + 1)) = .ok (s.archives[index]?.getD [],0) := by
      rw [hfile]
      cases hplace : s.archives[index]? with
      | none => rfl
      | some records =>
        apply readFile_complete
        intro r hr
        apply h.lawful
        apply List.mem_append_left
        exact List.mem_flatten.mpr ⟨records,List.mem_reverse.mpr (List.mem_of_getElem? hplace),hr⟩
    have htake : (s.archives.take (index + 1)).reverse.flatten =
        s.archives[index]?.getD [] ++ (s.archives.take index).reverse.flatten := by
      rw [List.take_add_one,List.reverse_append,List.flatten_append]
      cases s.archives[index]? with
      | none => rfl
      | some records => simp
    rw [readFrom,holdest,ih (by omega),htake]
    cases tailRead codec s with
    | error e => rfl
    | ok r =>
      show Except.ok (_ ++ (_ ++ _ ++ _),0 + r.2) = Except.ok _
      rw [Nat.zero_add,List.append_assoc (s.archives[index]?.getD []),List.append_assoc]
      simp

theorem Inv.read_all (h : Inv codec config s) :
    readAllLocked codec s.files config.maxArchives =
      (tailRead codec s).map fun r => (s.retained ++ r.1,r.2) := by
  unfold readAllLocked
  rw [h.read_from le_rfl,List.take_of_length_le h.length]
  rfl

theorem tailRead_none (h : s.cut = none) : tailRead codec s = .ok ([],0) := by
  unfold tailRead
  rw [h]
  rfl

variable {record : JournalRecord δ} {written : Bytes}

theorem Inv.tailRead_inside (h : Inv codec config s) (hcut : s.cut = some (record,written))
    (hinside : Lines.decode written = none) :
    tailRead codec s = .error (ioError "journal_read_failed" "stream did not contain valid UTF-8") := by
  unfold tailRead
  rw [hcut]
  exact readLines_inside (h.torn record written hcut) hinside

theorem Inv.tailRead_whole (h : Inv codec config s) (hcut : s.cut = some (record,written))
    (hwhole : written = Lines.encode (codec.text record)) : tailRead codec s = .ok ([record],0) := by
  unfold tailRead
  rw [hcut]
  exact readLines_whole (h.torn record written hcut) hwhole

theorem Inv.tailRead_clean (h : Inv codec config s) (hcut : s.cut = some (record,written))
    (hclean : CleanCut codec record written) : tailRead codec s = .ok ([],0) := by
  have hactive := h.active
  rw [hcut] at hactive
  unfold tailRead
  rw [hcut,hactive]
  exact readLines_clean (h.torn record written hcut) hclean (List.length_append ..)

end Reading

section Steps

variable {s : State δ} {record : JournalRecord δ} {written : Bytes}

def State.repaired (s : State δ) : State δ := { s with files := recovered s.files,cut := none }

theorem fileOf_ends (records : List (JournalRecord δ)) :
    fileOf codec records = [] ∨ (fileOf codec records).getLast? = some Lines.newline := by
  rcases List.eq_nil_or_concat records with rfl | ⟨front,last,rfl⟩
  · exact .inl rfl
  · right
    simp [fileOf,payload]

theorem recoverTruncatedTail_append {body tail : Bytes}
    (hbody : body = [] ∨ body.getLast? = some Lines.newline) (htail : Lines.newline ∉ tail) :
    recoverTruncatedTail (some (body ++ tail)) = some body := by
  unfold recoverTruncatedTail
  rw [Option.map_some,Lines.terminatedLength_append htail,Lines.terminatedLength_body hbody,
    List.take_left,Option.some.injEq]
  split
  · next hended =>
    cases hlast : tail.getLast? with
    | none =>
      rw [List.getLast?_eq_none_iff.mp hlast,List.append_nil]
    | some b =>
      rw [List.getLast?_append,hlast] at hended
      have hne : (body ++ tail).isEmpty = false := by
        rw [List.isEmpty_eq_false_iff]
        intro hnil
        rw [(List.append_eq_nil_iff.mp hnil).2] at hlast
        cases hlast
      rw [hne,Bool.false_or,decide_eq_true_eq] at hended
      have hb : b = Lines.newline := Option.some.inj hended
      rw [hb] at hlast
      exact absurd (List.mem_of_getLast? hlast) htail
  · rfl

theorem Inv.tail_newline (h : Inv codec config s) :
    Lines.newline ∉ s.cut.elim [] fun cut => cut.2 := by
  cases hcut : s.cut with
  | none => exact List.not_mem_nil
  | some cut => exact (h.torn cut.1 cut.2 hcut).newline

theorem Inv.repaired (h : Inv codec config s) : Inv codec config s.repaired where
  lawful := h.lawful
  torn _ _ hcut := nomatch hcut
  active := by
    show (recoverTruncatedTail s.files.active).getD [] = fileOf codec s.current ++ []
    have hactive := h.active
    rw [List.append_nil]
    cases hfile : s.files.active with
    | none =>
      rw [hfile] at hactive
      exact (List.append_eq_nil_iff.mp hactive.symm).1.symm
    | some bytes =>
      rw [hfile,Option.getD_some] at hactive
      rw [hactive,recoverTruncatedTail_append (fileOf_ends s.current) h.tail_newline]
      rfl
  archive := h.archive
  length := h.length
  distinct := h.distinct

theorem Inv.duplicate (h : Inv codec config s) :
    duplicate codec config (recovered s.files) record = .ok (s.known record) := by
  unfold Journal.duplicate State.known
  cases record.isEvent with
  | false => rfl
  | true =>
    have hread := h.repaired.read_all
    rw [tailRead_none rfl] at hread
    rw [if_pos rfl]
    show Except.map _ (readAllLocked codec s.repaired.files config.maxArchives) = _
    rw [hread]
    show Except.ok ((s.retained ++ []).any (repeats record)) = _
    rw [List.append_nil]
    rfl

def State.writable (codec : RecordCodec δ) (config : JournalConfig) (s : State δ)
    (record : JournalRecord δ) : State δ :=
  if rotates codec config (recovered s.files) record then
    { s.repaired.roll config with files := rotate config.maxArchives (recovered s.files) }
  else s.repaired

theorem roll_flatten (files : List (List (JournalRecord δ))) (n : ℕ) :
    files.reverse.flatten = (files.drop n).reverse.flatten ++ (files.take n).reverse.flatten := by
  rw [← List.flatten_append,← List.reverse_append,List.take_append_drop]

theorem roll_retained : s.retained =
    ((s.current::s.archives).drop config.maxArchives).reverse.flatten ++ (s.roll config).retained := by
  have hsplit := roll_flatten (s.current::s.archives) config.maxArchives
  rw [List.reverse_cons,List.flatten_append] at hsplit
  show s.archives.reverse.flatten ++ s.current =
    _ ++ (((s.current::s.archives).take config.maxArchives).reverse.flatten ++ [])
  rw [List.append_nil,← hsplit]
  simp

theorem writable_retained (record : JournalRecord δ) :
    (s.writable codec config record).retained <:+ s.retained := by
  unfold State.writable
  split
  · exact ⟨_,(@roll_retained _ config s.repaired).symm⟩
  · exact List.suffix_rfl

theorem writable_cut (record : JournalRecord δ) : (s.writable codec config record).cut = none := by
  unfold State.writable
  split <;> rfl

theorem Inv.writable (h : Inv codec config s) (record : JournalRecord δ) :
    Inv codec config (s.writable codec config record) := by
  have hsuffix : (s.writable codec config record).retained <:+ s.retained := writable_retained record
  unfold State.writable at hsuffix ⊢
  split
  · next hrotates =>
    rw [if_pos hrotates] at hsuffix
    refine ⟨?_,?_,?_,?_,?_,?_⟩
    · exact fun r hr => h.lawful r (hsuffix.subset hr)
    · exact fun _ _ hcut => nomatch hcut
    · show (rotate config.maxArchives (recovered s.files)).active.getD [] = _
      rw [rotate_active]
      rfl
    · intro place hplace
      show (rotate config.maxArchives (recovered s.files)).archive (place + 1) = _
      rw [rotate_archive _ hplace]
      show _ = ((s.current::s.archives).take config.maxArchives)[place]?.map (fileOf codec)
      rw [List.getElem?_take_of_lt hplace]
      cases place with
      | zero =>
        have hactive : (recovered s.files).active.getD [] = fileOf codec s.current :=
          h.repaired.active.trans (List.append_nil _)
        show (recovered s.files).active = some (fileOf codec s.current)
        cases hfile : (recovered s.files).active with
        | none =>
          -- a file that is rotated is there and not empty
          simp [rotates,activeLength,hfile] at hrotates
        | some bytes =>
          rw [hfile] at hactive
          exact congrArg some hactive
      | succ place =>
        rw [if_neg (Nat.succ_ne_zero place),List.getElem?_cons_succ]
        exact h.archive place (by omega)
    · exact List.length_take_le ..
    · exact h.distinct.sublist (List.Sublist.map _ (hsuffix.sublist.filter _))
  · exact h.repaired

theorem Inv.append_files (h : Inv codec config s) (hsize : tooLarge codec record = false)
    (hknown : s.known record = false) : (appendWriting codec config s.files record written).2 =
      { (s.writable codec config record).files with
        active := some ((s.writable codec config record).files.active.getD [] ++ written) } := by
  unfold appendWriting State.writable
  simp only [hsize,Bool.false_eq_true,↓reduceIte,h.duplicate,hknown]
  split <;> rfl

theorem Inv.append_known (h : Inv codec config s) (hsize : tooLarge codec record = false)
    (hknown : s.known record = true) :
    (appendWriting codec config s.files record written).2 = recovered s.files := by
  unfold appendWriting
  simp only [hsize,Bool.false_eq_true,↓reduceIte,h.duplicate,hknown]

theorem append_tooLarge (hsize : tooLarge codec record = true) :
    (appendWriting codec config s.files record written).2 = s.files := by
  unfold appendWriting
  rw [if_pos hsize]

theorem Inv.append_eq (h : Inv codec config s) (hsize : tooLarge codec record = false)
    (hknown : s.known record = false) : s.append codec config record written =
      let w := s.writable codec config record
      let files := { w.files with active := some (w.files.active.getD [] ++ written) }
      if written = payload codec record then
        { w with files := files,current := w.current ++ [record] }
      else { w with files := files,cut := some (record,written) } := by
  unfold State.append
  simp only [hsize,hknown,Bool.false_eq_true,↓reduceIte,h.append_files hsize hknown]
  unfold State.writable
  split <;> split <;> rfl

theorem Inv.append (h : Inv codec config s) (hlawful : Lawful codec record)
    (hpart : written <+: payload codec record) : Inv codec config (s.append codec config record written) := by
  by_cases hsize : tooLarge codec record
  · have hsame : s.append codec config record written = s := by
      unfold State.append
      rw [append_tooLarge hsize,if_pos hsize]
    rw [hsame]
    exact h
  rw [Bool.not_eq_true] at hsize
  by_cases hknown : s.known record
  · have hsame : s.append codec config record written = s.repaired := by
      unfold State.append
      simp only [hsize,hknown,Bool.false_eq_true,↓reduceIte,h.append_known hsize hknown]
      rfl
    rw [hsame]
    exact h.repaired
  rw [Bool.not_eq_true] at hknown
  have hw := h.writable record
  have hcut : (s.writable codec config record).cut = none := writable_cut record
  have hfresh : ∀ r ∈ (s.writable codec config record).retained,record.isEvent = true →
      repeats record r = false := by
    intro r hr hevent
    unfold State.known at hknown
    rw [hevent,Bool.true_and,List.any_eq_false] at hknown
    exact Bool.not_eq_true _ ▸ hknown r ((writable_retained record).subset hr)
  rw [h.append_eq hsize hknown]
  generalize s.writable codec config record = w at hw hcut hfresh
  have hactive : w.files.active.getD [] = fileOf codec w.current := by
    rw [hw.active,hcut]
    exact List.append_nil _
  dsimp only
  split
  · next hall =>
    have hretained (files : Files) : State.retained { w with files := files,current := w.current ++ [record] } =
        w.retained ++ [record] := (List.append_assoc ..).symm
    refine ⟨?_,?_,?_,hw.archive,hw.length,?_⟩
    · intro r hr
      rw [hretained] at hr
      rcases List.mem_append.mp hr with hr | hr
      · exact hw.lawful r hr
      · rw [List.mem_singleton.mp hr]
        exact hlawful
    · exact hw.torn
    · show w.files.active.getD [] ++ written = fileOf codec (w.current ++ [record]) ++ w.cut.elim [] _
      rw [hcut,hactive,hall]
      simp [fileOf]
    · rw [hretained,List.filter_append,List.map_append,List.nodup_append]
      refine ⟨hw.distinct,?_,?_⟩
      · cases hevent : record.isEvent with
        | false => simp [hevent]
        | true => simp [hevent]
      · intro a ha b hb hab
        obtain ⟨r,hr,hra⟩ := List.mem_map.mp ha
        obtain ⟨r',hr',hrb⟩ := List.mem_map.mp hb
        obtain ⟨hr,hrevent⟩ := List.mem_filter.mp hr
        obtain ⟨hr',hevent⟩ := List.mem_filter.mp hr'
        rw [List.mem_singleton] at hr'
        rw [hr'] at hevent hrb
        have hno := hfresh r hr hevent
        unfold repeats at hno
        rw [hrevent,Bool.true_and,decide_eq_false_iff_not] at hno
        exact hno (hra.trans (hab.trans hrb.symm))
  · next hcutoff =>
    refine ⟨hw.lawful,?_,?_,hw.archive,hw.length,hw.distinct⟩
    · intro r p hp
      rw [Option.some.injEq,Prod.mk.injEq] at hp
      rw [← hp.1,← hp.2]
      exact ⟨hlawful,hpart,hcutoff⟩
    · show w.files.active.getD [] ++ written = fileOf codec w.current ++ written
      rw [hactive]

theorem empty_inv : Inv codec config (State.empty : State δ) := by
  refine ⟨?_,?_,rfl,?_,Nat.zero_le _,List.nodup_nil⟩
  · exact fun _ h => nomatch h
  · exact fun _ _ h => nomatch h
  · exact fun _ _ => rfl

/-- Completed records stay, and files are only removed as a whole, the oldest first. -/
structure Grows (s s' : State δ) : Prop where
  completed : s.completed <+: s'.completed
  dropped : s.dropped <:+ s'.dropped

theorem Grows.refl (s : State δ) : Grows s s := ⟨List.prefix_rfl,List.suffix_rfl⟩

theorem Grows.trans {s s' t : State δ} (h : Grows s s') (h' : Grows s' t) : Grows s t :=
  ⟨h.completed.trans h'.completed,h.dropped.trans h'.dropped⟩

theorem roll_completed : (s.roll config).completed = s.completed := by
  unfold State.completed
  rw [@roll_retained _ config s]
  show (((s.current::s.archives).drop config.maxArchives ++ s.dropped).reverse).flatten ++ _ = _
  rw [List.reverse_append,List.flatten_append,List.append_assoc]

theorem append_grows : Grows s (s.append codec config record written) := by
  unfold State.append
  split
  · exact ⟨List.prefix_rfl,List.suffix_rfl⟩
  split
  · exact ⟨List.prefix_rfl,List.suffix_rfl⟩
  have hroll : Grows s (if rotates codec config (recovered s.files) record then s.roll config else s) := by
    split
    · refine ⟨?_,?_⟩
      · rw [roll_completed]
      · exact List.suffix_append ..
    · exact .refl s
  generalize (if rotates codec config (recovered s.files) record then s.roll config else s) = w at hroll
  dsimp only
  split
  · refine hroll.trans ⟨?_,List.suffix_rfl⟩
    refine ⟨[record],?_⟩
    unfold State.completed State.retained
    simp
  · exact hroll.trans ⟨List.prefix_rfl,List.suffix_rfl⟩

/-- A record that is no longer retained was in a file that was removed meanwhile. -/
theorem Grows.removed {s s' : State δ} (h : Grows s s') {record : JournalRecord δ}
    (hr : record ∈ s.retained) (hr' : record ∉ s'.retained) :
    ∃ removed,s'.dropped = removed ++ s.dropped ∧ ∃ file ∈ removed,record ∈ file := by
  obtain ⟨removed,hremoved⟩ := h.dropped
  obtain ⟨more,hmore⟩ := h.completed
  refine ⟨removed,hremoved.symm,?_⟩
  unfold State.completed at hmore
  rw [← hremoved,List.reverse_append,List.flatten_append,List.append_assoc,List.append_assoc] at hmore
  have hrest := List.append_cancel_left hmore
  have hmem : record ∈ removed.reverse.flatten ++ s'.retained := by
    rw [← hrest]
    exact List.mem_append_left _ hr
  rcases List.mem_append.mp hmem with hmem | hmem
  · obtain ⟨file,hfile,hin⟩ := List.mem_flatten.mp hmem
    exact ⟨file,List.mem_reverse.mp hfile,hin⟩
  · exact absurd hmem hr'

end Steps

inductive Op (δ : Type) where
  | append (record : JournalRecord δ) (written : Bytes)
  | snapshot (input : LogInput)

inductive Run (codec : RecordCodec δ) (config : JournalConfig) :
    State δ → List (State δ × Op δ) → State δ → Prop
  | nil (s : State δ) : Run codec config s [] s
  | append {s t : State δ} {record : JournalRecord δ} {written : Bytes}
      {trace : List (State δ × Op δ)} : Lawful codec record → written <+: payload codec record →
      Run codec config (s.append codec config record written) trace t →
      Run codec config s ((s,.append record written)::trace) t
  | snapshot {s t : State δ} (input : LogInput) {trace : List (State δ × Op δ)} :
      Run codec config s trace t → Run codec config s ((s,.snapshot input)::trace) t

structure Accepted (input : LogInput) (kind : Option EventKind) : Prop where
  valid : validateInput input = .ok ()
  requested : requestedKind input = .ok kind

structure Unfiltered (input : LogInput) : Prop where
  kind : input.kind = none
  pr : input.pr = none
  since : input.since = none
  upUntil : input.upUntil = none

/-- Snapshots answer from exactly the completed and retained records, no event twice, and what
one of them returned is missing from a later complete one only with its whole file. -/
structure Durable (codec : RecordCodec δ) (config : JournalConfig) (path : String)
    (trace : List (State δ × Op δ)) : Prop where
  exact : ∀ s input kind,(s,.snapshot input) ∈ trace → Accepted input kind →
    snapshot codec config path s.files input = .ok (bounded path s.files input kind s.retained 0) ∧
      ((s.retained.filter (·.isEvent)).map (·.eventId)).Nodup
  kept : ∀ before s₁ input₁ between s₂ input₂ after out₁ out₂,
    trace = before ++ (s₁,.snapshot input₁)::(between ++ (s₂,.snapshot input₂)::after) →
    snapshot codec config path s₁.files input₁ = .ok out₁ →
    snapshot codec config path s₂.files input₂ = .ok out₂ → Unfiltered input₂ →
    out₂.truncated = false → ∀ record ∈ out₁.records,record ∉ out₂.records →
    ∃ removed,s₂.dropped = removed ++ s₁.dropped ∧ ∃ file ∈ removed,record ∈ file

/-- The last append was not cut, or it was cut between two characters of its text, or right
before its newline with filters that exclude its record. -/
def Harmless (codec : RecordCodec δ) (s : State δ) (input : LogInput) (kind : Option EventKind) : Prop :=
  ∀ record written,s.cut = some (record,written) → CleanCut codec record written ∨
    (written = Lines.encode (codec.text record) ∧ input.admits kind record = false)

section Snapshots

variable {s s' t : State δ} {path : String} {input : LogInput} {kind : Option EventKind}
  {trace : List (State δ × Op δ)}

theorem snapshot_eq (h : Accepted input kind) (files : Files) :
    snapshot codec config path files input = (readAllLocked codec files config.maxArchives).map
      fun r => bounded path files input kind r.1 r.2 := by
  unfold snapshot
  rw [h.valid,h.requested]
  cases readAllLocked codec files config.maxArchives <;> rfl

theorem snapshot_ok {files : Files} {out : LogOutput δ}
    (h : snapshot codec config path files input = .ok out) : ∃ kind,Accepted input kind := by
  obtain ⟨_,hvalid,h⟩ := Guard.bind_eq_ok.mp h
  obtain ⟨kind,hkind,_⟩ := Guard.bind_eq_ok.mp h
  exact ⟨kind,hvalid,hkind⟩

theorem bounded_concat {files : Files} {records : List (JournalRecord δ)} {record : JournalRecord δ} :
    bounded path files input kind (records ++ [record]) 0 = bounded path files input kind records 0 ↔
      input.admits kind record = false := by
  constructor
  · intro h
    have hmatching := congrArg LogOutput.matchingRecords h
    cases hadmits : input.admits kind record with
    | false => rfl
    | true =>
      simp [bounded,List.filter_append,hadmits] at hmatching
  · intro h
    have hfiltered : (records ++ [record]).filter (fun r => input.admits kind r) =
        records.filter fun r => input.admits kind r := by
      rw [List.filter_append]
      simp [h]
    unfold bounded
    rw [hfiltered]

/-- A snapshot is exact where the tail of the active file is harmless, and nowhere else. -/
theorem Inv.snapshot_exact_iff (h : Inv codec config s) (haccepted : Accepted input kind) :
    snapshot codec config path s.files input = .ok (bounded path s.files input kind s.retained 0) ↔
      Harmless codec s input kind := by
  rw [snapshot_eq haccepted,h.read_all]
  cases hcut : s.cut with
  | none =>
    rw [tailRead_none hcut]
    constructor
    · intro _ record written hsome
      rw [hcut] at hsome
      cases hsome
    · intro _
      show Except.ok (bounded path s.files input kind (s.retained ++ []) 0) = _
      rw [List.append_nil]
  | some cut =>
    obtain ⟨record,written⟩ := cut
    have htorn := h.torn record written hcut
    have hharmless : Harmless codec s input kind ↔ CleanCut codec record written ∨
        (written = Lines.encode (codec.text record) ∧ input.admits kind record = false) := by
      constructor
      · exact fun h => h record written hcut
      · intro h record' written' hcut'
        rw [hcut,Option.some.injEq,Prod.mk.injEq] at hcut'
        rw [← hcut'.1,← hcut'.2]
        exact h
    rw [hharmless]
    cases htorn.cases with
    | inside hdecode =>
      rw [h.tailRead_inside hcut hdecode]
      constructor
      · exact fun h => nomatch h
      · -- the bytes of a text decode
        rintro (⟨text,_,_,hwritten⟩ | ⟨hwritten,_⟩) <;>
          rw [hwritten,Lines.decode_encode] at hdecode <;> cases hdecode
    | whole hwritten =>
      rw [h.tailRead_whole hcut hwritten]
      show Except.ok (bounded path s.files input kind (s.retained ++ [record]) 0) = Except.ok _ ↔ _
      rw [Except.ok.injEq,bounded_concat]
      constructor
      · exact fun hadmits => .inr ⟨hwritten,hadmits⟩
      · rintro (⟨text,_,hshort,htext⟩ | ⟨_,hadmits⟩)
        · exact absurd (Lines.encode_injective (htext.symm.trans hwritten)) hshort
        · exact hadmits
    | clean hpart hshort hwritten =>
      have hclean : CleanCut codec record written := ⟨_,hpart,hshort,hwritten⟩
      rw [h.tailRead_clean hcut hclean]
      constructor
      · exact fun _ => .inl hclean
      · intro _
        show Except.ok (bounded path s.files input kind (s.retained ++ []) 0) = _
        rw [List.append_nil]

theorem Run.inv (h : Run codec config s trace t) (hs : Inv codec config s) :
    ∀ entry ∈ trace,Inv codec config entry.1 := by
  induction h with
  | nil s => exact fun _ h => nomatch h
  | append hlawful hpart _ ih =>
    intro entry hentry
    rcases List.mem_cons.mp hentry with rfl | hentry
    · exact hs
    · exact ih (hs.append hlawful hpart) entry hentry
  | snapshot input _ ih =>
    intro entry hentry
    rcases List.mem_cons.mp hentry with rfl | hentry
    · exact hs
    · exact ih hs entry hentry

theorem Run.grows (h : Run codec config s trace t) : ∀ entry ∈ trace,Grows s entry.1 := by
  induction h with
  | nil s => exact fun _ h => nomatch h
  | append _ _ _ ih =>
    intro entry hentry
    rcases List.mem_cons.mp hentry with rfl | hentry
    · exact .refl _
    · exact append_grows.trans (ih entry hentry)
  | snapshot input _ ih =>
    intro entry hentry
    rcases List.mem_cons.mp hentry with rfl | hentry
    · exact .refl _
    · exact ih entry hentry

theorem Run.grows_between {before : List (State δ × Op δ)} {op : Op δ}
    {rest : List (State δ × Op δ)} (h : Run codec config s trace t)
    (htrace : trace = before ++ (s',op)::rest) : ∀ entry ∈ rest,Grows s' entry.1 := by
  induction before generalizing s trace with
  | nil =>
    rw [List.nil_append] at htrace
    have hall := h.grows
    cases h with
    | nil _ => cases htrace
    | append _ _ _ =>
      cases htrace
      exact fun entry hentry => hall entry (List.mem_cons_of_mem _ hentry)
    | snapshot _ _ =>
      cases htrace
      exact fun entry hentry => hall entry (List.mem_cons_of_mem _ hentry)
  | cons first before ih =>
    cases h with
    | nil _ => cases htrace
    | append _ _ hrest =>
      rw [List.cons_append,List.cons.injEq] at htrace
      exact ih hrest htrace.2
    | snapshot _ hrest =>
      rw [List.cons_append,List.cons.injEq] at htrace
      exact ih hrest htrace.2

theorem bounded_records {files : Files} {records : List (JournalRecord δ)} {record : JournalRecord δ}
    (h : record ∈ (bounded path files input kind records 0).records) : record ∈ records := by
  unfold bounded at h
  exact List.mem_of_mem_filter (List.mem_of_mem_drop h)

theorem bounded_unfiltered {files : Files} {records : List (JournalRecord δ)}
    (hinput : Unfiltered input) (hkind : kind = none)
    (h : (bounded path files input kind records 0).truncated = false) :
    (bounded path files input kind records 0).records = records := by
  have hall : (records.filter fun record => input.admits kind record) = records := by
    apply List.filter_eq_self.mpr
    intro record _
    unfold LogInput.admits
    rw [hkind,hinput.pr,hinput.since,hinput.upUntil]
    rfl
  unfold bounded at h ⊢
  dsimp only at h ⊢
  rw [hall,decide_eq_false_iff_not] at h
  rw [hall,Nat.eq_zero_of_not_pos h]
  rfl

/-- Over every run of a new journal: its snapshots are exact, and records disappear only with
their files, when and only when no snapshot meets a harmful tail. -/
theorem durable_iff (path : String) (h : Run codec config State.empty trace t) :
    Durable codec config path trace ↔
      ∀ s input kind,(s,.snapshot input) ∈ trace → Accepted input kind →
        Harmless codec s input kind := by
  have hinv := h.inv empty_inv
  constructor
  · intro hdurable s input kind hmem haccepted
    exact ((hinv _ hmem).snapshot_exact_iff haccepted).mp (hdurable.exact s input kind hmem haccepted).1
  · intro hharmless
    have hexact {s : State δ} {input : LogInput} {kind : Option EventKind}
        (hmem : (s,.snapshot input) ∈ trace) (haccepted : Accepted input kind) :
        snapshot codec config path s.files input = .ok (bounded path s.files input kind s.retained 0) :=
      ((hinv _ hmem).snapshot_exact_iff haccepted).mpr (hharmless s input kind hmem haccepted)
    refine ⟨?_,?_⟩
    · exact fun s input kind hmem haccepted => ⟨hexact hmem haccepted,(hinv _ hmem).distinct⟩
    · intro before s₁ input₁ between s₂ input₂ after out₁ out₂ htrace hout₁ hout₂ hinput htruncated
        record hrecord habsent
      have hmem₁ : (s₁,Op.snapshot input₁) ∈ trace := by
        rw [htrace]
        simp
      have hmem₂ : (s₂,Op.snapshot input₂) ∈ trace := by
        rw [htrace]
        simp
      obtain ⟨kind₁,haccepted₁⟩ := snapshot_ok hout₁
      obtain ⟨kind₂,haccepted₂⟩ := snapshot_ok hout₂
      rw [hexact hmem₁ haccepted₁,Except.ok.injEq] at hout₁
      rw [hexact hmem₂ haccepted₂,Except.ok.injEq] at hout₂
      have hkind : kind₂ = none := by
        have hrequested := haccepted₂.requested
        unfold requestedKind at hrequested
        rw [hinput.kind] at hrequested
        exact (Except.ok.inj hrequested).symm
      rw [← hout₂] at htruncated habsent
      rw [bounded_unfiltered hinput hkind htruncated] at habsent
      rw [← hout₁] at hrecord
      have hgrows : Grows s₁ s₂ := h.grows_between htrace (s₂,.snapshot input₂) (by simp)
      exact hgrows.removed (bounded_records hrecord) habsent

end Snapshots

section Samples

def tickRecord : JournalRecord Unit :=
  .event 1 { version := 1,eventId := "e1",operationId := "o1",kind := .syncCompleted
             repository := ⟨"cara","vans"⟩,timestamp := "1",detail := () }

def tickText : List Char := '\x7b'::
  ("\"record_type\":\"event\",\"version\":1,\"event\":\x7b\"version\":1,\"event_id\":\"e1\"," ++
    "\"operation_id\":\"o1\",\"kind\":\"sync_completed\",\"repository\":\x7b\"owner\":\"cara\"," ++
    "\"name\":\"vans\"\x7d,\"prs\":[],\"metadata\":\x7b\x7d,\"timestamp\":\"1\"\x7d\x7d").toList

def tickCodec : RecordCodec Unit where
  text record := if record = tickRecord then tickText else []
  parse text := if text = tickText then some tickRecord else none

theorem tick_text : tickCodec.text tickRecord = tickText := by simp only [tickCodec,↓reduceIte]

theorem tick_lawful : Lawful tickCodec tickRecord := by
  refine ⟨?_,?_,?_,?_,?_⟩
  · simp only [tickCodec,↓reduceIte]
  · rw [tick_text]
    decide +kernel
  · exact ⟨'\x7b',_,tick_text,by decide⟩
  · rw [tick_text]
    decide +kernel
  · intro text _ hshort
    rw [tick_text] at hshort
    exact if_neg hshort

def tickCut (written : Bytes) : State Unit := State.empty.append tickCodec {} tickRecord written

theorem tickCut_cut {written : Bytes} (h : written ≠ payload tickCodec tickRecord) :
    (tickCut written).cut = some (tickRecord,written) := by
  have hsize : tooLarge tickCodec tickRecord = false := by decide +kernel
  unfold tickCut
  rw [empty_inv.append_eq hsize rfl]
  dsimp only
  rw [if_neg h]

theorem tickCut_run {written : Bytes} (h : written <+: payload tickCodec tickRecord) :
    Run tickCodec {} State.empty [(State.empty,.append tickRecord written),
      (tickCut written,.snapshot {})] (tickCut written) :=
  .append tick_lawful h (.snapshot {} (.nil _))

theorem tick_accepted : Accepted {} none := ⟨by decide,rfl⟩

/-- All of the text and no newline: the reader returns a record that was never completed. -/
theorem unterminated_not_durable : Run tickCodec {} State.empty
      [(State.empty,.append tickRecord (Lines.encode tickText)),
        (tickCut (Lines.encode tickText),.snapshot {})] (tickCut (Lines.encode tickText)) ∧
    ¬Durable tickCodec {} "events-v1.jsonl" [(State.empty,.append tickRecord (Lines.encode tickText)),
      (tickCut (Lines.encode tickText),.snapshot {})] := by
  have hpart : Lines.encode tickText <+: payload tickCodec tickRecord := by
    unfold payload
    rw [tick_text]
    exact List.prefix_append ..
  have hcut : Lines.encode tickText ≠ payload tickCodec tickRecord := by
    unfold payload
    rw [tick_text]
    simp
  refine ⟨tickCut_run hpart,?_⟩
  intro hdurable
  have hinv : Inv tickCodec {} (tickCut (Lines.encode tickText)) := empty_inv.append tick_lawful hpart
  have hexact := (hdurable.exact (tickCut (Lines.encode tickText)) {} none (by simp) tick_accepted).1
  rcases (hinv.snapshot_exact_iff tick_accepted).mp hexact _ _ (tickCut_cut hcut) with hclean | hexcluded
  · obtain ⟨text,_,hshort,hwritten⟩ := hclean
    rw [tick_text] at hshort
    exact hshort (Lines.encode_injective hwritten).symm
  · cases hexcluded.2

/-- A cut after the first character is harmless. -/
theorem durable_iff_first_character : Durable tickCodec {} "events-v1.jsonl"
    [(State.empty,.append tickRecord (Lines.encode (tickText.take 1))),
      (tickCut (Lines.encode (tickText.take 1)),.snapshot {})] := by
  have htext : tickText.take 1 <+: tickText := List.take_prefix 1 tickText
  have hpart : Lines.encode (tickText.take 1) <+: payload tickCodec tickRecord := by
    have hencoded : Lines.encode (tickText.take 1) <+: Lines.encode tickText := by
      conv_rhs => rw [← List.take_append_drop 1 tickText,Lines.encode_append]
      exact List.prefix_append _ _
    unfold payload
    rw [tick_text]
    exact hencoded.trans (List.prefix_append _ _)
  apply (durable_iff "events-v1.jsonl" (tickCut_run hpart)).mpr
  intro s input kind hmem _ record written hcut
  have hs : s = tickCut (Lines.encode (tickText.take 1)) := by
    rcases List.mem_cons.mp hmem with hfirst | hsecond
    · have hop := congrArg Prod.snd hfirst
      simp at hop
    · rw [List.mem_singleton,Prod.mk.injEq] at hsecond
      exact hsecond.1
  have hnewline : Lines.encode (tickText.take 1) ≠ payload tickCodec tickRecord := by
    decide +kernel
  rw [hs,tickCut_cut hnewline,Option.some.injEq,Prod.mk.injEq] at hcut
  refine .inl ⟨tickText.take 1,?_,?_,hcut.2.symm⟩
  · rw [← hcut.1,tick_text]
    exact htext
  · rw [← hcut.1,tick_text]
    decide +kernel

end Samples

end Journal
end Cara
