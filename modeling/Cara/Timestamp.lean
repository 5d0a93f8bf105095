import Cara.Lib.Calendar
import Cara.Lib.Decimal
import Cara.RequiredRuns

/-! Provider timestamps. A date-time is described by its parts and the bytes in which they are written; the
parser of timestamps is compared with that description, its seconds with the count of the calendar. -/
namespace Cara
namespace RequiredRuns

open Text (byteNumber decimal isAsciiDigit utf8Bytes)

section Grammar

inductive Zone where
  | utc (letter : UInt8)
  | offset (sign : UInt8) (hours minutes : ℕ)
deriving DecidableEq

namespace Zone

def WellFormed : Zone → Prop
  | .utc letter => letter = 90 ∨ letter = 122
  | .offset sign hours minutes => (sign = 43 ∨ sign = 45) ∧ hours ≤ 23 ∧ minutes ≤ 59

def bytes : Zone → List UInt8
  | .utc letter => [letter]
  | .offset sign hours minutes => sign::(decimal 2 hours ++ 58::decimal 2 minutes)

def secs : Zone → ℤ
  | .utc _ => 0
  | .offset sign hours minutes =>
      if sign = 43 then (hours * 3600 + minutes * 60 : ℤ) else -(hours * 3600 + minutes * 60)

end Zone

@[ext] structure DateTime where
  year : ℕ
  month : ℕ
  day : ℕ
  separator : UInt8
  hour : ℕ
  minute : ℕ
  second : ℕ
  /-- The digits behind a point, when there is one. -/
  fraction : Option (List UInt8)
  zone : Zone
deriving DecidableEq

def fractionBytes : Option (List UInt8) → List UInt8
  | none => []
  | some digits => 46::digits

namespace DateTime

variable (d : DateTime)

def stem : List UInt8 :=
  decimal 4 d.year ++ 45::(decimal 2 d.month ++ 45::(decimal 2 d.day ++ d.separator::(decimal 2 d.hour ++
    58::(decimal 2 d.minute ++ 58::decimal 2 d.second))))

def bytes : List UInt8 := d.stem ++ (fractionBytes d.fraction ++ d.zone.bytes)

structure WellFormed : Prop where
  year : d.year < 10000
  month : Calendar.IsMonth d.month
  day : 1 ≤ d.day ∧ d.day ≤ 31
  separator : d.separator = 84 ∨ d.separator = 116
  hour : d.hour ≤ 23
  minute : d.minute ≤ 59
  second : d.second ≤ 60
  fraction : ∀ digits,d.fraction = some digits → ∀ b ∈ digits,isAsciiDigit b = true
  zone : d.zone.WellFormed

/-- A date-time of the standard: its day is in the calendar, and a point has digits behind it. -/
structure Valid : Prop extends WellFormed d where
  date : Calendar.IsDate d.year d.month d.day
  digits : d.fraction ≠ some []

def unixSecs : ℤ :=
  Calendar.dayNumber d.year d.month d.day * 86400 + d.hour * 3600 + d.minute * 60 + d.second - d.zone.secs

end DateTime

/-- The string is a date-time, `t` whole seconds after the epoch. -/
def Denotes (value : String) (t : ℕ) : Prop :=
  ∃ d : DateTime,d.Valid ∧ utf8Bytes value = d.bytes ∧ d.unixSecs = t

end Grammar

section Civil

/-- Division that truncates, of a dividend that was moved down, is the floor. -/
theorem era_eq (year : ℤ) : (if 0 ≤ year then year else year - 399).tdiv 400 = year / 400 := by
  split
  case isTrue h => exact Int.tdiv_eq_ediv_of_nonneg h
  case isFalse h =>
    have hneg : year - 399 = -(399 - year) := by omega
    rw [hneg,Int.neg_tdiv,Int.tdiv_eq_ediv_of_nonneg (by omega)]
    omega

/-- The civil formula counts the days of the calendar, also behind the end of a month. -/
theorem daysFromCivil_eq (year day : ℕ) {month : ℕ} (h : Calendar.IsMonth month) :
    daysFromCivil year month day = Calendar.dayNumber year month day := by
  rw [Calendar.dayNumber_eq year day h]
  unfold daysFromCivil
  dsimp only
  have hearly : (if (month : ℤ) ≤ 2 then (year : ℤ) - 1 else year) =
      if month ≤ 2 then (year : ℤ) - 1 else year := by
    split <;> split <;> omega
  rw [hearly,era_eq]
  generalize (if month ≤ 2 then (year : ℤ) - 1 else year) = y
  have hshifted : ((month : ℤ) + 9).tmod 12 = (month + 9) % 12 := Int.tmod_eq_emod_of_nonneg (by omega)
  have hmonths : (153 * (((month : ℤ) + 9) % 12) + 2).tdiv 5 = (153 * ((month + 9) % 12) + 2) / 5 :=
    Int.tdiv_eq_ediv_of_nonneg (by omega)
  have hyear : 0 ≤ y - y / 400 * 400 := by omega
  rw [hshifted,hmonths,Int.tdiv_eq_ediv_of_nonneg hyear,Int.tdiv_eq_ediv_of_nonneg hyear]
  omega

end Civil
section Reading

variable {bytes : List UInt8}

theorem exists_cons_of_zone {zone : Zone} (h : zone.WellFormed) (rest : List UInt8) :
    ∃ b tail,zone.bytes ++ rest = b::tail ∧ isAsciiDigit b = false ∧ b ≠ 46 := by
  cases zone with
  | utc letter => rcases h with rfl | rfl <;> exact ⟨_,_,rfl,by decide,by decide⟩
  | offset sign hours minutes => rcases h.1 with rfl | rfl <;> exact ⟨_,_,rfl,by decide,by decide⟩

theorem zoneOffsetSecs_eq_some {index : ℕ} {secs : ℤ} (h : zoneOffsetSecs bytes index = some secs) :
    ∃ (zone : Zone) (rest : List UInt8),zone.WellFormed ∧ bytes.drop index = zone.bytes ++ rest ∧
      zone.secs = secs := by
  unfold zoneOffsetSecs at h
  split at h
  case h_1 hletter =>
    cases h
    exact ⟨.utc 90,_,.inl rfl,Text.drop_of_getElem? hletter,rfl⟩
  case h_2 hletter =>
    cases h
    exact ⟨.utc 122,_,.inr rfl,Text.drop_of_getElem? hletter,rfl⟩
  case h_3 sign _ _ hsign =>
    split at h
    case isTrue hplus =>
      split at h
      case isTrue => cases h
      case isFalse hcolon =>
        obtain ⟨hours,hhours,h⟩ := Option.bind_eq_some_iff.mp h
        obtain ⟨minutes,hminutes,h⟩ := Option.bind_eq_some_iff.mp h
        split at h
        case isTrue => cases h
        case isFalse hrange =>
          cases h
          obtain ⟨hdrop,_⟩ : bytes.drop (index + 1) = decimal 2 hours ++ bytes.drop (index + 3) ∧ _ :=
            Text.drop_of_byteNumber hhours
          obtain ⟨hdrop',_⟩ : bytes.drop (index + 4) = decimal 2 minutes ++ bytes.drop (index + 6) ∧ _ :=
            Text.drop_of_byteNumber hminutes
          refine ⟨.offset sign hours minutes,bytes.drop (index + 6),⟨hplus,by omega,by omega⟩,?_,?_⟩
          · rw [Text.drop_of_getElem? hsign,hdrop,Text.drop_of_getElem? (not_not.mp hcolon),hdrop']
            simp [Zone.bytes]
          · rfl
    case isFalse => cases h
  case h_4 => cases h

theorem zoneOffsetSecs_of_drop {index : ℕ} {zone : Zone} {rest : List UInt8} (hzone : zone.WellFormed)
    (h : bytes.drop index = zone.bytes ++ rest) : zoneOffsetSecs bytes index = some zone.secs := by
  cases zone with
  | utc letter =>
    have hletter := Text.getElem?_of_drop h
    unfold zoneOffsetSecs
    rw [hletter]
    rcases hzone with rfl | rfl <;> rfl
  | offset sign hours minutes =>
    obtain ⟨hsigns,hhours,hminutes⟩ := hzone
    have hplace : bytes.drop index = [sign] ++ (decimal 2 hours ++ ([58] ++ (decimal 2 minutes ++ rest))) := by
      rw [h]
      exact congrArg (sign::·) (List.append_assoc _ _ _)
    have hplace₁ := Text.drop_of_drop_append hplace
    have hplace₂ := Text.drop_of_drop_append hplace₁
    have hplace₃ := Text.drop_of_drop_append hplace₂
    have hsign : bytes[index]? = some sign := Text.getElem?_of_drop hplace
    have hcolon : bytes[index + 3]? = some 58 := Text.getElem?_of_drop hplace₂
    have hread : byteNumber bytes (index + 1) (index + 3) = some hours :=
      Text.byteNumber_of_drop (by decide) (by omega) hplace₁
    have hread' : byteNumber bytes (index + 4) (index + 6) = some minutes :=
      Text.byteNumber_of_drop (by decide) (by omega) hplace₃
    have hrange : ¬(hours > 23 ∨ minutes > 59) := by omega
    unfold zoneOffsetSecs
    rw [hsign]
    rcases hsigns with rfl | rfl
    all_goals
      simp only [hcolon,hread,hread',Option.bind_eq_bind,Option.bind_some,if_neg hrange]
      rfl

theorem zoneIndex_of_drop {fraction : Option (List UInt8)} {b : UInt8} {rest : List UInt8}
    (hdigits : ∀ digits,fraction = some digits → ∀ c ∈ digits,isAsciiDigit c = true)
    (hb : isAsciiDigit b = false ∧ b ≠ 46) (h : bytes.drop 19 = fractionBytes fraction ++ b::rest) :
    zoneIndex bytes = 19 + (fractionBytes fraction).length := by
  unfold zoneIndex
  cases fraction with
  | none =>
    rw [Text.getElem?_of_drop h,if_neg]
    · rfl
    · exact fun heq => hb.2 (Option.some_inj.mp heq)
  | some digits =>
    have hpoint : bytes[19]? = some 46 := Text.getElem?_of_drop h
    have hdrop : bytes.drop 20 = digits ++ b::rest := Text.drop_of_drop_append (l := [46]) h
    rw [if_pos hpoint,hdrop,List.takeWhile_append_of_pos (hdigits digits rfl),List.takeWhile_cons,hb.1]
    simp [fractionBytes]
    omega

/-- What the parser takes for a fraction stands behind the seconds. -/
theorem drop_zoneIndex (bytes : List UInt8) : ∃ fraction : Option (List UInt8),
    (∀ digits,fraction = some digits → ∀ c ∈ digits,isAsciiDigit c = true) ∧
      bytes.drop 19 = fractionBytes fraction ++ bytes.drop (zoneIndex bytes) := by
  unfold zoneIndex
  split
  case isTrue hpoint =>
    refine ⟨some ((bytes.drop 20).takeWhile isAsciiDigit),?_,?_⟩
    · intro digits heq c hc
      cases heq
      exact List.mem_takeWhile_imp hc
    · have hall : bytes.drop 20 =
          (bytes.drop 20).takeWhile isAsciiDigit ++ (bytes.drop 20).dropWhile isAsciiDigit :=
        List.takeWhile_append_dropWhile.symm
      rw [Text.drop_of_getElem? hpoint,Text.drop_of_drop_append hall]
      exact congrArg (46::·) hall
  case isFalse => exact ⟨none,fun _ heq => absurd heq (by simp),rfl⟩

structure Reads (bytes : List UInt8) (d : DateTime) : Prop where
  year : byteNumber bytes 0 4 = some d.year
  dash : bytes[4]? = some 45
  month : byteNumber bytes 5 7 = some d.month
  dash' : bytes[7]? = some 45
  day : byteNumber bytes 8 10 = some d.day
  separator : bytes[10]? = some d.separator
  hour : byteNumber bytes 11 13 = some d.hour
  colon : bytes[13]? = some 58
  minute : byteNumber bytes 14 16 = some d.minute
  colon' : bytes[16]? = some 58
  second : byteNumber bytes 17 19 = some d.second

theorem Reads.stem {d : DateTime} (h : Reads bytes d) : bytes = d.stem ++ bytes.drop 19 ∧ d.year < 10000 := by
  obtain ⟨hyear,hlt⟩ : bytes.drop 0 = decimal 4 d.year ++ bytes.drop 4 ∧ _ := Text.drop_of_byteNumber h.year
  obtain ⟨hmonth,_⟩ : bytes.drop 5 = decimal 2 d.month ++ bytes.drop 7 ∧ _ := Text.drop_of_byteNumber h.month
  obtain ⟨hday,_⟩ : bytes.drop 8 = decimal 2 d.day ++ bytes.drop 10 ∧ _ := Text.drop_of_byteNumber h.day
  obtain ⟨hhour,_⟩ : bytes.drop 11 = decimal 2 d.hour ++ bytes.drop 13 ∧ _ := Text.drop_of_byteNumber h.hour
  obtain ⟨hminute,_⟩ : bytes.drop 14 = decimal 2 d.minute ++ bytes.drop 16 ∧ _ :=
    Text.drop_of_byteNumber h.minute
  obtain ⟨hsecond,_⟩ : bytes.drop 17 = decimal 2 d.second ++ bytes.drop 19 ∧ _ :=
    Text.drop_of_byteNumber h.second
  refine ⟨?_,hlt⟩
  calc bytes = decimal 4 d.year ++ bytes.drop 4 := hyear
    _ = d.stem ++ bytes.drop 19 := by
      rw [Text.drop_of_getElem? h.dash,hmonth,Text.drop_of_getElem? h.dash',hday,
        Text.drop_of_getElem? h.separator,hhour,Text.drop_of_getElem? h.colon,hminute,
        Text.drop_of_getElem? h.colon',hsecond]
      simp only [DateTime.stem,List.append_assoc,List.cons_append]

theorem reads_of_stem {d : DateTime} {tail : List UInt8} (hd : d.WellFormed) (h : bytes = d.stem ++ tail) :
    Reads bytes d ∧ bytes.drop 19 = tail := by
  obtain ⟨_,hmonth⟩ := hd.month
  obtain ⟨_,hday⟩ := hd.day
  have hhour := hd.hour
  have hminute := hd.minute
  have hsecond := hd.second
  have hplace : bytes.drop 0 = decimal 4 d.year ++ ([45] ++ (decimal 2 d.month ++ ([45] ++ (decimal 2 d.day ++
      ([d.separator] ++ (decimal 2 d.hour ++ ([58] ++ (decimal 2 d.minute ++ ([58] ++ (decimal 2 d.second ++
        tail)))))))))) := by
    rw [List.drop_zero,h]
    simp only [DateTime.stem,List.append_assoc,List.cons_append,List.nil_append]
  have hplace₁ := Text.drop_of_drop_append hplace
  have hplace₂ := Text.drop_of_drop_append hplace₁
  have hplace₃ := Text.drop_of_drop_append hplace₂
  have hplace₄ := Text.drop_of_drop_append hplace₃
  have hplace₅ := Text.drop_of_drop_append hplace₄
  have hplace₆ := Text.drop_of_drop_append hplace₅
  have hplace₇ := Text.drop_of_drop_append hplace₆
  have hplace₈ := Text.drop_of_drop_append hplace₇
  have hplace₉ := Text.drop_of_drop_append hplace₈
  have hplace₁₀ := Text.drop_of_drop_append hplace₉
  refine ⟨?_,Text.drop_of_drop_append hplace₁₀⟩
  exact {
    year := Text.byteNumber_of_drop (by decide) hd.year hplace
    dash := Text.getElem?_of_drop hplace₁
    month := Text.byteNumber_of_drop (by decide) (by omega) hplace₂
    dash' := Text.getElem?_of_drop hplace₃
    day := Text.byteNumber_of_drop (by decide) (by omega) hplace₄
    separator := Text.getElem?_of_drop hplace₅
    hour := Text.byteNumber_of_drop (by decide) (by omega) hplace₆
    colon := Text.getElem?_of_drop hplace₇
    minute := Text.byteNumber_of_drop (by decide) (by omega) hplace₈
    colon' := Text.getElem?_of_drop hplace₉
    second := Text.byteNumber_of_drop (by decide) (by omega) hplace₁₀ }

/-- What the parser returns is the time of a date-time at the beginning of the string. -/
theorem exists_of_rfc3339ToUnixSecs {value : String} {t : ℕ} (h : rfc3339ToUnixSecs value = some t) :
    ∃ (d : DateTime) (rest : List UInt8),d.WellFormed ∧ utf8Bytes value = d.bytes ++ rest ∧ d.unixSecs = t := by
  unfold rfc3339ToUnixSecs at h
  dsimp only at h
  generalize utf8Bytes value = bytes at h ⊢
  split at h
  case isTrue => cases h
  case isFalse hshape =>
    simp only [not_or,not_and_or,not_not] at hshape
    obtain ⟨_,hdash,hdash',hcolon,hcolon',hletter⟩ := hshape
    obtain ⟨year,hyear,h⟩ := Option.bind_eq_some_iff.mp h
    obtain ⟨month,hmonth,h⟩ := Option.bind_eq_some_iff.mp h
    obtain ⟨day,hday,h⟩ := Option.bind_eq_some_iff.mp h
    obtain ⟨hour,hhour,h⟩ := Option.bind_eq_some_iff.mp h
    obtain ⟨minute,hminute,h⟩ := Option.bind_eq_some_iff.mp h
    obtain ⟨second,hsecond,h⟩ := Option.bind_eq_some_iff.mp h
    split at h
    case isTrue => cases h
    case isFalse hrange =>
      obtain ⟨offset,hoffset,h⟩ := Option.bind_eq_some_iff.mp h
      split at h
      case isTrue => cases h
      case isFalse hepoch =>
        obtain ⟨separator,hseparator,hseparates⟩ : ∃ b,bytes[10]? = some b ∧ (b = 84 ∨ b = 116) := by
          rcases hletter with hletter | hletter
          · exact ⟨_,hletter,.inl rfl⟩
          · exact ⟨_,hletter,.inr rfl⟩
        obtain ⟨zone,rest,hzone,hsuffix,hsecs⟩ := zoneOffsetSecs_eq_some hoffset
        obtain ⟨fraction,hdigits,hfraction⟩ := drop_zoneIndex bytes
        have hmonths : Calendar.IsMonth month := ⟨by omega,by omega⟩
        have hdays : 1 ≤ day ∧ day ≤ 31 := by omega
        have htimes : hour ≤ 23 ∧ minute ≤ 59 ∧ second ≤ 60 := by omega
        have hreads : Reads bytes ⟨year,month,day,separator,hour,minute,second,fraction,zone⟩ :=
          ⟨hyear,hdash,hmonth,hdash',hday,hseparator,hhour,hcolon,hminute,hcolon',hsecond⟩
        obtain ⟨hstem,hyears⟩ := hreads.stem
        refine ⟨⟨year,month,day,separator,hour,minute,second,fraction,zone⟩,rest,?_,?_,?_⟩
        · exact ⟨hyears,hmonths,hdays,hseparates,htimes.1,htimes.2.1,htimes.2.2,hdigits,hzone⟩
        · rw [hfraction,hsuffix] at hstem
          rw [hstem]
          simp only [DateTime.bytes,List.append_assoc]
        · cases h
          rw [daysFromCivil_eq year day hmonths] at hepoch ⊢
          unfold DateTime.unixSecs
          dsimp only
          rw [hsecs]
          omega

/-- A date-time at the beginning of the string that is not before the epoch is returned. -/
theorem rfc3339ToUnixSecs_of_bytes {value : String} {d : DateTime} {rest : List UInt8} (hd : d.WellFormed)
    (h : utf8Bytes value = d.bytes ++ rest) {t : ℕ} (ht : d.unixSecs = t) :
    rfc3339ToUnixSecs value = some t := by
  have hcount : daysFromCivil d.year d.month d.day = Calendar.dayNumber d.year d.month d.day :=
    daysFromCivil_eq d.year d.day hd.month
  unfold rfc3339ToUnixSecs
  dsimp only
  generalize utf8Bytes value = bytes at h ⊢
  obtain ⟨b,tail,hzone,hb⟩ := exists_cons_of_zone hd.zone rest
  have hparts : bytes = d.stem ++ (fractionBytes d.fraction ++ (d.zone.bytes ++ rest)) := by
    rw [h]
    simp only [DateTime.bytes,List.append_assoc]
  obtain ⟨hreads,hdrop⟩ := reads_of_stem hd hparts
  have hindex : zoneIndex bytes = 19 + (fractionBytes d.fraction).length := by
    rw [hzone] at hdrop
    exact zoneIndex_of_drop hd.fraction hb hdrop
  have hoffset : zoneOffsetSecs bytes (zoneIndex bytes) = some d.zone.secs := by
    rw [hindex]
    exact zoneOffsetSecs_of_drop hd.zone (Text.drop_of_drop_append hdrop)
  have hlength : 20 ≤ bytes.length := by
    have hsuffix := congrArg List.length hdrop
    rw [hzone] at hsuffix
    simp at hsuffix
    omega
  obtain ⟨hmonth,hmonth'⟩ := hd.month
  obtain ⟨hday,hday'⟩ := hd.day
  have hhour := hd.hour
  have hminute := hd.minute
  have hsecond := hd.second
  rw [if_neg]
  · simp only [hreads.year,hreads.month,hreads.day,hreads.hour,hreads.minute,hreads.second,hoffset,hcount,
      Option.bind_eq_bind,Option.bind_some]
    unfold DateTime.unixSecs at ht
    rw [if_neg (by omega),if_neg (by omega),ht]
    rfl
  · rw [hreads.dash,hreads.dash',hreads.colon,hreads.colon',hreads.separator]
    rcases hd.separator with hletter | hletter <;> simp [hletter,hlength]

theorem rfc3339ToUnixSecs_eq_some_iff {value : String} {t : ℕ} : rfc3339ToUnixSecs value = some t ↔
    ∃ (d : DateTime) (rest : List UInt8),d.WellFormed ∧ utf8Bytes value = d.bytes ++ rest ∧ d.unixSecs = t := by
  constructor
  · exact exists_of_rfc3339ToUnixSecs
  · intro h
    obtain ⟨d,rest,hd,hbytes,ht⟩ := h
    exact rfc3339ToUnixSecs_of_bytes hd hbytes ht

theorem zone_unique {zone zone' : Zone} {rest rest' : List UInt8} (h : zone.WellFormed) (h' : zone'.WellFormed)
    (heq : zone.bytes ++ rest = zone'.bytes ++ rest') : zone = zone' ∧ rest = rest' := by
  cases zone with
  | utc letter =>
    cases zone' with
    | utc letter' =>
      obtain ⟨rfl,rfl⟩ := List.cons.inj heq
      exact ⟨rfl,rfl⟩
    | offset sign hours minutes =>
      obtain ⟨rfl,_⟩ := List.cons.inj heq
      rcases h with rfl | rfl <;> rcases h'.1 with h' | h' <;> cases h'
  | offset sign hours minutes =>
    cases zone' with
    | utc letter =>
      obtain ⟨rfl,_⟩ := List.cons.inj heq
      rcases h' with rfl | rfl <;> rcases h.1 with h | h <;> cases h
    | offset sign' hours' minutes' =>
      obtain ⟨_,hhours,hminutes⟩ := h
      obtain ⟨_,hhours',hminutes'⟩ := h'
      obtain ⟨rfl,htail⟩ := List.cons.inj heq
      have hparts : decimal 2 hours ++ 58::(decimal 2 minutes ++ rest) =
          decimal 2 hours' ++ 58::(decimal 2 minutes' ++ rest') := by
        simpa only [List.append_assoc,List.cons_append] using
          (show (decimal 2 hours ++ 58::decimal 2 minutes) ++ rest =
            (decimal 2 hours' ++ 58::decimal 2 minutes') ++ rest' from htail)
      obtain ⟨hfirst,htail⟩ := List.append_inj hparts (by rw [Text.length_decimal,Text.length_decimal])
      obtain ⟨_,htail⟩ := List.cons.inj htail
      obtain ⟨hlast,rfl⟩ := List.append_inj htail (by rw [Text.length_decimal,Text.length_decimal])
      cases Text.decimal_injective (by omega) (by omega) hfirst
      cases Text.decimal_injective (by omega) (by omega) hlast
      exact ⟨rfl,rfl⟩

theorem fraction_unique {fraction fraction' : Option (List UInt8)} {b b' : UInt8} {l l' : List UInt8}
    (h : ∀ digits,fraction = some digits → ∀ c ∈ digits,isAsciiDigit c = true)
    (h' : ∀ digits,fraction' = some digits → ∀ c ∈ digits,isAsciiDigit c = true)
    (hb : isAsciiDigit b = false ∧ b ≠ 46) (hb' : isAsciiDigit b' = false ∧ b' ≠ 46)
    (heq : fractionBytes fraction ++ b::l = fractionBytes fraction' ++ b'::l') :
    fraction = fraction' ∧ b::l = b'::l' := by
  cases fraction with
  | none =>
    cases fraction' with
    | none => exact ⟨rfl,heq⟩
    | some digits' => exact absurd (List.cons.inj heq).1 hb.2
  | some digits =>
    cases fraction' with
    | none => exact absurd (List.cons.inj heq).1.symm hb'.2
    | some digits' =>
      obtain ⟨rfl,htail⟩ := Text.digits_append_unique (h digits rfl) (h' digits' rfl) hb.1 hb'.1
        (List.cons.inj heq).2
      exact ⟨rfl,htail⟩

theorem dateTime_unique {d d' : DateTime} {rest rest' : List UInt8} (hd : d.WellFormed) (hd' : d'.WellFormed)
    (h : d.bytes ++ rest = d'.bytes ++ rest') : d = d' ∧ rest = rest' := by
  have hparts : d.bytes ++ rest = d.stem ++ (fractionBytes d.fraction ++ (d.zone.bytes ++ rest)) := by
    simp only [DateTime.bytes,List.append_assoc]
  have hparts' : d.bytes ++ rest = d'.stem ++ (fractionBytes d'.fraction ++ (d'.zone.bytes ++ rest')) := by
    rw [h]
    simp only [DateTime.bytes,List.append_assoc]
  obtain ⟨hreads,hdrop⟩ := reads_of_stem hd hparts
  obtain ⟨hreads',hdrop'⟩ := reads_of_stem hd' hparts'
  obtain ⟨b,tail,hzone,hb⟩ := exists_cons_of_zone hd.zone rest
  obtain ⟨b',tail',hzone',hb'⟩ := exists_cons_of_zone hd'.zone rest'
  have hsuffix := hdrop.symm.trans hdrop'
  rw [hzone,hzone'] at hsuffix
  obtain ⟨hfraction,hzones⟩ := fraction_unique hd.fraction hd'.fraction hb hb' hsuffix
  rw [← hzone,← hzone'] at hzones
  obtain ⟨hzones,hrest⟩ := zone_unique hd.zone hd'.zone hzones
  have hsame {α : Type} {o : Option α} {a a' : α} (ha : o = some a) (ha' : o = some a') : a = a' :=
    Option.some_inj.mp (ha.symm.trans ha')
  refine ⟨?_,hrest⟩
  exact DateTime.ext (hsame hreads.year hreads'.year) (hsame hreads.month hreads'.month)
    (hsame hreads.day hreads'.day) (hsame hreads.separator hreads'.separator) (hsame hreads.hour hreads'.hour)
    (hsame hreads.minute hreads'.minute) (hsame hreads.second hreads'.second) hfraction hzones

end Reading

section Operands

def FitsI64 (x : ℤ) : Prop := -2 ^ 63 ≤ x ∧ x < 2 ^ 63

def civilOperands (year month day : ℤ) : List ℤ :=
  let y := if month ≤ 2 then year - 1 else year
  let dividend := if 0 ≤ y then y else y - 399
  let era := dividend.tdiv 400
  let yearOfEra := y - era * 400
  let shiftedMonth := (month + 9).tmod 12
  let days := (153 * shiftedMonth + 2).tdiv 5
  let dayOfYear := days + day - 1
  let quadrennia := yearOfEra * 365 + yearOfEra.tdiv 4
  let dayOfEra := quadrennia - yearOfEra.tdiv 100 + dayOfYear
  [y,dividend,era,era * 400,yearOfEra,month + 9,shiftedMonth,153 * shiftedMonth,153 * shiftedMonth + 2,days,
    days + day,dayOfYear,yearOfEra * 365,yearOfEra.tdiv 4,quadrennia,yearOfEra.tdiv 100,
    quadrennia - yearOfEra.tdiv 100,dayOfEra,era * 146097,era * 146097 + dayOfEra,
    era * 146097 + dayOfEra - 719468]

def Zone.operands : Zone → List ℤ
  | .utc _ => []
  | .offset _ hours minutes => [(hours : ℤ) * 3600,(minutes : ℤ) * 60,hours * 3600 + minutes * 60,
      -(hours * 3600 + minutes * 60)]

def DateTime.operands (d : DateTime) : List ℤ :=
  let seconds := daysFromCivil d.year d.month d.day * 86400
  civilOperands d.year d.month d.day ++ d.zone.operands ++
    [seconds,(d.hour : ℤ) * 3600,seconds + d.hour * 3600,(d.minute : ℤ) * 60,
      seconds + d.hour * 3600 + d.minute * 60,seconds + d.hour * 3600 + d.minute * 60 + d.second,
      seconds + d.hour * 3600 + d.minute * 60 + d.second - d.zone.secs]

theorem civilOperands_fit {year month day : ℕ} (hyear : year < 10000) (hmonth : Calendar.IsMonth month)
    (hday : day ≤ 31) : ∀ x ∈ civilOperands year month day,FitsI64 x := by
  obtain ⟨hlower,hupper⟩ := hmonth
  unfold civilOperands FitsI64
  dsimp only
  rw [era_eq]
  have hbounds : -1 ≤ (if (month : ℤ) ≤ 2 then (year : ℤ) - 1 else year) ∧
      (if (month : ℤ) ≤ 2 then (year : ℤ) - 1 else year) < 10000 := by
    split <;> omega
  generalize (if (month : ℤ) ≤ 2 then (year : ℤ) - 1 else year) = y at hbounds ⊢
  have hshifted : ((month : ℤ) + 9).tmod 12 = (month + 9) % 12 := Int.tmod_eq_emod_of_nonneg (by omega)
  have hmonths : (153 * (((month : ℤ) + 9) % 12) + 2).tdiv 5 = (153 * ((month + 9) % 12) + 2) / 5 :=
    Int.tdiv_eq_ediv_of_nonneg (by omega)
  have hyears : 0 ≤ y - y / 400 * 400 := by omega
  rw [hshifted,hmonths,Int.tdiv_eq_ediv_of_nonneg hyears,Int.tdiv_eq_ediv_of_nonneg hyears]
  simp only [List.forall_mem_cons,List.not_mem_nil,false_implies,implies_true,and_true]
  refine ⟨?_,?_,?_,?_,?_,?_,?_,?_,?_,?_,?_,?_,?_,?_,?_,?_,?_,?_,?_,?_,?_⟩
  all_goals omega

theorem Zone.operands_fit {zone : Zone} (h : zone.WellFormed) :
    (∀ x ∈ zone.operands,FitsI64 x) ∧ -86400 < zone.secs ∧ zone.secs < 86400 := by
  cases zone with
  | utc letter => exact ⟨by simp [Zone.operands],by simp [Zone.secs],by simp [Zone.secs]⟩
  | offset sign hours minutes =>
    obtain ⟨_,hhours,hminutes⟩ := h
    refine ⟨?_,?_⟩
    · unfold Zone.operands FitsI64
      simp only [List.forall_mem_cons,List.not_mem_nil,false_implies,implies_true,and_true]
      omega
    · unfold Zone.secs
      dsimp only
      split <;> omega

theorem DateTime.operands_fit {d : DateTime} (hd : d.WellFormed) : ∀ x ∈ d.operands,FitsI64 x := by
  obtain ⟨hzone,hahead,hbehind⟩ := Zone.operands_fit hd.zone
  obtain ⟨_,hday⟩ := hd.day
  have hyear := hd.year
  have hhour := hd.hour
  have hminute := hd.minute
  have hsecond := hd.second
  have hdays : -1000000 < daysFromCivil d.year d.month d.day ∧
      daysFromCivil d.year d.month d.day < 4000000 := by
    rw [daysFromCivil_eq d.year d.day hd.month,Calendar.dayNumber_eq d.year d.day hd.month]
    dsimp only
    split <;> omega
  unfold DateTime.operands
  dsimp only
  rw [List.forall_mem_append,List.forall_mem_append]
  refine ⟨⟨civilOperands_fit hd.year hd.month hday,hzone⟩,?_⟩
  unfold FitsI64
  simp only [List.forall_mem_cons,List.not_mem_nil,false_implies,implies_true,and_true]
  omega

end Operands

section Exact

structure TimestampExact (value : String) : Prop where
  denotes : ∀ t,rfc3339ToUnixSecs value = some t ↔ Denotes value t
  bounded : ∀ (d : DateTime) (rest : List UInt8),d.WellFormed → utf8Bytes value = d.bytes ++ rest →
    ∀ x ∈ d.operands,FitsI64 x

/-- The string begins with a date-time that is not before the epoch, but which is not in the calendar, has a
point without digits, or is not all of the string. -/
def Guessed (value : String) : Prop :=
  ∃ (d : DateTime) (rest : List UInt8),d.WellFormed ∧ utf8Bytes value = d.bytes ++ rest ∧ 0 ≤ d.unixSecs ∧
    (¬Calendar.IsDate d.year d.month d.day ∨ d.fraction = some [] ∨ rest ≠ [])

theorem Denotes.returned {value : String} {t : ℕ} (h : Denotes value t) : rfc3339ToUnixSecs value = some t := by
  obtain ⟨d,hd,hbytes,ht⟩ := h
  rw [← List.append_nil d.bytes] at hbytes
  exact rfc3339ToUnixSecs_of_bytes hd.toWellFormed hbytes ht

theorem Guessed.not_denotes {value : String} (h : Guessed value) :
    ∃ t,rfc3339ToUnixSecs value = some t ∧ ¬Denotes value t := by
  obtain ⟨d,rest,hd,hbytes,hepoch,hguess⟩ := h
  obtain ⟨t,ht⟩ := Int.eq_ofNat_of_zero_le hepoch
  refine ⟨t,rfc3339ToUnixSecs_of_bytes hd hbytes ht,?_⟩
  intro hdenotes
  obtain ⟨d',hd',hbytes',_⟩ := hdenotes
  have heq : d.bytes ++ rest = d'.bytes ++ [] := by
    rw [← hbytes,hbytes',List.append_nil]
  obtain ⟨rfl,rfl⟩ := dateTime_unique hd hd'.toWellFormed heq
  rcases hguess with hdate | hpoint | htail
  · exact hdate hd'.date
  · exact hd'.digits hpoint
  · exact htail rfl

/-- Timestamps are parsed exactly, but for those that are guessed. -/
theorem timestampExact_iff (value : String) : TimestampExact value ↔ ¬Guessed value := by
  constructor
  · intro hexact hguess
    obtain ⟨t,ht,hnone⟩ := hguess.not_denotes
    exact hnone ((hexact.denotes t).mp ht)
  · intro hexact
    refine ⟨fun t => ⟨?_,Denotes.returned⟩,fun d rest hd _ => d.operands_fit hd⟩
    intro ht
    obtain ⟨d,rest,hd,hbytes,hsecs⟩ := rfc3339ToUnixSecs_eq_some_iff.mp ht
    by_contra hnone
    apply hexact
    refine ⟨d,rest,hd,hbytes,by omega,?_⟩
    by_contra hstrict
    simp only [not_or,not_not] at hstrict
    obtain ⟨hdate,hdigits,rfl⟩ := hstrict
    rw [List.append_nil] at hbytes
    exact hnone ⟨d,⟨hd,hdate,hdigits⟩,hbytes,hsecs⟩

private def stampThirtieth : DateTime := ⟨2026,2,30,84,0,0,0,none,.utc 90⟩

private theorem stampThirtieth_wellFormed : stampThirtieth.WellFormed where
  year := by decide
  month := ⟨by decide,by decide⟩
  day := by decide
  separator := .inl rfl
  hour := by decide
  minute := by decide
  second := by decide
  fraction := nofun
  zone := .inl rfl

/-- The thirtieth of February is taken for the second of March. -/
theorem timestamp_guessed : ¬TimestampExact "2026-02-30T00:00:00Z" := by
  have hguess : Guessed "2026-02-30T00:00:00Z" := by
    refine ⟨stampThirtieth,[],stampThirtieth_wellFormed,?_,?_,?_⟩
    · decide +kernel
    · decide +kernel
    · exact .inl fun hdate => absurd hdate.2.2 (by decide)
  intro hexact
  obtain ⟨t,ht,hnone⟩ := hguess.not_denotes
  exact hnone ((hexact.denotes t).mp ht)

example : rfc3339ToUnixSecs "2026-02-30T00:00:00Z" = rfc3339ToUnixSecs "2026-03-02T00:00:00Z" := by
  decide +kernel

end Exact

end RequiredRuns
end Cara
