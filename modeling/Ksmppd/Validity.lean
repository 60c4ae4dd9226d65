import Ksmppd.Receipts.Dates
import Ksmppd.Submit.Accepted

/-!
# Validity — the validity period of a submit_sm

`timestamp_to_minutes` reads the validity period with `sscanf`, makes an instant of it by the
difference of two results of `gw_mktime`, and returns the minutes from now to that instant, rounded
up.  It returns -1 for a period it cannot read, which is a number of minutes as well.
-/

namespace Ksmppd
namespace Validity

open Lib
open Receipts (Clock Tm tmOfCivil fixedClock twoDigits)
open Redis (octstrGetCstr)

/-! ## sscanf -/

/-- Digits, at most as many as the width. -/
def scanDigits (width : Nat) (os : Octstr) : Option (Int × Octstr) :=
  let digits := (os.take width).takeWhile isDigit
  if digits = [] then none else some (leadingDigits digits, os.drop digits.length)

/-- `%Nd`, which skips white space; a sign counts for the width. -/
def scanInt (width : Nat) (os : Octstr) : Option (Int × Octstr) :=
  match os.dropWhile isSpace with
  | 45 :: rest => (scanDigits (width - 1) rest).map (fun (n, rest) => (-n, rest))
  | 43 :: rest => scanDigits (width - 1) rest
  | rest => scanDigits width rest

/-- What `"%02d%02d%02d%02d%02d%02d%1d%02d%1c"` assigns. -/
structure Scanned where
  tmYear : Int
  tmMon : Int
  tmMday : Int
  tmHour : Int
  tmMin : Int
  tmSec : Int
  dummy : Int
  diff : Int
  relation : UInt8
  deriving DecidableEq, Repr

/-- The nine values, if `sscanf` gets to the last. -/
def scanTimestamp (os : Octstr) : Option Scanned := do
  let (tmYear, os) ← scanInt 2 os
  let (tmMon, os) ← scanInt 2 os
  let (tmMday, os) ← scanInt 2 os
  let (tmHour, os) ← scanInt 2 os
  let (tmMin, os) ← scanInt 2 os
  let (tmSec, os) ← scanInt 2 os
  let (dummy, os) ← scanInt 1 os
  let (diff, os) ← scanInt 2 os
  -- `%1c` skips nothing
  let relation ← os.head?
  return { tmYear, tmMon, tmMday, tmHour, tmMin, tmSec, dummy, diff, relation }

/-! ## timestamp_to_minutes -/

/-- '+' -/
def plus : UInt8 := 43
/-- '-' -/
def minus : UInt8 := 45
/-- 'R' -/
def letterR : UInt8 := 82

/-- The clock, with `gw_gmtime`. -/
structure ZonedClock extends Clock where
  gmtime : Int → Tm

/-- `ceil(difftime(valutc, utc) / 60)`. -/
def minutesUntil (utc valutc : Int) : Int := -((utc - valutc) / 60)

/-- An `int`; what does not fit is taken to wrap around. -/
def toInt32 (n : Int) : Int := n.bmod (2 ^ 32)

/-- The date that was read, as `gw_mktime` gets it. -/
def Scanned.toTm (f : Scanned) : Tm where
  tmYear := f.tmYear + 100
  tmMon := f.tmMon - 1
  tmMday := f.tmMday
  tmHour := f.tmHour
  tmMin := f.tmMin
  tmSec := f.tmSec
  tmIsdst := -1

/-- A local time with what was read added to each of its parts. -/
def Scanned.addTo (f : Scanned) (tm : Tm) : Tm :=
  { tm with
    tmYear := tm.tmYear + f.tmYear
    tmMon := tm.tmMon + f.tmMon
    tmMday := tm.tmMday + f.tmMday
    tmHour := tm.tmHour + f.tmHour
    tmMin := tm.tmMin + f.tmMin
    tmSec := tm.tmSec + f.tmSec }

/-- `timestamp_to_minutes`. -/
def timestampToMinutes (k : ZonedClock) (timestamp : Octstr) : Int :=
  if timestamp.length = 0 then 0
  else if timestamp.length ≠ 16 then -1
  else
    match scanTimestamp (octstrGetCstr timestamp) with
    | none => -1
    | some f =>
        let utc := k.time
        if utc = -1 then 0
        else if f.relation = plus ∨ f.relation = minus then
          let valutc := k.mktime f.toTm
          if valutc = -1 then -1
          else
            -- `gw_mktime` has taken the date for one in local time
            let localdiff := k.mktime { k.localtime utc with tmIsdst := -1 } -
              k.mktime { k.gmtime utc with tmIsdst := -1 }
            let diff := f.diff * 15 * 60
            toInt32 (minutesUntil utc (if f.relation = plus then valutc + localdiff - diff
              else valutc + localdiff + diff))
        else if f.relation = letterR then
          let valutc := k.mktime (f.addTo (k.localtime utc))
          if valutc = -1 then -1 else toInt32 (minutesUntil utc valutc)
        else -1

/-! ## The clock of a time zone -/

/-- The seconds by which local time is ahead of UTC; a time zone has less than 25 hours. -/
structure UtcOffset where
  seconds : Int
  bound : -90000 < seconds ∧ seconds < 90000

/-- Exact functions for a fixed offset. -/
def zonedClock (offset : UtcOffset) (now : Int) : ZonedClock :=
  { fixedClock offset.seconds now with gmtime := fun t => tmOfCivil (civilTime t) }

/-- A conversion with this clock. -/
def atTime (k : Kannel) (offset : UtcOffset) (now : Int) : Kannel :=
  { k with
    time := now
    timestampToMinutes := timestampToMinutes (zonedClock offset now) }

/-! ## Times as SMPP writes them -/

/-- `YYMMDDhhmmsstnnp`. -/
def formatTime (year month day hour minute second tenths quarters : Int) (relation : UInt8) :
    Octstr :=
  twoDigits year ++ (twoDigits month ++ (twoDigits day ++ (twoDigits hour ++ (twoDigits minute ++
    (twoDigits second ++ (48 + UInt8.ofNat tenths.toNat) :: (twoDigits quarters ++
      [relation]))))))

/-- A date of this century, with the quarter hours by which it is ahead of UTC or behind.  The
tenths of a second are not used. -/
structure AbsoluteTime where
  civil : CivilTime
  valid : civil.Valid
  century : 2000 ≤ civil.year ∧ civil.year ≤ 2099
  tenths : Fin 10
  quarters : Fin 49
  ahead : Bool

/-- A period from now on; only the nine numbers before the 'R' are bounded. -/
structure RelativeTime where
  years : Fin 100
  months : Fin 100
  days : Fin 100
  hours : Fin 100
  minutes : Fin 100
  seconds : Fin 100
  tenths : Fin 10
  quarters : Fin 100

inductive SmppTime
  | absolute (t : AbsoluteTime)
  | relative (t : RelativeTime)

def AbsoluteTime.format (t : AbsoluteTime) : Octstr :=
  formatTime (t.civil.year - 2000) t.civil.month t.civil.day t.civil.hour t.civil.minute
    t.civil.second t.tenths t.quarters (if t.ahead then plus else minus)

def RelativeTime.format (t : RelativeTime) : Octstr :=
  formatTime t.years t.months t.days t.hours t.minutes t.seconds t.tenths t.quarters letterR

def SmppTime.format : SmppTime → Octstr
  | .absolute t => t.format
  | .relative t => t.format

/-- The instant a date stands for. -/
def AbsoluteTime.instant (t : AbsoluteTime) : Int :=
  if t.ahead then t.civil.seconds - 900 * t.quarters else t.civil.seconds + 900 * t.quarters

/-- The instant a period ends at.  Its years and months are counted on the local calendar, the rest
of it in days, hours, minutes and seconds. -/
def RelativeTime.instant (t : RelativeTime) (offset : UtcOffset) (now : Int) : Int :=
  let start := civilTime (now + offset.seconds)
  let date := monthStart (12 * (start.year + t.years) + (start.month - 1 + t.months)) +
    (start.day + t.days) - 1 - 719162
  86400 * date + 3600 * (start.hour + t.hours) + 60 * (start.minute + t.minutes) +
    (start.second + t.seconds) - offset.seconds

def SmppTime.instant (offset : UtcOffset) (now : Int) : SmppTime → Int
  | .absolute t => t.instant
  | .relative t => t.instant offset now

/-! ## What a validity should be -/

/-- The validity of a message lies in the minute that starts with the instant its period denotes; a
malformed period gives no validity that has passed. -/
structure KeepsValidity (offset : UtcOffset) (now : Int) (text : Octstr) (validity : Int) :
    Prop where
  wellFormed : ∀ t : SmppTime, t.format = text →
    t.instant offset now ≤ validity ∧ validity < t.instant offset now + 60
  malformed : (∀ t : SmppTime, t.format ≠ text) → now ≤ validity

/-- The time `gw_mktime` gives for what was read. -/
def Scanned.mktime (f : Scanned) (offset : UtcOffset) (now : Int) : Int :=
  if f.relation = letterR then
    (f.addTo (tmOfCivil (civilTime (now + offset.seconds)))).seconds - offset.seconds
  else f.toTm.seconds - offset.seconds

/-- The instant that what was read stands for. -/
def Scanned.instant (f : Scanned) (offset : UtcOffset) (now : Int) : Option Int :=
  if f.relation = plus then some (f.toTm.seconds - 900 * f.diff)
  else if f.relation = minus then some (f.toTm.seconds + 900 * f.diff)
  else if f.relation = letterR then some (f.mktime offset now)
  else none

/-- The seconds up to an instant can be counted by an `int`, in whole minutes, and neither the
instant nor now is taken for a failure. -/
def WithinReach (now v : Int) : Prop :=
  (now ≠ -1 ∧ v ≠ -1 ∧ -2147483700 < v - now ∧ v - now ≤ 2147483640) ∨ (now = -1 ∧ v = -1)

/-- A malformed period is empty, or `sscanf` gets nine values out of it that stand for an instant
to come, or the clock fails. -/
def ReadToCome (offset : UtcOffset) (now : Int) (text : Octstr) : Prop :=
  text = [] ∨
    (text.length = 16 ∧ ∃ f, scanTimestamp (octstrGetCstr text) = some f ∧
      (now = -1 ∨ ∃ v, f.instant offset now = some v ∧ f.mktime offset now ≠ -1 ∧
        0 ≤ toInt32 (60 * minutesUntil now v)))

def ReadsValidity (offset : UtcOffset) (now : Int) (text : Octstr) : Prop :=
  (∃ t : SmppTime, t.format = text ∧ WithinReach now (t.instant offset now)) ∨
    ((∀ t : SmppTime, t.format ≠ text) ∧ ReadToCome offset now text)

variable {offset : UtcOffset} {now v : Int} {text rest : Octstr} {f : Scanned}

/-! ## Reading back what is written -/

/-- A digit is neither white space nor a sign. -/
theorem scanInt_of_isDigit {c : UInt8} (hdigit : isDigit c = true) (width : Nat) (os : Octstr) :
    scanInt width (c :: os) = scanDigits width (c :: os) := by
  have hspace : isSpace c = false := by
    cases hspace : isSpace c with
    | false => rfl
    | true =>
        simp only [isDigit, isSpace, Bool.and_eq_true, Bool.or_eq_true, beq_iff_eq,
          decide_eq_true_eq, UInt8.le_iff_toNat_le] at hdigit hspace
        rcases hspace with rfl | hcontrol
        · exact absurd hdigit.1 (by decide)
        · have hlow : 48 ≤ c.toNat := hdigit.1
          have hhigh : c.toNat ≤ 13 := hcontrol.2
          omega
  have hsigns : c ≠ 45 ∧ c ≠ 43 := by
    constructor
    · rintro rfl
      exact absurd hdigit (by decide)
    · rintro rfl
      exact absurd hdigit (by decide)
  simp only [scanInt, List.dropWhile_cons, hspace, Bool.false_eq_true, if_false]
  split
  · rename_i heq
    exact absurd (List.cons.inj heq).1 hsigns.1
  · rename_i heq
    exact absurd (List.cons.inj heq).1 hsigns.2
  · rfl

theorem scanDigits_append {digits : Octstr} (hdigits : ∀ c ∈ digits, isDigit c = true)
    (hne : digits ≠ []) :
    scanDigits digits.length (digits ++ rest) = some (leadingDigits digits, rest) := by
  have htake : ((digits ++ rest).take digits.length).takeWhile isDigit = digits := by
    rw [List.take_left', List.takeWhile_eq_self_iff.mpr hdigits]
    rfl
  simp only [scanDigits, htake, if_neg hne, List.drop_left]

/-- The range of a number of two digits. -/
def TwoDigits (n : Int) : Prop := 0 ≤ n ∧ n ≤ 99

theorem scanInt_twoDigits {n : Int} (h : TwoDigits n) :
    scanInt 2 (twoDigits n ++ rest) = some (n, rest) := by
  rcases h with ⟨hlow, hhigh⟩
  have hvalue : ∀ k < 100, leadingDigits (twoDigits (k : Nat)) = (k : Nat) := by decide +kernel
  have hn := hvalue n.toNat (by omega)
  rw [Int.toNat_of_nonneg hlow] at hn
  have hdigits := fun c hc => @Receipts.isDigit_of_mem_twoDigits n c hc
  have hscan := @scanDigits_append rest (twoDigits n) hdigits (List.cons_ne_nil _ _)
  rw [hn] at hscan
  exact (scanInt_of_isDigit (hdigits _ List.mem_cons_self) 2 _).trans hscan

theorem scanInt_tenths (t : Fin 10) :
    scanInt 1 ((48 + UInt8.ofNat ((t : Nat) : Int).toNat) :: rest) =
      some (((t : Nat) : Int), rest) := by
  have hdigit : ∀ t : Fin 10, isDigit (48 + UInt8.ofNat ((t : Nat) : Int).toNat) = true ∧
      leadingDigits [48 + UInt8.ofNat ((t : Nat) : Int).toNat] = ((t : Nat) : Int) := by decide
  have hscan := @scanDigits_append rest [48 + UInt8.ofNat ((t : Nat) : Int).toNat] (by
    intro c hc
    rw [List.mem_singleton.mp hc]
    exact (hdigit t).1) (List.cons_ne_nil _ _)
  rw [(hdigit t).2] at hscan
  exact (scanInt_of_isDigit (hdigit t).1 1 rest).trans hscan

theorem scanTimestamp_formatTime {year month day hour minute second quarters : Int}
    (hyear : TwoDigits year) (hmonth : TwoDigits month) (hday : TwoDigits day)
    (hhour : TwoDigits hour) (hminute : TwoDigits minute) (hsecond : TwoDigits second)
    (tenths : Fin 10) (hquarters : TwoDigits quarters) (relation : UInt8) :
    scanTimestamp (formatTime year month day hour minute second ((tenths : Nat) : Int) quarters
        relation) =
      some ⟨year, month, day, hour, minute, second, ((tenths : Nat) : Int), quarters,
        relation⟩ := by
  simp only [scanTimestamp, formatTime, scanInt_twoDigits hyear, scanInt_twoDigits hmonth,
    scanInt_twoDigits hday, scanInt_twoDigits hhour, scanInt_twoDigits hminute,
    scanInt_twoDigits hsecond, scanInt_tenths, scanInt_twoDigits hquarters, Option.bind_eq_bind,
    Option.bind_some, List.head?_cons, Option.pure_def]

/-- There is no `NUL` in what is written. -/
theorem octstrGetCstr_formatTime {year month day hour minute second quarters : Int}
    {tenths : Fin 10} {relation : UInt8} (hrelation : relation ≠ 0) :
    octstrGetCstr (formatTime year month day hour minute second ((tenths : Nat) : Int) quarters
        relation) =
      formatTime year month day hour minute second ((tenths : Nat) : Int) quarters relation := by
  have htenths : ∀ t : Fin 10, 48 + UInt8.ofNat ((t : Nat) : Int).toNat ≠ 0 := by decide
  have htwo : ∀ {n : Int} {c : UInt8}, c ∈ twoDigits n → c ≠ 0 := fun hc =>
    Receipts.ne_zero_of_isDigit (Receipts.isDigit_of_mem_twoDigits hc)
  apply Receipts.octstrGetCstr_eq_self
  intro c hc
  simp only [formatTime, List.mem_append, List.mem_cons, List.not_mem_nil, or_false] at hc
  rcases hc with hc | hc | hc | hc | hc | hc | rfl | hc | rfl
  all_goals first
    | exact htwo hc
    | exact htenths _
    | exact hrelation

/-! ## What timestamp_to_minutes returns -/

theorem seconds_civil (t : Int) : (tmOfCivil (civilTime t)).seconds = t :=
  (Receipts.seconds_tmOfCivil (valid_civilTime t)).trans (seconds_civilTime t)

/-- The two results of `gw_mktime` differ by the offset. -/
theorem localdiff_eq (offset : UtcOffset) (now : Int) :
    (zonedClock offset now).mktime
        { (zonedClock offset now).localtime now with tmIsdst := -1 } -
      (zonedClock offset now).mktime
        { (zonedClock offset now).gmtime now with tmIsdst := -1 } = offset.seconds := by
  have hlocal := seconds_civil (now + offset.seconds)
  have hutc := seconds_civil now
  change ((tmOfCivil (civilTime (now + offset.seconds))).seconds - offset.seconds) -
    ((tmOfCivil (civilTime now)).seconds - offset.seconds) = offset.seconds
  omega

/-- Where nine values are read, the minutes are those to the instant they stand for. -/
theorem timestampToMinutes_scanned (hlength : text.length = 16)
    (hscan : scanTimestamp (octstrGetCstr text) = some f) :
    timestampToMinutes (zonedClock offset now) text =
      if now = -1 then 0
      else match f.instant offset now with
        | none => -1
        | some v => if f.mktime offset now = -1 then -1 else toInt32 (minutesUntil now v) := by
  have hdate : (zonedClock offset now).mktime f.toTm = f.toTm.seconds - offset.seconds := rfl
  have hperiod : (zonedClock offset now).mktime
      (f.addTo ((zonedClock offset now).localtime now)) =
        (f.addTo (tmOfCivil (civilTime (now + offset.seconds)))).seconds - offset.seconds := rfl
  have htime : (zonedClock offset now).time = now := rfl
  have hplus : plus ≠ letterR ∧ minus ≠ letterR ∧ minus ≠ plus := by decide
  simp only [timestampToMinutes, hlength, OfNat.ofNat_ne_zero, if_false, ne_eq, not_true_eq_false,
    hscan, htime, hdate, hperiod, localdiff_eq]
  by_cases hnow : now = -1
  · rw [if_pos hnow, if_pos hnow]
  · rw [if_neg hnow, if_neg hnow]
    -- the offset that `gw_mktime` takes off comes back with `localdiff`
    have hdiff : f.diff * 15 * 60 = 900 * f.diff := by omega
    by_cases hahead : f.relation = plus
    · simp [Scanned.instant, Scanned.mktime, hahead, hplus, hdiff]
    · by_cases hbehind : f.relation = minus
      · simp [Scanned.instant, Scanned.mktime, hbehind, hplus, hdiff]
      · by_cases hrelative : f.relation = letterR
        · simp [Scanned.instant, Scanned.mktime, hrelative, Ne.symm hplus.1, Ne.symm hplus.2.1]
        · simp [Scanned.instant, hahead, hbehind, hrelative]

/-! ## What is read of a well-formed period -/

def AbsoluteTime.scanned (t : AbsoluteTime) : Scanned where
  tmYear := t.civil.year - 2000
  tmMon := t.civil.month
  tmMday := t.civil.day
  tmHour := t.civil.hour
  tmMin := t.civil.minute
  tmSec := t.civil.second
  dummy := (t.tenths : Nat)
  diff := (t.quarters : Nat)
  relation := if t.ahead then plus else minus

def RelativeTime.scanned (t : RelativeTime) : Scanned where
  tmYear := (t.years : Nat)
  tmMon := (t.months : Nat)
  tmMday := (t.days : Nat)
  tmHour := (t.hours : Nat)
  tmMin := (t.minutes : Nat)
  tmSec := (t.seconds : Nat)
  dummy := (t.tenths : Nat)
  diff := (t.quarters : Nat)
  relation := letterR

def SmppTime.scanned : SmppTime → Scanned
  | .absolute t => t.scanned
  | .relative t => t.scanned

theorem twoDigits_fin (n : Fin 100) : TwoDigits ((n : Nat) : Int) := by
  have hlt := n.isLt
  exact ⟨by omega, by omega⟩

theorem AbsoluteTime.scan_format (t : AbsoluteTime) :
    scanTimestamp (octstrGetCstr t.format) = some t.scanned := by
  have hrelation : (if t.ahead then plus else minus) ≠ 0 := by
    split
    · decide
    · decide
  have hcentury := t.century
  have hlengths : ∀ leap : Bool, ∀ m < 12, (monthLengths leap).getD m 0 ≤ 31 := by decide
  have hquarters := t.quarters.isLt
  rcases t.valid with ⟨hmonth, hmonth', hday, hday', hhour, hminute, hsecond⟩
  have hmonthDays := hday'.trans (hlengths (isLeapYear t.civil.year) (t.civil.month - 1) (by omega))
  rw [AbsoluteTime.format, octstrGetCstr_formatTime hrelation]
  refine scanTimestamp_formatTime ?_ ?_ ?_ ?_ ?_ ?_ t.tenths ?_ _
  all_goals
    constructor
    · omega
    · omega

theorem RelativeTime.scan_format (t : RelativeTime) :
    scanTimestamp (octstrGetCstr t.format) = some t.scanned := by
  rw [RelativeTime.format, octstrGetCstr_formatTime (by decide)]
  exact scanTimestamp_formatTime (twoDigits_fin _) (twoDigits_fin _) (twoDigits_fin _)
    (twoDigits_fin _) (twoDigits_fin _) (twoDigits_fin _) t.tenths (twoDigits_fin _) letterR

theorem SmppTime.scan_format (t : SmppTime) :
    scanTimestamp (octstrGetCstr t.format) = some t.scanned := by
  cases t with
  | absolute t => exact t.scan_format
  | relative t => exact t.scan_format

theorem SmppTime.length_format (t : SmppTime) : t.format.length = 16 := by
  cases t with
  | absolute t => rfl
  | relative t => rfl

theorem AbsoluteTime.seconds_toTm (t : AbsoluteTime) :
    t.scanned.toTm.seconds = t.civil.seconds := by
  have htm : t.scanned.toTm = { tmOfCivil t.civil with tmIsdst := -1 } := by
    simp only [Scanned.toTm, AbsoluteTime.scanned, tmOfCivil, Tm.mk.injEq, and_true]
    omega
  rw [htm]
  exact Receipts.seconds_tmOfCivil t.valid

/-- The parts of a period are added to those of the local time. -/
theorem RelativeTime.mktime_eq (t : RelativeTime) :
    t.scanned.mktime offset now = t.instant offset now := by
  have hyear : ∀ y y' : Int, y - 1900 + y' + 1900 = y + y' := by omega
  simp only [Scanned.mktime, RelativeTime.scanned, if_true, Scanned.addTo, tmOfCivil, Tm.seconds,
    Receipts.Tm.dayNumber_eq, hyear, RelativeTime.instant]

theorem SmppTime.instant_scanned (t : SmppTime) :
    t.scanned.instant offset now = some (t.instant offset now) := by
  have hsigns : minus ≠ plus ∧ letterR ≠ plus ∧ letterR ≠ minus := by decide
  cases t with
  | absolute t =>
      have hseconds := t.seconds_toTm
      cases hahead : t.ahead with
      | true =>
          have hrelation : t.scanned.relation = plus := by simp [AbsoluteTime.scanned, hahead]
          simp only [SmppTime.scanned, Scanned.instant, if_pos hrelation, hseconds,
            SmppTime.instant, AbsoluteTime.instant, hahead, if_true]
          rfl
      | false =>
          have hrelation : t.scanned.relation = minus := by simp [AbsoluteTime.scanned, hahead]
          have hne : t.scanned.relation ≠ plus := by
            rw [hrelation]
            exact hsigns.1
          simp only [SmppTime.scanned, Scanned.instant, if_pos hrelation, if_neg hne, hseconds,
            SmppTime.instant, AbsoluteTime.instant, hahead, Bool.false_eq_true, if_false]
          rfl
  | relative t =>
      have hrelation : t.scanned.relation = letterR := rfl
      simp only [SmppTime.scanned, Scanned.instant, hrelation, if_neg hsigns.2.1,
        if_neg hsigns.2.2, if_true, t.mktime_eq, SmppTime.instant]

/-- A period does not end before it begins, and a date of this century is later than 1970. -/
theorem SmppTime.instant_ge (t : SmppTime) :
    now ≤ t.instant offset now ∨ 0 ≤ t.instant offset now := by
  cases t with
  | absolute t =>
      right
      have hseconds := t.valid.seconds_ge t.century.1
      have hquarters := t.quarters.isLt
      simp only [SmppTime.instant, AbsoluteTime.instant]
      split
      · omega
      · omega
  | relative t =>
      left
      -- whole months lead to a later start of a month, whatever the lengths of the months are
      have hvalid := valid_civilTime (now + offset.seconds)
      have hstart := seconds_civilTime (now + offset.seconds)
      have hlater := @monthStart_mono
        (12 * (civilTime (now + offset.seconds)).year +
          ((civilTime (now + offset.seconds)).month - 1))
        (12 * ((civilTime (now + offset.seconds)).year + (t.years : Nat)) +
          ((civilTime (now + offset.seconds)).month - 1 + (t.months : Nat))) (by omega)
      rw [CivilTime.seconds, hvalid.dayNumber_eq] at hstart
      simp only [SmppTime.instant, RelativeTime.instant]
      omega

/-- `gw_mktime` gives -1 for a well-formed period only if that is its instant. -/
theorem SmppTime.mktime_scanned (t : SmppTime) :
    t.scanned.mktime offset now = -1 ↔ t.instant offset now = -1 := by
  cases t with
  | absolute t =>
      have hseconds := t.valid.seconds_ge t.century.1
      have hbound := offset.bound
      have hquarters := t.quarters.isLt
      have hmktime : t.scanned.mktime offset now = t.civil.seconds - offset.seconds := by
        have hne : t.scanned.relation ≠ letterR := by
          simp only [AbsoluteTime.scanned]
          split
          · decide
          · decide
        simp only [Scanned.mktime, if_neg hne, t.seconds_toTm]
      simp only [SmppTime.scanned, hmktime, SmppTime.instant, AbsoluteTime.instant]
      split
      · omega
      · omega
  | relative t => rw [SmppTime.scanned, t.mktime_eq, SmppTime.instant]

/-- A period that is not empty and cannot be read. -/
theorem timestampToMinutes_unread (hempty : text ≠ [])
    (hunread : text.length = 16 → scanTimestamp (octstrGetCstr text) = none) :
    timestampToMinutes (zonedClock offset now) text = -1 := by
  have hpos : ¬ text.length = 0 := fun h => hempty (List.length_eq_zero_iff.mp h)
  by_cases hlength : text.length = 16
  · simp [timestampToMinutes, hlength, hunread hlength]
  · simp [timestampToMinutes, hpos, hlength]

/-! ## The validity of a message -/

theorem validity_given {k : Kannel} {esme : SmppEsme} {p : SubmitSm} {msg : Sms}
    (hperiod : p.validityPeriod = some text)
    (hconverted : smppSubmitSmToMsg (atTime k offset now) esme p = some (.ok msg)) :
    msg.validity = now + toInt32 (60 * timestampToMinutes (zonedClock offset now) text) := by
  rcases Option.map_eq_some_iff.mp hconverted with ⟨r, -, hr⟩
  cases r with
  | error reason => cases hr
  | ok m =>
      cases hr
      simp only [withSubmitFields, hperiod, atTime, toInt32, Int.mul_comm 60]

/-- The product is that of the minutes, however they were cut. -/
theorem toInt32_mul (m : Int) : toInt32 (60 * toInt32 m) = toInt32 (60 * m) := by
  simp only [toInt32, Int.mul_comm 60]
  exact Int.bmod_mul_bmod

/-- An `int` differs by a multiple of its size from what it stands for. -/
theorem toInt32_spec (n : Int) : ∃ j : Int, toInt32 n = n + 4294967296 * j ∧
    -2147483648 ≤ toInt32 n ∧ toInt32 n < 2147483648 := by
  refine ⟨-(n.bdiv (2 ^ 32)), ?_, ?_⟩
  · have hdiv := Int.bmod_add_bdiv n (2 ^ 32)
    simp only [toInt32]
    omega
  · constructor
    · exact Int.le_bmod (by decide)
    · exact Int.bmod_lt (by decide)

/-- Counted in whole minutes, an instant is hit within a minute exactly if an `int` holds the
seconds. -/
theorem minute_hit_iff : (v ≤ now + toInt32 (60 * minutesUntil now v) ∧
      now + toInt32 (60 * minutesUntil now v) < v + 60) ↔
    -2147483700 < v - now ∧ v - now ≤ 2147483640 := by
  -- within a minute of the right value no other multiple of the size of an `int` fits
  rcases toInt32_spec (60 * minutesUntil now v) with ⟨j, hj, hlow, hhigh⟩
  simp only [minutesUntil] at hj hlow hhigh ⊢
  omega

/-! ## Which periods are kept -/

theorem toInt32_zero : toInt32 (60 * 0) = 0 := by decide

theorem toInt32_failure : toInt32 (60 * -1) = -60 := by decide

theorem wellFormed_iff (t : SmppTime) :
    (t.instant offset now ≤
        now + toInt32 (60 * timestampToMinutes (zonedClock offset now) t.format) ∧
      now + toInt32 (60 * timestampToMinutes (zonedClock offset now) t.format) <
        t.instant offset now + 60) ↔ WithinReach now (t.instant offset now) := by
  have hge := @SmppTime.instant_ge offset now t
  rw [timestampToMinutes_scanned t.length_format t.scan_format, t.instant_scanned]
  by_cases hnow : now = -1
  · -- no minutes are added, and the instant is no earlier than now
    rw [if_pos hnow, toInt32_zero]
    simp only [WithinReach]
    omega
  · rw [if_neg hnow]
    simp only [t.mktime_scanned]
    by_cases hv : t.instant offset now = -1
    · -- the instant is taken for a failure, and the validity is a minute before now
      rw [if_pos hv, toInt32_failure]
      simp only [WithinReach]
      omega
    · rw [if_neg hv, toInt32_mul, minute_hit_iff]
      simp only [WithinReach]
      omega

/-- What was read gives a validity to come. -/
theorem scanned_iff (hlength : text.length = 16)
    (hscan : scanTimestamp (octstrGetCstr text) = some f) :
    0 ≤ toInt32 (60 * timestampToMinutes (zonedClock offset now) text) ↔
      (now = -1 ∨ ∃ v, f.instant offset now = some v ∧ f.mktime offset now ≠ -1 ∧
        0 ≤ toInt32 (60 * minutesUntil now v)) := by
  have hfailure : ¬ 0 ≤ toInt32 (60 * -1) := by decide
  rw [timestampToMinutes_scanned hlength hscan]
  by_cases hnow : now = -1
  · rw [if_pos hnow]
    exact iff_of_true (by decide) (Or.inl hnow)
  · rw [if_neg hnow]
    cases hv : f.instant offset now with
    | none => exact iff_of_false hfailure (by simp [hnow])
    | some v =>
        by_cases hmktime : f.mktime offset now = -1
        · simp only [if_pos hmktime]
          exact iff_of_false hfailure (by simp [hnow, hmktime])
        · simp only [if_neg hmktime, toInt32_mul]
          simp [hnow, hmktime]

theorem malformed_iff :
    0 ≤ toInt32 (60 * timestampToMinutes (zonedClock offset now) text) ↔
      ReadToCome offset now text := by
  by_cases hempty : text = []
  · subst hempty
    have hminutes : timestampToMinutes (zonedClock offset now) [] = 0 := rfl
    rw [hminutes]
    exact iff_of_true (by decide) (Or.inl rfl)
  · by_cases hread : text.length = 16 ∧ (scanTimestamp (octstrGetCstr text)).isSome
    · rcases hread with ⟨hlength, hsome⟩
      rcases Option.isSome_iff_exists.mp hsome with ⟨f, hf⟩
      rw [scanned_iff hlength hf]
      simp [ReadToCome, hempty, hlength, hf]
    · have hunread : text.length = 16 → scanTimestamp (octstrGetCstr text) = none := by
        intro hlength
        exact Option.not_isSome_iff_eq_none.mp (fun hsome => hread ⟨hlength, hsome⟩)
      rw [timestampToMinutes_unread hempty hunread]
      refine iff_of_false (by decide) ?_
      rintro (h | ⟨hlength, f, hf, -⟩)
      · exact hempty h
      · exact hread ⟨hlength, by rw [hf]; rfl⟩

/-- Two times that are written alike are read alike. -/
theorem instant_of_format {t u : SmppTime} (h : t.format = u.format) :
    t.instant offset now = u.instant offset now := by
  have hscanned : t.scanned = u.scanned := by
    have hread := t.scan_format
    rw [h, u.scan_format] at hread
    exact (Option.some.inj hread).symm
  have hinstant := @SmppTime.instant_scanned offset now t
  rw [hscanned, u.instant_scanned] at hinstant
  exact (Option.some.inj hinstant).symm

/-- The validity of a message is as its period says exactly if the period is well formed and an
`int` holds the seconds to its instant, or if it is malformed and still read as one to come. -/
theorem validity_kept_iff (k : Kannel) (offset : UtcOffset) (now : Int) {esme : SmppEsme}
    {p : SubmitSm} {msg : Sms} {text : Octstr} (hperiod : p.validityPeriod = some text)
    (hconverted : smppSubmitSmToMsg (atTime k offset now) esme p = some (.ok msg)) :
    KeepsValidity offset now text msg.validity ↔ ReadsValidity offset now text := by
  rw [validity_given hperiod hconverted]
  by_cases hwritten : ∃ t : SmppTime, t.format = text
  · rcases hwritten with ⟨t, rfl⟩
    have hreach := @wellFormed_iff offset now t
    constructor
    · intro h
      exact Or.inl ⟨t, rfl, hreach.mp (h.wellFormed t rfl)⟩
    · rintro (⟨u, hu, hwithin⟩ | ⟨hnone, -⟩)
      · rw [instant_of_format hu] at hwithin
        refine ⟨?_, fun hnone => absurd rfl (hnone t)⟩
        intro u' hu'
        rw [instant_of_format hu']
        exact hreach.mpr hwithin
      · exact absurd rfl (hnone t)
  · have hnone : ∀ t : SmppTime, t.format ≠ text := fun t ht => hwritten ⟨t, ht⟩
    have hread := @malformed_iff offset now text
    constructor
    · intro h
      have hlater := h.malformed hnone
      exact Or.inr ⟨hnone, hread.mp (by omega)⟩
    · rintro (⟨t, ht, -⟩ | ⟨-, hcome⟩)
      · exact absurd ht (hnone t)
      · have hlater := hread.mpr hcome
        exact ⟨fun t ht => absurd ht (hnone t), fun _ => by omega⟩

def utc : UtcOffset := ⟨0, by decide⟩

/-- A submit_sm with a validity period. -/
def withPeriod (text : Octstr) : SubmitSm :=
  { Submit.sampleSubmitSm with validityPeriod := some text }

theorem withPeriod_converted (now : Int) (text : Octstr) :
    ∃ msg, smppSubmitSmToMsg (atTime Submit.sampleKannel utc now) (smppEsmeCreate 0)
      (withPeriod text) = some (.ok msg) := by
  have hsource : smppPduUtilConvertAddr (some (octstrImm "1000")) 0 =
      .ok (some (octstrImm "1000")) := rfl
  have hdest : smppPduUtilConvertAddr (some (octstrImm "0031600000000")) 1 =
      .ok (some (octstrImm "+31600000000")) := rfl
  simp [smppSubmitSmToMsg, withPeriod, Submit.sampleSubmitSm, smToMsg, hsource, hdest, convertText,
    SmFields.segmented, hasBit, Except.map]

/-- One day from now. -/
def oneDay : RelativeTime where
  years := 0
  months := 0
  days := 1
  hours := 0
  minutes := 0
  seconds := 0
  tenths := 0
  quarters := 0

/-- The last second of 2099. -/
def endOf2099 : AbsoluteTime where
  civil := { year := 2099, month := 12, day := 31, hour := 23, minute := 59, second := 59 }
  valid := ⟨by decide, by decide, by decide, by decide, by decide, by decide, by decide⟩
  century := by decide
  tenths := 0
  quarters := 0
  ahead := true

/-- At the start of 2024, a day is kept. -/
theorem validity_kept_sample :
    ∃ msg, smppSubmitSmToMsg (atTime Submit.sampleKannel utc 1704067200) (smppEsmeCreate 0)
        (withPeriod (octstrImm "000001000000000R")) = some (.ok msg) ∧
      KeepsValidity utc 1704067200 (octstrImm "000001000000000R") msg.validity := by
  rcases withPeriod_converted 1704067200 (octstrImm "000001000000000R") with ⟨msg, hmsg⟩
  refine ⟨msg, hmsg, (validity_kept_iff _ _ _ rfl hmsg).mpr (Or.inl ⟨.relative oneDay, ?_, ?_⟩)⟩
  · decide
  · have hinstant : (SmppTime.relative oneDay).instant utc 1704067200 = 1704153600 := by decide
    rw [hinstant]
    exact Or.inl ⟨by decide, by decide, by decide, by decide⟩

/-- At the start of 2024, a period of ten digits gives a validity that passed a minute ago, and the
end of 2099 one that passed before 1970, as its seconds do not fit. -/
theorem period_gives_passed_validity :
    (∃ msg, smppSubmitSmToMsg (atTime Submit.sampleKannel utc 1704067200) (smppEsmeCreate 0)
        (withPeriod (octstrImm "2401020000")) = some (.ok msg) ∧
      msg.validity = 1704067140 ∧
      ¬ KeepsValidity utc 1704067200 (octstrImm "2401020000") msg.validity) ∧
    ∃ msg, smppSubmitSmToMsg (atTime Submit.sampleKannel utc 1704067200) (smppEsmeCreate 0)
        (withPeriod (octstrImm "991231235959000+")) = some (.ok msg) ∧
      msg.validity < 1704067200 ∧
      ¬ KeepsValidity utc 1704067200 (octstrImm "991231235959000+") msg.validity := by
  constructor
  · rcases withPeriod_converted 1704067200 (octstrImm "2401020000") with ⟨msg, hmsg⟩
    have hvalidity : msg.validity = 1704067140 :=
      (validity_given rfl hmsg).trans (by decide)
    refine ⟨msg, hmsg, hvalidity, ?_⟩
    intro hkept
    have hmalformed := hkept.malformed (fun t ht =>
      absurd (t.length_format.symm.trans (congrArg List.length ht)) (by decide))
    rw [hvalidity] at hmalformed
    exact absurd hmalformed (by decide)
  · rcases withPeriod_converted 1704067200 (octstrImm "991231235959000+") with ⟨msg, hmsg⟩
    have hvalidity : msg.validity = -192522496 :=
      (validity_given rfl hmsg).trans (by decide)
    refine ⟨msg, hmsg, by rw [hvalidity]; decide, ?_⟩
    intro hkept
    have hlate := (hkept.wellFormed (.absolute endOf2099) (by decide)).1
    have hinstant : (SmppTime.absolute endOf2099).instant utc 1704067200 = 4102444799 := by decide
    rw [hvalidity, hinstant] at hlate
    exact absurd hlate (by decide)

end Validity
end Ksmppd
