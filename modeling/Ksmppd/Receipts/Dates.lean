import Ksmppd.Lib.Calendar
import Ksmppd.Receipts.RoundTrip

/-!
# Dates — dates of twelve digits and the clock

`smpp_time_to_c_time` takes a part of a date that is zero for one that is missing, and puts that of
the current time in its place.  But a year, an hour, a minute and a second may be zero.
-/

namespace Ksmppd
namespace Receipts

open Lib
open Redis (octstrGetCstr)

variable {c : Clock} {tm : Tm} {rest : Octstr} {ds : List ScanDirective} {offset now t n : Int}

/-! ## A clock with a fixed offset -/

/-- `struct tm` of a civil time. -/
def tmOfCivil (civil : CivilTime) : Tm where
  tmYear := civil.year - 1900
  tmMon := civil.month - 1
  tmMday := civil.day
  tmHour := civil.hour
  tmMin := civil.minute
  tmSec := civil.second
  tmIsdst := 0

/-- The day of a `struct tm`; months beyond a year count as years. -/
def Tm.dayNumber (tm : Tm) : Int :=
  let year := tm.tmYear + 1900 + tm.tmMon / 12
  daysBeforeYear year + daysBeforeMonth (isLeapYear year) ((tm.tmMon % 12).toNat + 1) +
    tm.tmMday - 1 - 719162

/-- The seconds since 1970 of a `struct tm`. -/
def Tm.seconds (tm : Tm) : Int :=
  86400 * tm.dayNumber + 3600 * tm.tmHour + 60 * tm.tmMin + tm.tmSec

/-- The clock at a time, in a time zone without summer time. -/
def fixedClock (offset now : Int) : Clock where
  time := now
  localtime := fun t => tmOfCivil (civilTime (t + offset))
  mktime := fun tm => tm.seconds - offset

/-- The parts of a broken-down time are in their ranges. -/
structure Tm.InRange (tm : Tm) : Prop where
  mon : 0 ≤ tm.tmMon ∧ tm.tmMon ≤ 11
  mday : 1 ≤ tm.tmMday ∧ tm.tmMday ≤ 31
  hour : 0 ≤ tm.tmHour ∧ tm.tmHour ≤ 23
  min : 0 ≤ tm.tmMin ∧ tm.tmMin ≤ 59
  sec : 0 ≤ tm.tmSec ∧ tm.tmSec ≤ 59

theorem inRange_localtime (offset now t : Int) : ((fixedClock offset now).localtime t).InRange := by
  have hvalid := valid_civilTime (t + offset)
  have hlengths : ∀ leap : Bool, ∀ m < 12, (monthLengths leap).getD m 0 ≤ 31 := by decide
  have hday := hvalid.day_le.trans (hlengths _ _ (by have hle := hvalid.month_le; omega))
  rcases hvalid with ⟨hmonth, hmonth', hday', -, hhour, hminute, hsecond⟩
  refine ⟨?_, ?_, ?_, ?_, ?_⟩
  all_goals
    simp only [fixedClock, tmOfCivil]
    omega

/-- Years and months are counted in months. -/
theorem Tm.dayNumber_eq (tm : Tm) :
    tm.dayNumber = monthStart (12 * (tm.tmYear + 1900) + tm.tmMon) + tm.tmMday - 1 - 719162 := by
  rw [Tm.dayNumber, monthStart_eq]

theorem dayNumber_tmOfCivil {civil : CivilTime} (hvalid : civil.Valid) :
    (tmOfCivil civil).dayNumber = civil.dayNumber := by
  rw [Tm.dayNumber_eq, hvalid.dayNumber_eq]
  simp only [tmOfCivil, Int.sub_add_cancel]

theorem seconds_tmOfCivil {civil : CivilTime} (hvalid : civil.Valid) :
    (tmOfCivil civil).seconds = civil.seconds := by
  rw [Tm.seconds, dayNumber_tmOfCivil hvalid, CivilTime.seconds]
  rfl

/-- `gw_mktime` takes back what `gw_localtime` does. -/
theorem mktime_localtime (offset now t : Int) :
    (fixedClock offset now).mktime ((fixedClock offset now).localtime t) = t := by
  have hseconds := (seconds_tmOfCivil (valid_civilTime (t + offset))).trans
    (seconds_civilTime (t + offset))
  simp only [fixedClock, hseconds]
  omega

/-! ## Twelve digits -/

theorem atol_twoDigits (hlow : 0 ≤ n) (hhigh : n ≤ 99) : atol (twoDigits n) = n := by
  have hall : ∀ k < 100, atol (twoDigits (k : Nat)) = (k : Nat) := by decide +kernel
  have hk := hall n.toNat (by omega)
  rwa [Int.toNat_of_nonneg hlow] at hk

theorem sscanf_twoDigits (n : Int) :
    sscanf (.word 2 :: ds) (twoDigits n ++ rest) = twoDigits n :: sscanf ds rest := by
  have hspace : ∀ d < 10, isSpace (48 + UInt8.ofNat d) = false := by decide
  have htens := hspace (n.toNat / 10 % 10) (Nat.mod_lt _ (by decide))
  have hones := hspace (n.toNat % 10) (Nat.mod_lt _ (by decide))
  simp [sscanf, twoDigits, htens, hones]

theorem octstrGetCstr_gwStrftime (tm : Tm) : octstrGetCstr (gwStrftime tm) = gwStrftime tm :=
  octstrGetCstr_eq_self
    (fun b hb => ne_zero_of_isDigit ((isDlrDate_gwStrftime tm).digits b hb))

/-- The six parts of a date that was printed. -/
theorem sscanf_gwStrftime (tm : Tm) : sscanf timeFormat (gwStrftime tm) =
    [twoDigits (tm.tmYear % 100), twoDigits (tm.tmMon + 1), twoDigits tm.tmMday,
      twoDigits tm.tmHour, twoDigits tm.tmMin, twoDigits tm.tmSec] := by
  have hlast : gwStrftime tm = twoDigits (tm.tmYear % 100) ++ (twoDigits (tm.tmMon + 1) ++
      (twoDigits tm.tmMday ++ (twoDigits tm.tmHour ++ (twoDigits tm.tmMin ++
        (twoDigits tm.tmSec ++ []))))) := by
    simp only [gwStrftime, List.append_assoc, List.append_nil]
  have hformat : timeFormat = [.word 2, .word 2, .word 2, .word 2, .word 2, .word 2] := rfl
  rw [hlast, hformat, sscanf_twoDigits, sscanf_twoDigits, sscanf_twoDigits, sscanf_twoDigits,
    sscanf_twoDigits, sscanf_twoDigits]
  rfl

/-- The time a printed date is read as: that of `tm`, with the parts of now for its zeros. -/
def withoutZeros (tm now : Tm) : Tm :=
  { now with
    tmYear := if tm.tmYear = 100 then now.tmYear else tm.tmYear
    tmMon := tm.tmMon
    tmMday := tm.tmMday
    tmHour := if tm.tmHour = 0 then now.tmHour else tm.tmHour
    tmMin := if tm.tmMin = 0 then now.tmMin else tm.tmMin
    tmSec := if tm.tmSec = 0 then now.tmSec else tm.tmSec }

/-- A part that may be zero. -/
theorem part_of_zero {part value : Int} (hpart : 0 ≤ part) :
    (if part > 0 then part else value) = if part = 0 then value else part := by
  split
  · rw [if_neg (by omega)]
  · rw [if_pos (by omega)]

theorem smppTimeToCTime_gwStrftime (hrange : tm.InRange) (hlow : 100 ≤ tm.tmYear)
    (hhigh : tm.tmYear ≤ 199) :
    smppTimeToCTime c (gwStrftime tm) = c.mktime (withoutZeros tm (c.localtime c.time)) := by
  rcases hrange with ⟨⟨hmon, hmon'⟩, ⟨hmday, hmday'⟩, ⟨hhour, hhour'⟩, ⟨hmin, hmin'⟩, hsec, hsec'⟩
  have hyear : atol (twoDigits (tm.tmYear % 100)) = tm.tmYear - 100 := by
    rw [atol_twoDigits (by omega) (by omega)]
    omega
  have hmonth : atol (twoDigits (tm.tmMon + 1)) = tm.tmMon + 1 :=
    atol_twoDigits (by omega) (by omega)
  have hday : atol (twoDigits tm.tmMday) = tm.tmMday := atol_twoDigits (by omega) (by omega)
  have hhours : atol (twoDigits tm.tmHour) = tm.tmHour := atol_twoDigits hhour (by omega)
  have hminutes : atol (twoDigits tm.tmMin) = tm.tmMin := atol_twoDigits hmin (by omega)
  have hseconds : atol (twoDigits tm.tmSec) = tm.tmSec := atol_twoDigits hsec (by omega)
  have hyears : ∀ value : Int,
      (if tm.tmYear - 100 > 0 then tm.tmYear - 100 + 2000 - 1900 else value) =
        if tm.tmYear = 100 then value else tm.tmYear := by
    intro value
    split
    · rw [if_neg (by omega)]
      omega
    · rw [if_pos (by omega)]
  have hmonths : ∀ value : Int,
      (if tm.tmMon + 1 > 0 then tm.tmMon + 1 - 1 else value) = tm.tmMon := by
    intro value
    rw [if_pos (by omega), Int.add_sub_cancel]
  have hdays : ∀ value : Int, (if tm.tmMday > 0 then tm.tmMday else value) = tm.tmMday :=
    fun value => if_pos (by omega)
  simp only [smppTimeToCTime, octstrGetCstr_gwStrftime, sscanf_gwStrftime, assigned,
    List.getElem?_cons_zero, List.getElem?_cons_succ, Option.getD_some, hyear, hmonth, hday,
    hhours, hminutes, hseconds, hyears, hmonths, hdays, part_of_zero hhour, part_of_zero hmin,
    part_of_zero hsec, withoutZeros]

/-! ## Which dates come back -/

/-- The date of an instant is read as that instant, and formatted as itself. -/
structure ComesBack (c : Clock) (t : Int) : Prop where
  time : smppTimeToCTime c (gwStrftime (c.localtime t)) = t
  date : smppDatabaseFormatDlrDate c (some (gwStrftime (c.localtime t))) =
    gwStrftime (c.localtime t)

/-- Whatever is zero in a date is zero now as well. -/
structure ZeroNow (tm now : Tm) : Prop where
  year : tm.tmYear = 100 → now.tmYear = 100
  hour : tm.tmHour = 0 → now.tmHour = 0
  min : tm.tmMin = 0 → now.tmMin = 0
  sec : tm.tmSec = 0 → now.tmSec = 0

/-- What is read as the instant is formatted as its date. -/
theorem comesBack_of_time (h : smppTimeToCTime c (gwStrftime (c.localtime t)) = t) :
    ComesBack c t := by
  refine ⟨h, ?_⟩
  have hne : gwStrftime (c.localtime t) ≠ [] := by
    intro hnil
    have hlength := (isDlrDate_gwStrftime (c.localtime t)).length
    rw [hnil] at hlength
    cases hlength
  simp only [smppDatabaseFormatDlrDate, if_neg hne, h, ite_self]

/-- Times of one month and day are the same second only if nothing else differs. -/
theorem seconds_eq_iff {tm' : Tm} (h : tm.InRange) (h' : tm'.InRange)
    (hmon : tm'.tmMon = tm.tmMon) (hmday : tm'.tmMday = tm.tmMday) :
    tm'.seconds = tm.seconds ↔ tm'.tmYear = tm.tmYear ∧ tm'.tmHour = tm.tmHour ∧
      tm'.tmMin = tm.tmMin ∧ tm'.tmSec = tm.tmSec := by
  have hday : tm'.dayNumber = tm.dayNumber ↔ tm'.tmYear = tm.tmYear := by
    constructor
    · intro heq
      by_contra hne
      apply monthStart_ne (y := tm'.tmYear + 1900 + tm.tmMon / 12)
        (z := tm.tmYear + 1900 + tm.tmMon / 12) (by omega) ((tm.tmMon % 12).toNat + 1)
      simp only [Tm.dayNumber, hmon, hmday] at heq
      omega
    · intro hyear
      simp only [Tm.dayNumber, hyear, hmon, hmday]
  rw [← hday]
  rcases h with ⟨-, -, hhour, hmin, hsec⟩
  rcases h' with ⟨-, -, hhour', hmin', hsec'⟩
  simp only [Tm.seconds]
  omega

theorem inRange_withoutZeros {now : Tm} (h : tm.InRange) (hnow : now.InRange) :
    (withoutZeros tm now).InRange := by
  refine ⟨h.mon, h.mday, ?_, ?_, ?_⟩
  · simp only [withoutZeros]
    split
    · exact hnow.hour
    · exact h.hour
  · simp only [withoutZeros]
    split
    · exact hnow.min
    · exact h.min
  · simp only [withoutZeros]
    split
    · exact hnow.sec
    · exact h.sec

/-- Filling in a part that is zero changes nothing if what is filled in is zero too. -/
theorem ite_eq_self_iff {part value zero : Int} :
    (if part = zero then value else part) = part ↔ (part = zero → value = zero) := by
  by_cases hzero : part = zero
  · simp [hzero]
  · simp [hzero]

/-- From 2000 to 2099, the date of an instant comes back exactly if whatever is zero in it is zero
in the current time too. -/
theorem date_comes_back_iff (offset now t : Int)
    (hcentury : 100 ≤ ((fixedClock offset now).localtime t).tmYear ∧
      ((fixedClock offset now).localtime t).tmYear ≤ 199) :
    ComesBack (fixedClock offset now) t ↔
      ZeroNow ((fixedClock offset now).localtime t) ((fixedClock offset now).localtime now) := by
  have hrange := inRange_localtime offset now t
  have hnow := inRange_localtime offset now now
  have hread : smppTimeToCTime (fixedClock offset now)
        (gwStrftime ((fixedClock offset now).localtime t)) = t ↔
      (withoutZeros ((fixedClock offset now).localtime t)
        ((fixedClock offset now).localtime now)).seconds =
          ((fixedClock offset now).localtime t).seconds := by
    have hback := mktime_localtime offset now t
    rw [smppTimeToCTime_gwStrftime hrange hcentury.1 hcentury.2]
    simp only [fixedClock] at hback ⊢
    omega
  have hsame := seconds_eq_iff hrange (inRange_withoutZeros hrange hnow) rfl rfl
  constructor
  · intro hback
    rcases hsame.mp (hread.mp hback.time) with ⟨hyear, hhour, hmin, hsec⟩
    exact ⟨ite_eq_self_iff.mp hyear, ite_eq_self_iff.mp hhour, ite_eq_self_iff.mp hmin,
      ite_eq_self_iff.mp hsec⟩
  · intro hzero
    apply comesBack_of_time
    apply hread.mpr
    exact hsame.mpr ⟨ite_eq_self_iff.mpr hzero.year, ite_eq_self_iff.mpr hzero.hour,
      ite_eq_self_iff.mpr hzero.min, ite_eq_self_iff.mpr hzero.sec⟩

/-- `2024-01-01 12:34:56` comes back at any time. -/
theorem date_comes_back_sample : ComesBack (fixedClock 0 1704067200) 1704112496 :=
  (date_comes_back_iff 0 1704067200 1704112496 (by decide)).mpr
    ⟨by decide, by decide, by decide, by decide⟩

/-- `2024-01-01 12:34:00` is read as `12:34:30` when the clock shows thirty seconds. -/
theorem date_of_full_minute :
    (100 ≤ ((fixedClock 0 1704067230).localtime 1704112440).tmYear ∧
        ((fixedClock 0 1704067230).localtime 1704112440).tmYear ≤ 199) ∧
      ¬ ComesBack (fixedClock 0 1704067230) 1704112440 := by
  refine ⟨by decide, ?_⟩
  intro hback
  have htime := hback.time
  revert htime
  decide +kernel

end Receipts
end Ksmppd
