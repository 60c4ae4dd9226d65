import Mathlib.Algebra.Order.Ring.Int
import Mathlib.Algebra.BigOperators.Group.List.Basic

/-!
# Calendar — the Gregorian calendar in seconds

Civil times and the seconds since 1970, without leap seconds.  Years are counted off by an estimate
that is wrong by one at most, months by going through their lengths.
-/

namespace Ksmppd
namespace Lib

/-! ## Blocks -/

/-- The block a position lies in, and its place there. -/
def locate : List Nat → Nat → Nat × Nat
  | [], d => (0, d)
  | n :: ns, d => if d < n then (0, d) else ((locate ns (d - n)).1 + 1, (locate ns (d - n)).2)

/-- The place is inside the block, and all blocks before it are full. -/
theorem locate_spec : ∀ {ns : List Nat} {d : Nat}, d < ns.sum →
    (locate ns d).1 < ns.length ∧ (locate ns d).2 < ns.getD (locate ns d).1 0 ∧
      (ns.take (locate ns d).1).sum + (locate ns d).2 = d := by
  intro ns
  induction ns with
  | nil =>
      intro d hd
      cases hd
  | cons n ns ih =>
      intro d hd
      by_cases hfirst : d < n
      · simp [locate, hfirst]
      · have hrest : d - n < ns.sum := by
          rw [List.sum_cons] at hd
          omega
        rcases ih hrest with ⟨hblock, hplace, hfull⟩
        simp only [locate, if_neg hfirst, List.length_cons, List.take_succ_cons, List.sum_cons,
          List.getD_cons_succ]
        exact ⟨by omega, hplace, by omega⟩

/-! ## Years -/

/-- The leap days of the years 1 to `n`. -/
def leapDays (n : Int) : Int := n / 4 - n / 100 + n / 400

/-- The days from the first of January of the year 1 to that of the year `y`. -/
def daysBeforeYear (y : Int) : Int := 365 * (y - 1) + leapDays (y - 1)

def isLeapYear (y : Int) : Bool := decide (y % 4 = 0 ∧ (y % 100 ≠ 0 ∨ y % 400 = 0))

theorem daysBeforeYear_succ (y : Int) :
    daysBeforeYear (y + 1) = daysBeforeYear y + 365 + (if isLeapYear y then 1 else 0) := by
  simp only [daysBeforeYear, leapDays, isLeapYear, decide_eq_true_eq]
  split
  · omega
  · omega

theorem leapDays_mono {y z : Int} (h : y ≤ z) : leapDays y ≤ leapDays z := by
  simp only [leapDays]
  omega

/-- Years are at least 365 days long. -/
theorem daysBeforeYear_lt {y z : Int} (h : y < z) : daysBeforeYear y + 365 ≤ daysBeforeYear z := by
  have hleap := leapDays_mono (show y - 1 ≤ z - 1 by omega)
  simp only [daysBeforeYear]
  omega

/-- The year of a day; the mean length of a year gives it up to one. -/
def yearOf (d : Int) : Int :=
  let y := 400 * d / 146097 + 1
  if d < daysBeforeYear y then y - 1
  else if daysBeforeYear (y + 1) ≤ d then y + 1
  else y

theorem yearOf_spec (d : Int) :
    daysBeforeYear (yearOf d) ≤ d ∧ d < daysBeforeYear (yearOf d + 1) := by
  unfold yearOf
  simp only
  split
  · rename_i hlow
    refine ⟨?_, by simpa using hlow⟩
    simp only [daysBeforeYear, leapDays] at hlow ⊢
    omega
  · rename_i hlow
    split
    · rename_i hhigh
      refine ⟨hhigh, ?_⟩
      simp only [daysBeforeYear, leapDays] at hlow hhigh ⊢
      omega
    · rename_i hhigh
      exact ⟨not_lt.mp hlow, not_le.mp hhigh⟩

/-! ## Months -/

def monthLengths (leap : Bool) : List Nat :=
  [31, if leap then 29 else 28, 31, 30, 31, 30, 31, 31, 30, 31, 30, 31]

/-- The days of a year before its month `m`, counted from 1. -/
def daysBeforeMonth (leap : Bool) (m : Nat) : Nat := ((monthLengths leap).take (m - 1)).sum

theorem sum_monthLengths (leap : Bool) :
    ((monthLengths leap).sum : Int) = 365 + (if leap then 1 else 0) := by
  cases leap with
  | false => rfl
  | true => rfl

/-- A leap day shifts a month by one. -/
theorem daysBeforeMonth_le (leap leap' : Bool) (m : Nat) :
    daysBeforeMonth leap m ≤ daysBeforeMonth leap' m + 1 := by
  have hwithin : ∀ k < 13, ∀ leap leap' : Bool,
      ((monthLengths leap).take k).sum ≤ ((monthLengths leap').take k).sum + 1 := by decide
  by_cases hm : m - 1 < 13
  · exact hwithin (m - 1) hm leap leap'
  · -- the whole year
    have hall : ∀ leap : Bool, (monthLengths leap).take (m - 1) = monthLengths leap := by
      intro leap
      have hlength : (monthLengths leap).length = 12 := rfl
      apply List.take_of_length_le
      omega
    simp only [daysBeforeMonth, hall]
    exact hwithin 12 (by decide) leap leap'

/-- A month starts on another day in another year. -/
theorem monthStart_ne {y z : Int} (h : y ≠ z) (m : Nat) :
    daysBeforeYear y + daysBeforeMonth (isLeapYear y) m ≠
      daysBeforeYear z + daysBeforeMonth (isLeapYear z) m := by
  have hle := daysBeforeMonth_le (isLeapYear y) (isLeapYear z) m
  have hge := daysBeforeMonth_le (isLeapYear z) (isLeapYear y) m
  rcases lt_or_gt_of_ne h with hlt | hgt
  · have hdays := daysBeforeYear_lt hlt
    omega
  · have hdays := daysBeforeYear_lt hgt
    omega

/-- The day a month starts on, where `i` counts the months of all years. -/
def monthStart (i : Int) : Int :=
  daysBeforeYear (i / 12) + daysBeforeMonth (isLeapYear (i / 12)) ((i % 12).toNat + 1)

theorem monthStart_eq (y m : Int) : monthStart (12 * y + m) =
    daysBeforeYear (y + m / 12) +
      daysBeforeMonth (isLeapYear (y + m / 12)) ((m % 12).toNat + 1) := by
  have hyear : (12 * y + m) / 12 = y + m / 12 := by omega
  have hmonth : (12 * y + m) % 12 = m % 12 := by omega
  rw [monthStart, hyear, hmonth]

/-- Inside a year the months before one are among those before the next; after December all of
them are over. -/
theorem monthStart_le_succ (i : Int) : monthStart i ≤ monthStart (i + 1) := by
  have hwithin : ∀ m < 11, ∀ leap : Bool,
      daysBeforeMonth leap (m + 1) ≤ daysBeforeMonth leap (m + 2) := by decide
  have hdecember : ∀ leap : Bool, daysBeforeMonth leap 12 ≤ 365 := by decide
  by_cases hmonth : i % 12 = 11
  · have hyear : (i + 1) / 12 = i / 12 + 1 := by omega
    have hjanuary : (i + 1) % 12 = 0 := by omega
    have hlast := hdecember (isLeapYear (i / 12))
    have hdays := daysBeforeYear_succ (i / 12)
    simp only [monthStart, hmonth, hyear, hjanuary]
    change _ + ((daysBeforeMonth _ 12 : Nat) : Int) ≤ _ + ((daysBeforeMonth _ 1 : Nat) : Int)
    omega
  · have hyear : (i + 1) / 12 = i / 12 := by omega
    have hnext : ((i + 1) % 12).toNat + 1 = (i % 12).toNat + 2 := by omega
    have hle := hwithin (i % 12).toNat (by omega) (isLeapYear (i / 12))
    rw [monthStart, monthStart, hyear, hnext]
    omega

/-- Months start one after the other. -/
theorem monthStart_mono {i j : Int} (h : i ≤ j) : monthStart i ≤ monthStart j := by
  obtain ⟨n, rfl⟩ : ∃ n : Nat, j = i + n := ⟨(j - i).toNat, by omega⟩
  clear h
  induction n with
  | zero => simp
  | succ n ih =>
      have hstep := monthStart_le_succ (i + n)
      rw [Int.natCast_succ, ← Int.add_assoc]
      exact ih.trans hstep

/-! ## Civil times -/

/-- A date and a time of day. -/
structure CivilTime where
  year : Int
  month : Nat
  day : Nat
  hour : Nat
  minute : Nat
  second : Nat
  deriving DecidableEq, Repr

/-- The day of a date, counted from the first of January of 1970. -/
def CivilTime.dayNumber (c : CivilTime) : Int :=
  daysBeforeYear c.year + daysBeforeMonth (isLeapYear c.year) c.month + c.day - 1 - 719162

/-- The seconds since the start of 1970. -/
def CivilTime.seconds (c : CivilTime) : Int :=
  86400 * c.dayNumber + 3600 * c.hour + 60 * c.minute + c.second

/-- The date and the time of day at a second. -/
def civilTime (s : Int) : CivilTime :=
  let d := s / 86400 + 719162
  let year := yearOf d
  let position := locate (monthLengths (isLeapYear year)) (d - daysBeforeYear year).toNat
  { year := year
    month := position.1 + 1
    day := position.2 + 1
    hour := (s % 86400 / 3600).toNat
    minute := (s % 3600 / 60).toNat
    second := (s % 60).toNat }

/-- A date of the calendar and a time of the day. -/
structure CivilTime.Valid (c : CivilTime) : Prop where
  month_pos : 1 ≤ c.month
  month_le : c.month ≤ 12
  day_pos : 1 ≤ c.day
  day_le : c.day ≤ (monthLengths (isLeapYear c.year)).getD (c.month - 1) 0
  hour_lt : c.hour < 24
  minute_lt : c.minute < 60
  second_lt : c.second < 60

theorem CivilTime.Valid.dayNumber_eq {c : CivilTime} (h : c.Valid) :
    c.dayNumber = monthStart (12 * c.year + (c.month - 1)) + c.day - 1 - 719162 := by
  have hpos := h.month_pos
  have hle := h.month_le
  have hyear : ((c.month : Int) - 1) / 12 = 0 := by omega
  have hmonth : (((c.month : Int) - 1) % 12).toNat + 1 = c.month := by omega
  rw [monthStart_eq, hyear, hmonth, Int.add_zero, CivilTime.dayNumber]

theorem CivilTime.Valid.seconds_ge {c : CivilTime} (h : c.Valid) (hyear : 2000 ≤ c.year) :
    946684800 ≤ c.seconds := by
  have hdays : daysBeforeYear 2000 ≤ daysBeforeYear c.year := by
    rcases hyear.eq_or_lt with heq | hlt
    · rw [← heq]
    · have hdays := daysBeforeYear_lt hlt
      omega
  have hstart : daysBeforeYear 2000 = 730119 := by decide
  have hday := h.day_pos
  simp only [CivilTime.seconds, CivilTime.dayNumber]
  omega

theorem locate_monthLengths (d : Int) :
    (d - daysBeforeYear (yearOf d)).toNat < (monthLengths (isLeapYear (yearOf d))).sum := by
  have hspec := yearOf_spec d
  have hsum := sum_monthLengths (isLeapYear (yearOf d))
  rw [daysBeforeYear_succ] at hspec
  omega

theorem valid_civilTime (s : Int) : (civilTime s).Valid := by
  rcases locate_spec (locate_monthLengths (s / 86400 + 719162)) with ⟨hmonth, hday, -⟩
  have hlength : ∀ leap, (monthLengths leap).length = 12 := fun _ => rfl
  rw [hlength] at hmonth
  refine ⟨Nat.succ_pos _, hmonth, Nat.succ_pos _, hday, ?_, ?_, ?_⟩
  · simp only [civilTime]
    omega
  · simp only [civilTime]
    omega
  · simp only [civilTime]
    omega

theorem seconds_civilTime (s : Int) : (civilTime s).seconds = s := by
  rcases locate_spec (locate_monthLengths (s / 86400 + 719162)) with ⟨-, -, hfull⟩
  have hyear := (yearOf_spec (s / 86400 + 719162)).1
  have hday : (civilTime s).dayNumber = s / 86400 := by
    simp only [CivilTime.dayNumber, daysBeforeMonth, civilTime, Nat.add_sub_cancel]
    omega
  rw [CivilTime.seconds, hday]
  simp only [civilTime]
  omega

example : civilTime 951782400 =
    { year := 2000, month := 2, day := 29, hour := 0, minute := 0, second := 0 } := by decide

end Lib
end Ksmppd
