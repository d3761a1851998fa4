import Mathlib

namespace BdPay.Ledger

/-! Working days of the Bangladesh Bank calendar.

A date is its day number, counted from Monday 1 January of year 1. The dates of the
source end with 31 December 9999: one day further is an `OverflowError`.
-/

inductive DateError where
  | value (message : String)
  | overflow (message : String)
deriving DecidableEq, Repr

def lastDate : Nat := 3652058

/-- `day + timedelta(days=1)`. -/
def nextDate (day : Nat) : Except DateError Nat :=
  if day < lastDate then .ok (day + 1) else .error (.overflow "date value out of range")

structure BangladeshBankCalendar where
  holidays : Finset Nat

namespace BangladeshBankCalendar

variable (cal : BangladeshBankCalendar)

/-- Friday and Saturday are the weekend. -/
def isWorkingDay (day : Nat) : Bool := decide (day % 7 ∉ [4, 5]) && decide (day ∉ cal.holidays)

/-- The loop of `nextWorkingDay`: the first working day from `candidate` on. -/
def firstWorkingDay (candidate : Nat) : Except DateError Nat :=
  if cal.isWorkingDay candidate then .ok candidate
  else if candidate < lastDate then firstWorkingDay (candidate + 1)
  else nextDate candidate
termination_by lastDate - candidate

def nextWorkingDay (day : Nat) : Except DateError Nat := nextDate day >>= cal.firstWorkingDay

end BangladeshBankCalendar

variable (cal : BangladeshBankCalendar)

def advance : Nat → Nat → Except DateError Nat
  | 0, current => .ok current
  | n + 1, current => cal.nextWorkingDay current >>= advance n

def addWorkingDays (day : Nat) (n : Int) : Except DateError Nat :=
  if n < 0 then .error (.value s!"n must be >= 0, got {n}")
  else if n = 0 then if cal.isWorkingDay day then .ok day else cal.nextWorkingDay day
  else advance cal n.toNat day

/-- The loop of `businessDaysBetween`, from `current` on. The date after `last` is
formed before the loop ends. -/
def tallyWorkingDays (last current count : Nat) : Except DateError Nat :=
  if current ≤ last then
    if current < lastDate then
      tallyWorkingDays last (current + 1) (if cal.isWorkingDay current then count + 1 else count)
    else nextDate current
  else .ok count
termination_by lastDate - current

def businessDaysBetween (start last : Nat) : Except DateError Nat :=
  if last ≤ start then .ok 0
  else do
    let current ← nextDate start
    tallyWorkingDays cal last current 0

/-- The working days before a day. -/
abbrev workingDaysBefore (day : Nat) : Nat := Nat.count (fun other => cal.isWorkingDay other) day

/-- The working days after a day, up to the last date there is. -/
def workingDaysLeft (day : Nat) : Nat := workingDaysBefore cal (lastDate + 1) - workingDaysBefore cal (day + 1)

theorem workingDaysBefore_mono (ordered : left ≤ right) :
    workingDaysBefore cal left ≤ workingDaysBefore cal right := Nat.count_monotone _ ordered

theorem workingDaysBefore_succ (day : Nat) : workingDaysBefore cal (day + 1) =
    workingDaysBefore cal day + if cal.isWorkingDay day then 1 else 0 := Nat.count_succ _ _

/-- The last date is a Friday. -/
theorem lastDate_rests : cal.isWorkingDay lastDate = false := by
  simp [BangladeshBankCalendar.isWorkingDay, lastDate]

/-- The search for the working day with a given number: an overflow means that there are
fewer. -/
def Lands (number : Nat) : Except DateError Nat → Prop
  | .ok day => cal.isWorkingDay day ∧ day ≤ lastDate ∧ workingDaysBefore cal (day + 1) = number
  | .error error => error = .overflow "date value out of range" ∧
      workingDaysBefore cal (lastDate + 1) < number

theorem firstWorkingDay_lands (candidate : Nat) (bound : candidate ≤ lastDate) :
    Lands cal (workingDaysBefore cal candidate + 1) (cal.firstWorkingDay candidate) := by
  fun_induction BangladeshBankCalendar.firstWorkingDay cal candidate with
  | case1 candidate working =>
    exact ⟨working, bound, by rw [workingDaysBefore_succ, if_pos working]⟩
  | case2 candidate resting earlier found =>
    have step := workingDaysBefore_succ cal candidate
    rw [if_neg resting] at step
    rw [← Nat.add_zero (workingDaysBefore cal candidate), ← step]
    exact found earlier
  | case3 candidate resting final =>
    obtain rfl : candidate = lastDate := by omega
    rw [nextDate, if_neg final]
    have step := workingDaysBefore_succ cal lastDate
    rw [if_neg resting] at step
    exact ⟨rfl, by omega⟩

theorem nextWorkingDay_lands (day : Nat) :
    Lands cal (workingDaysBefore cal (day + 1) + 1) (cal.nextWorkingDay day) := by
  rw [BangladeshBankCalendar.nextWorkingDay, nextDate]
  split
  case isTrue earlier => exact firstWorkingDay_lands cal (day + 1) earlier
  case isFalse final =>
    exact ⟨rfl, Nat.lt_succ_of_le (workingDaysBefore_mono cal (by omega))⟩

theorem advance_lands (n day : Nat) :
    Lands cal (workingDaysBefore cal (day + 1) + (n + 1)) (advance cal (n + 1) day) := by
  induction n generalizing day with
  | zero =>
    have last : advance cal 0 = pure := rfl
    rw [advance, last, bind_pure]
    exact nextWorkingDay_lands cal day
  | succ n rest =>
    have step := nextWorkingDay_lands cal day
    rw [advance]
    cases found : cal.nextWorkingDay day with
    | error error =>
      rw [found] at step
      exact ⟨step.1, by have := step.2; omega⟩
    | ok next =>
      rw [found] at step
      have later := rest next
      rw [step.2.2, Nat.add_assoc, Nat.add_comm 1] at later
      exact later

theorem tallyWorkingDays_ok (bound : last < lastDate) (current count : Nat)
    (started : current ≤ last + 1) : tallyWorkingDays cal last current count =
      .ok (count + workingDaysBefore cal (last + 1) - workingDaysBefore cal current) := by
  fun_induction tallyWorkingDays cal last current count with
  | case1 current count running _ rest =>
    simp only [dite_eq_ite] at rest
    rw [rest (by omega), workingDaysBefore_succ cal current]
    congr 1
    split <;> omega
  | case2 current count running final => omega
  | case3 current count ended =>
    obtain rfl : current = last + 1 := by omega
    rw [Nat.add_sub_cancel]

theorem businessDaysBetween_ok (ordered : start < last) (bound : last < lastDate) : businessDaysBetween cal start last =
      .ok (workingDaysBefore cal (last + 1) - workingDaysBefore cal (start + 1)) := by
  rw [businessDaysBetween, if_neg (by omega), nextDate, if_pos (by omega)]
  rw [← Nat.zero_add (workingDaysBefore cal (last + 1))]
  exact tallyWorkingDays_ok cal bound (start + 1) 0 (by omega)

theorem addWorkingDays_lands (day : Nat) (positive : 1 ≤ n) :
    Lands cal (workingDaysBefore cal (day + 1) + n) (addWorkingDays cal day n) := by
  obtain ⟨n, rfl⟩ := Nat.exists_eq_add_of_le' positive
  rw [addWorkingDays, if_neg (by omega), if_neg (by omega), Int.toNat_natCast]
  exact advance_lands cal n day

/-- Between two landings, more working days end later. -/
theorem lt_of_workingDaysBefore_lt
    (fewer : workingDaysBefore cal (left + 1) < workingDaysBefore cal (right + 1)) : left < right := by
  by_contra reached
  have monotone := workingDaysBefore_mono cal (show right + 1 ≤ left + 1 by omega)
  omega

/-- As long as the calendar has `n` working days left, the day `n` working days ahead is a
working day, is measured as `n` days away, and moves with the day it is counted from and
with `n`. A deadline past the last date is an overflow. -/
theorem addWorkingDays_measured (day n : Nat) (positive : 1 ≤ n) :
    (workingDaysLeft cal day < n →
      addWorkingDays cal day n = .error (.overflow "date value out of range")) ∧
    (n ≤ workingDaysLeft cal day → ∃ result, addWorkingDays cal day n = .ok result ∧
      cal.isWorkingDay result ∧ businessDaysBetween cal day result = .ok n ∧
      (∀ later other, day ≤ later → addWorkingDays cal later n = .ok other → result ≤ other) ∧
      ∀ more other, n < more → addWorkingDays cal day (more : Nat) = .ok other → result < other) := by
  have lands := addWorkingDays_lands cal day positive
  cases found : addWorkingDays cal day n with
  | error error =>
    rw [found] at lands
    obtain ⟨rfl, few⟩ := lands
    refine ⟨fun _ => rfl, fun enough => ?_⟩
    rw [workingDaysLeft] at enough
    omega
  | ok result =>
    rw [found] at lands
    obtain ⟨working, bound, counted⟩ := lands
    refine ⟨fun few => ?_, fun _ => ⟨result, rfl, working, ?_, ?_, ?_⟩⟩
    · have within := workingDaysBefore_mono cal (show result + 1 ≤ lastDate + 1 by omega)
      rw [workingDaysLeft] at few
      omega
    · have inside : result ≠ lastDate := by
        rintro rfl
        rw [lastDate_rests] at working
        contradiction
      rw [businessDaysBetween_ok cal (lt_of_workingDaysBefore_lt cal (by omega)) (by omega), counted,
        Nat.add_sub_cancel_left]
    · intro later other ordered reached
      have landed := addWorkingDays_lands cal later positive
      rw [reached] at landed
      have further := workingDaysBefore_mono cal (show day + 1 ≤ later + 1 by omega)
      obtain ⟨otherWorking, -, otherCounted⟩ := landed
      -- A day as far as `result` cannot lie before it: `result` itself is counted.
      by_contra before
      have below := workingDaysBefore_mono cal (show other + 1 ≤ result by omega)
      have step := workingDaysBefore_succ cal result
      rw [if_pos working] at step
      omega
    · intro more other further reached
      have landed := addWorkingDays_lands cal day (show 1 ≤ more by omega)
      rw [reached] at landed
      exact lt_of_workingDaysBefore_lt cal (by rw [counted, landed.2.2]; omega)

/-- From a Wednesday over a holiday and the weekend. -/
theorem addWorkingDays_over_weekend :
    addWorkingDays ⟨{3}⟩ 2 (2 : Nat) = .ok 7 ∧ businessDaysBetween ⟨{3}⟩ 2 7 = .ok 2 := by
  have reached : addWorkingDays ⟨{3}⟩ 2 (2 : Nat) = .ok 7 := by decide +kernel
  obtain ⟨overflows, lands⟩ := addWorkingDays_measured ⟨{3}⟩ 2 2 (by decide)
  have enough : 2 ≤ workingDaysLeft ⟨{3}⟩ 2 := by
    by_contra few
    cases (overflows (not_le.mp few)).symm.trans reached
  obtain ⟨result, found, -, measured, -⟩ := lands enough
  obtain rfl := Except.ok.inj (reached.symm.trans found)
  exact ⟨reached, measured⟩

/-- No working day follows 31 December 9999. -/
theorem no_workingDay_after_lastDate :
    addWorkingDays ⟨∅⟩ lastDate (1 : Nat) = .error (.overflow "date value out of range") := by
  have final : nextDate lastDate = .error (.overflow "date value out of range") := if_neg (lt_irrefl _)
  simp only [addWorkingDays, Int.toNat_natCast, advance, BangladeshBankCalendar.nextWorkingDay, final]
  rfl

end BdPay.Ledger
