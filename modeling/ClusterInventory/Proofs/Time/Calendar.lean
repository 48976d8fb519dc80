import ClusterInventory.Proofs.Time.Reading
import Mathlib.Tactic.IntervalCases

/-!
# Moments by their numbers

Every day of several thousand years has a number, and is found by it
(`Date.number_of_ofNumber?`, `Date.exists_ofNumber?`); so has every moment of them
(`Instant.unixNanos_of_ofUnixNanos?`, `Instant.exists_ofUnixNanos?`). Outside leap seconds the time
between two moments is the difference of their numbers (`Instant.nanosSince_eq`).
-/

namespace ClusterInventory

theorem isLeapYear_iff (year : Int) :
    isLeapYear year = true ↔ (year % 4 = 0 ∧ year % 100 ≠ 0) ∨ year % 400 = 0 := by
  have hmod (a b : Int) : a.emod b = a % b := rfl
  simp [isLeapYear, hmod]

namespace Date

theorem make?_eq_some {year : Int} {month day : Nat} {d : Date}
    (h : make? year month day = some d) : d.year = year ∧ d.month = month ∧ d.day = day := by
  unfold make? at h
  split at h
  · split at h
    · split at h
      · cases h
        exact ⟨rfl, rfl, rfl⟩
      · cases h
    · cases h
  · cases h

/-! ## Days of an era -/

/-- The day `e` of an era of 400 years: `c` centuries, `g` spans of four years and `v` years have
gone by before its year, and `d` days of the year, which begins in March. -/
structure InEra (e c g v d : Int) : Prop where
  centuries : 0 ≤ c ∧ c ≤ 3
  spans : 0 ≤ g ∧ g ≤ 24
  years : 0 ≤ v ∧ v ≤ 3
  days : 0 ≤ d ∧ d ≤ 365
  sum : e = 36524 * c + 1461 * g + 365 * v + d
  /-- Only leap years have a day more. -/
  leap : d = 365 → v = 3 ∧ (g < 24 ∨ c = 3)

/-- The months before a day of a year that begins in March. -/
def monthsBefore (dayOfYear : Int) : Int := (5 * dayOfYear + 2) / 153

/-- The month of the calendar after so many months since March. -/
def monthAfter (months : Int) : Int := if months < 10 then months + 3 else months - 9

/-- The day of the month of a day of a year that begins in March. -/
def dayOfMonth (dayOfYear : Int) : Int :=
  dayOfYear - (153 * monthsBefore dayOfYear + 2) / 5 + 1

theorem monthsBefore_mem {d : Int} (h : 0 ≤ d ∧ d ≤ 365) :
    0 ≤ monthsBefore d ∧ monthsBefore d ≤ 11 := by
  unfold monthsBefore
  omega

theorem dayOfMonth_pos (d : Int) : 1 ≤ dayOfMonth d := by
  unfold dayOfMonth monthsBefore
  omega

theorem exists_inEra {e : Int} (he : 0 ≤ e ∧ e < 146097) : ∃ c g v d, InEra e c g v d := by
  -- the last day of an era is the only one that belongs to no full century
  obtain ⟨c, r, hc, hr, hsum, hlast⟩ : ∃ c r : Int, (0 ≤ c ∧ c ≤ 3) ∧ (0 ≤ r ∧ r ≤ 36524) ∧
      e = 36524 * c + r ∧ (r = 36524 → c = 3) := by
    by_cases h : e = 146096
    · exact ⟨3, 36524, by omega⟩
    · exact ⟨e / 36524, e % 36524, by omega⟩
  obtain ⟨v, d, hv, hd, hrest, hleap⟩ : ∃ v d : Int, (0 ≤ v ∧ v ≤ 3) ∧ (0 ≤ d ∧ d ≤ 365) ∧
      r % 1461 = 365 * v + d ∧ (d = 365 → v = 3) := by
    by_cases h : r % 1461 = 1460
    · exact ⟨3, 365, by omega⟩
    · exact ⟨r % 1461 / 365, r % 1461 % 365, by omega⟩
  exact ⟨c, r / 1461, v, d, hc, by omega, hv, hd, by omega, fun h => by omega⟩

theorem exists_era (n : Int) :
    ∃ era e c g v d, n = era * 146097 + e - 719468 ∧ InEra e c g v d := by
  obtain ⟨c, g, v, d, he⟩ := exists_inEra (e := (n + 719468) % 146097) (by omega)
  exact ⟨(n + 719468) / 146097, _, c, g, v, d, by omega, he⟩

namespace InEra

variable {e c g v d : Int}

theorem year (h : InEra e c g v d) :
    (e - e / 1460 + e / 36524 - e / 146096) / 365 = 100 * c + 4 * g + v := by
  obtain ⟨hc, hg, hv, hd, hsum, hleap⟩ := h
  have hspans : e / 1460 = 25 * c + g + (24 * c + g + 365 * v + d) / 1460 := by omega
  have hcenturies : e / 36524 = c + e / 146096 := by
    by_cases hlast : e = 146096
    · omega
    · have hwithin : 1461 * g + 365 * v + d < 36524 := by omega
      omega
  have hfew : 0 ≤ 24 * c + g + 365 * v + d := by omega
  by_cases hmany : 1460 ≤ 24 * c + g + 365 * v + d <;> omega

theorem leapDays (h : InEra e c g v d) :
    (100 * c + 4 * g + v) / 4 = 25 * c + g ∧ (100 * c + 4 * g + v) / 100 = c := by
  obtain ⟨hc, hg, hv, hd, hsum, hleap⟩ := h
  omega

theorem ofNumber?_eq (h : InEra e c g v d) (era : Int) :
    ofNumber? (era * 146097 + e - 719468) =
      make? (100 * c + 4 * g + v + era * 400 + if monthAfter (monthsBefore d) ≤ 2 then 1 else 0)
        (monthAfter (monthsBefore d)).toNat (dayOfMonth d).toNat := by
  obtain ⟨hfour, hcentury⟩ := h.leapDays
  have hyear := h.year
  obtain ⟨hc, hg, hv, hd, hsum, hleap⟩ := h
  have hera : (era * 146097 + e - 719468 + 719468).fdiv 146097 = era := by
    rw [Int.fdiv_eq_ediv_of_nonneg _ (by decide)]
    omega
  have he : era * 146097 + e - 719468 + 719468 - era * 146097 = e := by omega
  have hdays : e - (365 * (100 * c + 4 * g + v) + (25 * c + g) - c) = d := by omega
  simp only [ofNumber?, hera, he, hyear, hfour, hcentury, hdays]
  rfl

/-- A day of a year that begins in March lies in its month. -/
theorem dayOfMonth_le (h : InEra e c g v d) (era : Int) :
    dayOfMonth d ≤ daysInMonth
      (100 * c + 4 * g + v + era * 400 + if monthAfter (monthsBefore d) ≤ 2 then 1 else 0)
      (monthAfter (monthsBefore d)).toNat := by
  obtain ⟨hc, hg, hv, hd, hsum, hleap⟩ := h
  have hday : dayOfMonth d = d - (153 * monthsBefore d + 2) / 5 + 1 := rfl
  have hbefore : 5 * d + 2 < 153 * (monthsBefore d + 1) := by
    unfold monthsBefore
    omega
  obtain ⟨hfirst, hlast⟩ := monthsBefore_mem hd
  generalize hm : monthsBefore d = m at *
  rw [hday]
  clear hm hday
  -- February, the last month of such a year, is the only one whose days depend on the year
  by_cases hfebruary : m = 11
  · subst hfebruary
    by_cases hday : d = 365
    · obtain ⟨rfl, hgap⟩ := hleap hday
      have hyear : isLeapYear (100 * c + 4 * g + 3 + era * 400 + 1) = true := by
        rw [isLeapYear_iff]
        omega
      simp [monthAfter, daysInMonth, hyear, hday]
    · have hdays : 28 ≤ daysInMonth (100 * c + 4 * g + v + era * 400 + 1) 2 := by
        rw [daysInMonth, if_pos rfl]
        split <;> decide
      show d - 337 + 1 ≤ ((daysInMonth (100 * c + 4 * g + v + era * 400 + 1) 2 : Nat) : Int)
      omega
  · interval_cases m <;> first | contradiction | (simp [monthAfter, daysInMonth]; omega)

end InEra

/-! ## All days -/

theorem number_of_ofNumber? {n : Int} {d : Date} (h : ofNumber? n = some d) : d.number = n := by
  obtain ⟨era, e, c, g, v, k, rfl, he⟩ := exists_era n
  rw [he.ofNumber?_eq] at h
  obtain ⟨hy, hm, hd⟩ := make?_eq_some h
  obtain ⟨hfour, hcentury⟩ := he.leapDays
  obtain ⟨hc, hg, hv, hk, hsum, hleap⟩ := he
  have hmonths := monthsBefore_mem hk
  have hday := dayOfMonth_pos k
  have hmonth : (d.month : Int) = monthAfter (monthsBefore k) := by
    rw [hm, Int.toNat_of_nonneg]
    unfold monthAfter
    omega
  have hyear : (if d.month ≤ 2 then d.year - 1 else d.year) =
      100 * c + 4 * g + v + era * 400 := by
    rw [hy]
    split <;> split <;> omega
  have hshifted : (if d.month > 2 then (d.month : Int) - 3 else d.month + 9) =
      monthsBefore k := by
    rw [hmonth]
    unfold monthAfter at *
    split <;> omega
  have hera : (100 * c + 4 * g + v + era * 400).fdiv 400 = era := by
    rw [Int.fdiv_eq_ediv_of_nonneg _ (by decide)]
    omega
  have hofEra : 100 * c + 4 * g + v + era * 400 - era * 400 = 100 * c + 4 * g + v := by omega
  have hdayInt : (d.day : Int) = dayOfMonth k := by omega
  simp only [number, hyear, hshifted, hera, hofEra, hfour, hcentury, hdayInt, dayOfMonth]
  omega

/-- The calendar has the days with these numbers, which are those of more than ten thousand
years. -/
theorem exists_ofNumber? {n : Int} (h : -1000000 ≤ n ∧ n ≤ 4000000) :
    ∃ d : Date, ofNumber? n = some d := by
  obtain ⟨era, e, c, g, v, k, rfl, he⟩ := exists_era n
  have hle := he.dayOfMonth_le era
  rw [he.ofNumber?_eq]
  obtain ⟨hc, hg, hv, hk, hsum, hleap⟩ := he
  have hmonths := monthsBefore_mem hk
  have hday := dayOfMonth_pos k
  have hmonth : 1 ≤ monthAfter (monthsBefore k) ∧ monthAfter (monthsBefore k) ≤ 12 := by
    unfold monthAfter
    omega
  rw [make?, dif_pos (by unfold minYear maxYear; split <;> omega), dif_pos (by omega),
    dif_pos (by omega)]
  exact ⟨_, rfl⟩

/-- The numbers of the days of the years 0 to 9999 lie well within those that the calendar has. -/
theorem number_mem {d : Date} (h : 0 ≤ d.year ∧ d.year ≤ 9999) :
    -800000 ≤ d.number ∧ d.number ≤ 3000000 := by
  obtain ⟨hfirst, hlast⟩ := d.month_mem
  have hday := Instant.day_le d
  have hera (y : Int) : y.fdiv 400 = y / 400 := Int.fdiv_eq_ediv_of_nonneg y (by decide)
  simp only [number, hera]
  split <;> split <;> omega

end Date

/-! ## Moments -/

namespace TimeOfDay

theorem make?_eq_some {hour minute second nanos : Nat} {t : TimeOfDay}
    (h : make? hour minute second nanos = some t) (hsecond : second < 60) :
    t.seconds = hour * 3600 + minute * 60 + second ∧ t.nanos.val = nanos ∧
      nanos < 1000000000 := by
  unfold make? at h
  split at h
  · split at h
    · split at h
      · next hnanos =>
        cases h
        exact ⟨rfl, rfl, hnanos⟩
      · cases h
    · cases h
  · cases h

theorem isLeap_eq_false {t : TimeOfDay} (h : t.nanos.val < 1000000000) : t.isLeap = false := by
  simp [isLeap, h]

theorem seconds_lt (t : TimeOfDay) : t.seconds < 86400 := by
  have hhour := t.hour.isLt
  have hminute := t.minute.isLt
  have hsecond := t.second.isLt
  unfold seconds
  omega

end TimeOfDay

namespace Instant

theorem unixNanos_of_ofUnixNanos? {n : Int} {t : Instant} (h : ofUnixNanos? n = some t) :
    t.unixNanos = n ∧ t.time.isLeap = false := by
  simp only [ofUnixNanos?, Option.bind_eq_bind, Option.bind_eq_some_iff, Option.pure_def,
    Option.some.injEq] at h
  obtain ⟨date, hdate, time, htime, rfl⟩ := h
  have hnumber := Date.number_of_ofNumber? hdate
  obtain ⟨hseconds, hnanos, hlt⟩ := TimeOfDay.make?_eq_some htime (Nat.mod_lt _ (by decide))
  refine ⟨?_, TimeOfDay.isLeap_eq_false (hnanos ▸ hlt)⟩
  rw [Int.fdiv_eq_ediv_of_nonneg _ (by decide), Int.fdiv_eq_ediv_of_nonneg _ (by decide)] at *
  simp only [unixNanos, seconds, hnumber, hseconds, hnanos]
  omega

theorem exists_ofUnixNanos? {n : Int}
    (h : -1000000 * 86400000000000 ≤ n ∧ n ≤ 4000000 * 86400000000000) :
    ∃ t, ofUnixNanos? n = some t := by
  simp only [ofUnixNanos?, Int.fdiv_eq_ediv_of_nonneg _ (show (0 : Int) ≤ 1000000000 by decide),
    Int.fdiv_eq_ediv_of_nonneg _ (show (0 : Int) ≤ 86400 by decide)]
  obtain ⟨date, hdate⟩ := Date.exists_ofNumber? (n := n / 1000000000 / 86400) (by omega)
  rw [hdate, TimeOfDay.make?, dif_pos (by omega), dif_pos (by omega), dif_pos (by omega),
    dif_pos (by omega)]
  exact ⟨_, rfl⟩

theorem nanosSince_eq {a b : Instant} (ha : a.time.isLeap = false) (hb : b.time.isLeap = false) :
    a.nanosSince b = a.unixNanos - b.unixNanos := by
  simp only [nanosSince, unixNanos, ha, hb, Bool.false_eq_true, if_false, ite_self, Int.add_zero]
  omega

/-- Less than a day before a moment of the years 0 to 9999 there is another one. -/
theorem exists_earlier? {t : Instant} (h : 0 ≤ t.date.year ∧ t.date.year ≤ 9999) {d : Duration}
    (hd : d.nanoseconds ≤ 86400000000000) : ∃ u, t.earlier? d = some u := by
  refine exists_ofUnixNanos? ?_
  have hnumber := Date.number_mem h
  have hseconds := t.time.seconds_lt
  have hnanos := t.time.nanos.isLt
  simp only [unixNanos, seconds]
  omega

end Instant

end ClusterInventory
