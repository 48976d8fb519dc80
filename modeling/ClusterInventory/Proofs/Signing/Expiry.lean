import ClusterInventory.Proofs.Time.Calendar
import ClusterInventory.Signing.Expiry
import Mathlib.Data.Option.Basic

/-!
# Times that certificates can tell

A time that is read out of a certificate lies between the years 0 and 9999, at the start of a
second (`TimeForm.read?_mem`).
-/

namespace ClusterInventory

theorem Instant.nanos_of_ofLocal? {date : Date} {time : TimeOfDay} {offset : Int} {t : Instant}
    (h : ofLocal? date time offset = some t) : t.time.nanos = time.nanos := by
  simp only [ofLocal?] at h
  split at h
  · obtain ⟨_, -, h⟩ := Option.bind_eq_some_iff.1 h
    cases h
    rfl
  · split at h
    · obtain ⟨_, -, h⟩ := Option.bind_eq_some_iff.1 h
      cases h
      rfl
    · obtain ⟨_, -, h⟩ := Option.bind_eq_some_iff.1 h
      cases h
      rfl

namespace Signing.TimeForm

theorem pair?_mem {least most n : Nat} {cs rest : List Char}
    (h : pair? least most cs = some (n, rest)) : least ≤ n ∧ n ≤ most := by
  unfold pair? at h
  split at h
  · simp only at h
    split at h
    · split at h
      · next hn =>
        cases h
        simpa using hn
      · cases h
    · cases h
  · cases h

theorem year?_le {form : TimeForm} {cs rest : List Char} {year : Nat}
    (h : form.year? cs = some (year, rest)) : year ≤ 9999 := by
  cases form with
  | short =>
    simp only [year?, Option.bind_eq_bind, Option.bind_eq_some_iff] at h
    obtain ⟨⟨n, _⟩, hn, h⟩ := h
    have := pair?_mem hn
    simp only [Option.pure_def, Option.some.injEq, Prod.mk.injEq] at h
    split at h <;> omega
  | long =>
    simp only [year?, Option.bind_eq_bind, Option.bind_eq_some_iff] at h
    obtain ⟨⟨century, _⟩, hcentury, ⟨n, _⟩, hn, h⟩ := h
    have := pair?_mem hcentury
    have := pair?_mem hn
    simp only [Option.pure_def, Option.some.injEq, Prod.mk.injEq] at h
    omega

theorem second?_lt {cs rest : List Char} {second : Nat} (h : second? cs = some (second, rest)) :
    second < 60 := by
  unfold second? at h
  split at h
  any_goals
    simp only [Option.some.injEq, Prod.mk.injEq] at h
    omega
  have := pair?_mem h
  omega

theorem read?_mem {form : TimeForm} {cs : List Char} {t : Instant} (h : form.read? cs = some t) :
    (0 ≤ t.date.year ∧ t.date.year ≤ 9999) ∧ t.time.isLeap = false := by
  simp only [read?, Option.bind_eq_bind, Option.bind_eq_some_iff] at h
  obtain ⟨⟨year, _⟩, hyear, ⟨month, _⟩, -, ⟨day, _⟩, -, ⟨hour, _⟩, -, ⟨minute, _⟩, -,
    ⟨second, _⟩, hsecond, _, -, offset, -, date, hdate, time, htime, t', ht', u, hguard, ht⟩ := h
  cases ht
  have hyear := year?_le hyear
  have hsecond := second?_lt hsecond
  have hdate := (Date.make?_eq_some hdate).1
  have htime := (TimeOfDay.make?_eq_some htime hsecond).2.1
  have hnanos : t.time.nanos.val = 0 := by rw [Instant.nanos_of_ofLocal? ht', htime]
  refine ⟨?_, TimeOfDay.isLeap_eq_false (by omega)⟩
  -- a zone may move the time to another year, but only within bounds of its own
  rcases (Option.guard_eq_some' u).1 hguard with rfl | hmoved
  · rw [Instant.ofLocal?_zero, Option.some.injEq] at ht'
    subst ht'
    simp only
    omega
  · omega

end Signing.TimeForm

end ClusterInventory
