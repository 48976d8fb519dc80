import ClusterInventory.Time.Reader

/-!
# Moments read back

The text of a moment is read back as that moment, whatever its year, its fraction of a second, and
whether or not it lies in a leap second (`readRelaxed?_chars`).
-/

namespace ClusterInventory

namespace Text

theorem valueFrom_replicate (n : Nat) : valueFrom 0 (List.replicate n '0') = 0 := by
  induction n with
  | zero => rfl
  | succ n ih => exact ih

theorem valueFrom_padded (width n : Nat) : valueFrom 0 (padded width n) = n := by
  rw [padded, valueFrom_append, valueFrom_replicate, valueFrom_decimal]

theorem isDigit_of_mem_padded {width n : Nat} {c : Char} (h : c ∈ padded width n) :
    c.isDigit = true := by
  rcases List.mem_append.1 h with h | h
  · rw [List.eq_of_mem_replicate h]
    rfl
  · exact isDigit_of_mem_decimal h

theorem length_decimal_le {width n : Nat} (hwidth : 0 < width) (h : n < Nat.pow 10 width) :
    (decimal n).length ≤ width := by
  induction width generalizing n with
  | zero => omega
  | succ width ih =>
    rw [decimal]
    split
    · simp
    · next hn =>
      have hwidth' : 0 < width := by
        rcases Nat.eq_zero_or_pos width with rfl | hpos
        · simp at h
          omega
        · exact hpos
      have hten : n < 10 * Nat.pow 10 width := by
        rw [Nat.mul_comm]
        exact h
      have := ih hwidth' (Nat.div_lt_of_lt_mul hten)
      simpa using this

theorem length_padded {width n : Nat} (hwidth : 0 < width) (h : n < Nat.pow 10 width) :
    (padded width n).length = width := by
  have := length_decimal_le hwidth h
  simp only [padded, List.length_append, List.length_replicate]
  omega

theorem length_padded_pos (width n : Nat) : 0 < (padded width n).length := by
  have := List.length_pos_iff.2 (decimal_ne_nil n)
  simp only [padded, List.length_append]
  omega

theorem isBlank_of_isDigit {c : Char} (h : c.isDigit = true) : isBlank c = false := by
  have hc : 0x30 ≤ c.toNat ∧ c.toNat ≤ 0x39 := by
    simp only [Char.isDigit, Bool.and_eq_true, decide_eq_true_eq, UInt32.le_iff_toNat_le] at h
    exact ⟨h.1, h.2⟩
  simp [isBlank, blankRanges]
  omega

end Text

namespace Instant

open Text

variable {ds rest : List Char} {c : Char}

/-! ## The parts of a moment -/

/-- A row of digits, with something else behind it. -/
structure Row (ds rest : List Char) : Prop where
  digits : ∀ c ∈ ds, c.isDigit = true
  stops : ∀ c cs, rest = c :: cs → c.isDigit = false

theorem row_padded (width n : Nat) (hc : c.isDigit = false) :
    Row (padded width n) (c :: rest) where
  digits _ := isDigit_of_mem_padded
  stops := by
    rintro _ _ ⟨⟩
    exact hc

theorem Row.takeDigits (h : Row ds rest) {most : Nat} (hmost : ds.length ≤ most) :
    takeDigits most (ds ++ rest) = (ds, rest) := by
  induction ds generalizing most with
  | nil =>
    cases most with
    | zero => rfl
    | succ most =>
      cases rest with
      | nil => rfl
      | cons c cs => simp [Instant.takeDigits, h.stops c cs rfl]
  | cons d ds ih =>
    cases most with
    | zero => simp at hmost
    | succ most =>
      have hds : Row ds rest := ⟨fun c hc => h.digits c (.tail _ hc), h.stops⟩
      simp [Instant.takeDigits, h.digits d (.head _), ih hds (Nat.le_of_succ_le_succ hmost)]

theorem length_le_utf8ByteSize (cs : List Char) : cs.length ≤ (String.ofList cs).utf8ByteSize := by
  induction cs with
  | nil => exact Nat.zero_le _
  | cons c cs ih =>
    have := Char.utf8Size_pos c
    rw [String.ofList_cons, String.utf8ByteSize_append, String.utf8ByteSize_singleton,
      List.length_cons]
    omega

theorem Row.number (h : Row ds rest) {least most : Nat} (hleast : least ≤ ds.length)
    (hmost : ds.length ≤ most) :
    number least most (ds ++ rest) = pure (valueFrom 0 ds, rest) := by
  have hsize : ¬(String.ofList (ds ++ rest)).utf8ByteSize < least := by
    have := length_le_utf8ByteSize (ds ++ rest)
    rw [List.length_append] at this
    omega
  rw [Instant.number, if_neg hsize, h.takeDigits hmost]
  simp only [Nat.not_lt.2 hleast, if_false]

theorem Row.isDigit_head (h : Row ds rest) (hne : ds ≠ []) {cs : List Char}
    (heq : ds ++ rest = c :: cs) : c.isDigit = true := by
  cases ds with
  | nil => exact absurd rfl hne
  | cons d ds =>
    obtain ⟨rfl, -⟩ := List.cons.inj heq
    exact h.digits d (.head _)

/-- Nothing stands in front of a row. -/
theorem Row.trimStart (h : Row ds rest) (hne : ds ≠ []) : trimStart (ds ++ rest) = ds ++ rest := by
  cases ds with
  | nil => exact absurd rfl hne
  | cons d ds =>
    rw [Text.trimStart, List.cons_append,
      List.dropWhile_cons_of_neg (by simp [isBlank_of_isDigit (h.digits d (.head _))])]

theorem looseNumber_padded {least most n : Nat} (hc : c.isDigit = false) (hleast : least ≤ n)
    (hmost : n ≤ most) (hwidth : n < 100) :
    looseNumber least most (padded 2 n ++ c :: rest) = pure (n, c :: rest) := by
  have hrow : Row (padded 2 n) (c :: rest) := row_padded 2 n hc
  have hlength : (padded 2 n).length = 2 := length_padded (by omega) (by omega)
  rw [looseNumber, hrow.trimStart (List.ne_nil_of_length_pos (length_padded_pos 2 n)),
    hrow.number (by omega) (by omega), pure_bind, valueFrom_padded]
  simp only [within, hleast, hmost, decide_true, Bool.and_self, if_true, pure_bind]

theorem looseMark_cons (hc : isBlank c = false) : looseMark c (c :: rest) = pure rest := by
  rw [looseMark, Text.trimStart, List.dropWhile_cons_of_neg (by simp [hc]), mark, if_pos rfl]

/-- The digits of a year with a sign, however many they are. -/
theorem number_padded_all {least n : Nat} (hleast : least ≤ 1) :
    number least ((padded 4 n ++ '-' :: rest).length + 1) (padded 4 n ++ '-' :: rest) =
      pure (n, '-' :: rest) := by
  have hpos := length_padded_pos 4 n
  rw [(row_padded 4 n rfl).number (by omega) (by rw [List.length_append]; omega),
    valueFrom_padded]

theorem looseYear_yearText {year : Int} (hyear : minYear ≤ year ∧ year ≤ maxYear) :
    looseYear (yearText year ++ '-' :: rest) = pure (year, '-' :: rest) := by
  have hrange : yearInRange year = pure year := by
    simp only [minYear, maxYear] at hyear
    rw [yearInRange, if_pos]
    simp only [Bool.and_eq_true, decide_eq_true_eq]
    omega
  unfold yearText
  split
  · next hshort =>
    simp only [Bool.and_eq_true, decide_eq_true_eq] at hshort
    have hrow : Row (padded 4 year.toNat) ('-' :: rest) := row_padded 4 year.toNat rfl
    have hlength : (padded 4 year.toNat).length = 4 :=
      length_padded (by omega) (by omega : year.toNat < 10000)
    have hnumber : number 1 4 (padded 4 year.toNat ++ '-' :: rest) =
        pure (year.toNat, '-' :: rest) := by
      rw [hrow.number (by omega) (by omega), valueFrom_padded]
    have hne := List.ne_nil_of_length_pos (length_padded_pos 4 year.toNat)
    rw [looseYear, hrow.trimStart hne]
    split
    · next heq => cases hrow.isDigit_head hne heq
    · next heq => cases hrow.isDigit_head hne heq
    · rw [hnumber, pure_bind]
      simp only
      rw [Int.toNat_of_nonneg hshort.1]
  · next hlong =>
    simp only [Bool.and_eq_true, decide_eq_true_eq] at hlong
    split
    · have hyear' : -(year.natAbs : Int) = year := by omega
      rw [looseYear, Text.trimStart, List.cons_append, List.dropWhile_cons_of_neg (by decide)]
      simp only
      rw [number_padded_all (by omega), pure_bind, hyear', hrange, pure_bind]
    · have hyear' : (year.natAbs : Int) = year := by omega
      rw [looseYear, Text.trimStart, List.cons_append, List.dropWhile_cons_of_neg (by decide)]
      simp only
      rw [number_padded_all (by omega), pure_bind, hyear', hrange, pure_bind]

/-- A fraction that is written with `width` digits is read from so many. -/
theorem fraction_padded {width n : Nat} (hwidth : 0 < width) (hmost : width ≤ 9)
    (hn : n < Nat.pow 10 width) :
    fraction ('.' :: padded width n ++ ['Z']) = pure (n * Nat.pow 10 (9 - width), ['Z']) := by
  have hrow : Row (padded width n) ['Z'] := row_padded width n rfl
  have hlength := length_padded hwidth hn
  have hempty : (padded width n).isEmpty = false := by
    rw [List.isEmpty_eq_false_iff]
    exact List.ne_nil_of_length_pos (length_padded_pos width n)
  rw [List.cons_append, fraction, hrow.takeDigits (by omega)]
  simp only [hempty, valueFrom_padded, hlength, Bool.false_eq_true, if_false]
  rfl

theorem fraction_fractionText {nanos : Nat} (h : nanos < 1000000000) :
    fraction (fractionText nanos ++ ['Z']) = pure (nanos, ['Z']) := by
  unfold fractionText
  split
  · next hzero =>
    rw [hzero]
    rfl
  split
  · next hmillis =>
    rw [fraction_padded (by omega) (by omega) (by omega : nanos / 1000000 < 1000),
      show nanos / 1000000 * Nat.pow 10 (9 - 3) = nanos by
        show nanos / 1000000 * 1000000 = nanos
        omega]
  split
  · next hmicros =>
    rw [fraction_padded (by omega) (by omega) (by omega : nanos / 1000 < 1000000),
      show nanos / 1000 * Nat.pow 10 (9 - 6) = nanos by
        show nanos / 1000 * 1000 = nanos
        omega]
  · rw [fraction_padded (by omega) (by omega) (by omega),
      show nanos * Nat.pow 10 (9 - 9) = nanos from Nat.mul_one nanos]

theorem ofLocal?_zero (date : Date) (time : TimeOfDay) :
    ofLocal? date time 0 = some ⟨date, time⟩ := by
  have hhour := time.hour.isLt
  have hminute := time.minute.isLt
  have hsame : ¬(time.hour.val * 60 + time.minute.val - 0 : Int) < 0 := by omega
  have hday : (time.hour.val * 60 + time.minute.val - 0 : Int) < 1440 := by omega
  have hmod : ((time.hour.val * 60 + time.minute.val - 0 : Int).emod 1440).toNat =
      time.hour.val * 60 + time.minute.val := by
    rw [show (time.hour.val * 60 + time.minute.val - 0 : Int).emod 1440 =
      time.hour.val * 60 + time.minute.val from Int.emod_eq_of_lt (by omega) (by omega)]
    omega
  have hhour' : Fin.ofNat 24 ((time.hour.val * 60 + time.minute.val) / 60) = time.hour :=
    Fin.ext (by rw [Fin.val_ofNat]; omega)
  have hminute' : Fin.ofNat 60 (time.hour.val * 60 + time.minute.val) = time.minute :=
    Fin.ext (by rw [Fin.val_ofNat]; omega)
  simp only [ofLocal?, hsame, hday, hmod, hhour', hminute', if_true, if_false]
  rfl

theorem make?_date (d : Date) : Date.make? d.year d.month d.day = some d := by
  simp only [Date.make?, d.year_mem, d.month_mem, d.day_mem, and_self, dite_true]

/-- A moment in a leap second is written, and read, as one in the 60th second. -/
theorem make?_time (t : TimeOfDay) :
    TimeOfDay.make? t.hour.val t.minute.val
        (if t.isLeap then t.second.val + 1 else t.second.val) (t.nanos.val % 1000000000) =
      some t := by
  obtain ⟨hour, minute, second, nanos, hmem⟩ := t
  have hnanos := nanos.isLt
  have hsecond := second.isLt
  have hfraction : nanos.val % 1000000000 < 1000000000 := Nat.mod_lt _ (by omega)
  simp only [TimeOfDay.make?, TimeOfDay.isLeap, hour.isLt, minute.isLt, hfraction, dite_true,
    decide_eq_true_eq]
  by_cases hleap : 1000000000 ≤ nanos.val
  · have h59 : second = 59 := Fin.ext (hmem hleap)
    have hnanos' : nanos.val % 1000000000 + 1000000000 = nanos.val := by omega
    simp only [hleap, h59, hnanos', if_true]
    rfl
  · have hnanos' : nanos.val % 1000000000 = nanos.val := by omega
    simp [hleap, hnanos']

/-! ## Whole moments -/

theorem exists_fractionText (nanos : Nat) :
    ∃ c rest, fractionText nanos ++ ['Z'] = c :: rest ∧ c.isDigit = false := by
  unfold fractionText
  repeat' split
  all_goals exact ⟨_, _, rfl, rfl⟩

/-- A second is read up to its fraction, also where that is left out. -/
theorem looseNumber_second {n : Nat} (nanos : Nat) (hn : n ≤ 60) :
    looseNumber 0 60 (padded 2 n ++ (fractionText nanos ++ ['Z'])) =
      pure (n, fractionText nanos ++ ['Z']) := by
  obtain ⟨c, rest, heq, hc⟩ := exists_fractionText nanos
  rw [heq]
  exact looseNumber_padded hc (Nat.zero_le _) hn (by omega)

theorem day_le (d : Date) : d.day ≤ 31 := by
  have hmost : daysInMonth d.year d.month ≤ 31 := by
    unfold daysInMonth
    repeat' split
    all_goals omega
  exact Nat.le_trans d.day_mem.2 hmost

theorem readRelaxed?_chars (t : Instant) : readRelaxed? t.chars = some t := by
  obtain ⟨hmonth, hmonth'⟩ := t.date.month_mem
  have hday := day_le t.date
  have hhour := t.time.hour.isLt
  have hminute := t.time.minute.isLt
  have hsecond := t.time.second.isLt
  have hshown : (if t.time.isLeap then t.time.second.val + 1 else t.time.second.val) ≤ 60 := by
    split <;> omega
  have month (rest : List Char) : looseNumber 1 12 (padded 2 t.date.month ++ '-' :: rest) =
      pure (t.date.month, '-' :: rest) :=
    looseNumber_padded rfl hmonth hmonth' (by omega)
  have day (rest : List Char) : looseNumber 1 31 (padded 2 t.date.day ++ 'T' :: rest) =
      pure (t.date.day, 'T' :: rest) :=
    looseNumber_padded rfl t.date.day_mem.1 hday (by omega)
  have hour (rest : List Char) : looseNumber 0 23 (padded 2 t.time.hour.val ++ ':' :: rest) =
      pure (t.time.hour.val, ':' :: rest) :=
    looseNumber_padded rfl (Nat.zero_le _) (by omega) (by omega)
  have minute (rest : List Char) : looseNumber 0 59 (padded 2 t.time.minute.val ++ ':' :: rest) =
      pure (t.time.minute.val, ':' :: rest) :=
    looseNumber_padded rfl (Nat.zero_le _) (by omega) (by omega)
  have second := looseNumber_second (t.time.nanos.val % 1000000000) hshown
  have nanos := fraction_fractionText (Nat.mod_lt t.time.nanos.val (by decide : 1000000000 > 0))
  have dash (rest : List Char) : looseMark '-' ('-' :: rest) = pure rest :=
    looseMark_cons (by decide)
  have colon (rest : List Char) : looseMark ':' (':' :: rest) = pure rest :=
    looseMark_cons (by decide)
  simp only [readRelaxed?, readRelaxed, chars, List.append_assoc, List.cons_append,
    looseYear_yearText t.date.year_mem, pure_bind, dash, month, day, separator, hour, colon,
    minute, second, nanos]
  have universal : looseOffset (trimStart ['Z']) = pure (0, []) := by rfl
  have hend : (trimStart ([] : List Char)).isEmpty = true := by rfl
  simp only [universal, pure_bind, hend, if_true, assemble, make?_date, make?_time, ofLocal?_zero]
  rfl

end Instant

end ClusterInventory
