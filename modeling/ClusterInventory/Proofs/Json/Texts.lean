import ClusterInventory.Json.Parser
import ClusterInventory.Json.Printer

/-!
# Texts in documents read back

Every character of a text is written as itself or as an escape, and either is read as that
character (`readChars_escapeChar`); so a text of any characters reads back (`readChars_writeChars`).
-/

namespace ClusterInventory.Json

variable {acc cs rest : List Char} {whole : Bool} {c : Char}

theorem hexValue?_hexDigit {n : Nat} (h : n < 16) : hexValue? (hexDigit n) = some n := by
  have : ∀ n, n < 16 → hexValue? (hexDigit n) = some n := by decide
  exact this n h

/-- The four digits with which a control character is escaped. -/
theorem hex4?_escape {n : Nat} (h : n < 0x20) :
    hex4? '0' '0' (hexDigit (n / 16)) (hexDigit (n % 16)) = some n := by
  have hzero : hexValue? '0' = some 0 := by decide
  simp only [hex4?, hzero, hexValue?_hexDigit (n := n / 16) (by omega),
    hexValue?_hexDigit (n := n % 16) (by omega)]
  show some _ = some _
  congr 1
  omega

/-- A character that needs no escape. -/
def isPlainChar (c : Char) : Bool := c != '"' && c != '\\' && 0x20 ≤ c.toNat

theorem readChars_plain (h : isPlainChar c = true) :
    readChars acc whole (c :: rest) = readChars (c :: acc) whole rest := by
  simp only [isPlainChar, Bool.and_eq_true, bne_iff_ne, ne_eq, decide_eq_true_eq] at h
  obtain ⟨⟨hquote, hslash⟩, hprintable⟩ := h
  rw [readChars.eq_5 _ _ _ _ hquote (fun _ _ _ _ _ _ _ _ _ h => absurd h hslash)
    (fun _ _ _ _ _ h => absurd h hslash) (fun _ _ h => absurd h hslash)]
  have hcontrol : ¬c.toNat < 0x20 := by omega
  simp only [hcontrol, hslash, decide_false, Bool.or_self, Bool.false_eq_true, if_false]

theorem readChars_simple {e : Char} (hu : e ≠ 'u') (h : simpleEscape? e = some c) :
    readChars acc whole ('\\' :: e :: rest) = readChars (c :: acc) whole rest := by
  rw [readChars.eq_4 _ _ _ _ (fun _ _ _ _ _ _ _ _ _ h => absurd h hu)
    (fun _ _ _ _ _ h => absurd h hu), h]
  rfl

/-- What follows an escape by number is read for itself, also where it is such an escape again. -/
theorem readChars_control (h : c.toNat < 0x20) :
    readChars acc whole
        ('\\' :: 'u' :: '0' :: '0' :: hexDigit (c.toNat / 16) :: hexDigit (c.toNat % 16) :: rest) =
      readChars (c :: acc) whole rest := by
  have hhigh : ¬0xD800 ≤ c.toNat := by omega
  have hlow : ¬0xDC00 ≤ c.toNat := by omega
  by_cases hpair : ∃ e f g h rest', rest = '\\' :: 'u' :: e :: f :: g :: h :: rest'
  · obtain ⟨_, _, _, _, _, rfl⟩ := hpair
    rw [readChars.eq_2, hex4?_escape h]
    simp [hhigh, hlow, Char.ofNat_toNat]
  · have hsingle : ∀ e f g h rest', rest = '\\' :: 'u' :: e :: f :: g :: h :: rest' → False :=
      fun e f g h rest' heq => hpair ⟨e, f, g, h, rest', heq⟩
    rw [readChars.eq_3 _ _ _ _ _ _ _ hsingle, hex4?_escape h]
    simp [hhigh, Char.ofNat_toNat]

/-- However a character is written, it is read as itself. -/
theorem readChars_escapeChar (c : Char) :
    readChars acc whole (escapeChar c ++ rest) = readChars (c :: acc) whole rest := by
  have hnumber {n : Nat} (h : c.toNat = n) : c = Char.ofNat n := by
    rw [← h, Char.ofNat_toNat]
  unfold escapeChar
  split
  · next h => exact readChars_simple (by decide) (by subst h; rfl)
  split
  · next h => exact readChars_simple (by decide) (by subst h; rfl)
  split
  · next h => exact readChars_simple (by decide) (by subst h; rfl)
  split
  · next h => exact readChars_simple (by decide) (by subst h; rfl)
  split
  · next h => exact readChars_simple (by decide) (by subst h; rfl)
  split
  · next h => exact readChars_simple (by decide) (by rw [hnumber h]; rfl)
  split
  · next h => exact readChars_simple (by decide) (by rw [hnumber h]; rfl)
  split
  · next h => exact readChars_control h
  · next hquote hslash _ _ _ _ _ hcontrol =>
    exact readChars_plain (by simp [isPlainChar, hquote, hslash, Nat.le_of_not_lt hcontrol])

theorem readChars_writeChars (cs acc rest : List Char) :
    readChars acc true (writeChars rest cs) =
      some (some (String.ofList (acc.reverse ++ cs)), rest) := by
  induction cs generalizing acc with
  | nil => rw [writeChars, readChars.eq_1]; simp
  | cons c cs ih =>
    rw [writeChars, readChars_escapeChar, ih]
    simp

end ClusterInventory.Json
