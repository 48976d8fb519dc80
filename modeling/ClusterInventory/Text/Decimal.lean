/-! Whole numbers in decimal: written without leading zeros, read from ASCII digits with an
optional sign. -/

namespace ClusterInventory.Text

def digitChar (d : Nat) : Char := Char.ofNat (0x30 + d)

def digitValue (c : Char) : Nat := c.toNat - 0x30

/-- The decimal digits of a number, most significant first. -/
def decimal (n : Nat) : List Char :=
  if n < 10 then [digitChar n] else decimal (n / 10) ++ [digitChar (n % 10)]
termination_by n
decreasing_by omega

/-- A whole number in decimal, with a minus sign when it is negative. -/
def decimalInt (n : Int) : List Char :=
  match n with
  | .ofNat n => decimal n
  | .negSucc n => '-' :: decimal (n + 1)

/-- The number that a row of digits spells, read after digits that spell `acc`. -/
def valueFrom (acc : Nat) (ds : List Char) : Nat :=
  ds.foldl (fun v c => 10 * v + digitValue c) acc

/-- The number that a non-empty row of ASCII digits spells. -/
def readNat? (cs : List Char) : Option Nat :=
  if cs.isEmpty || !cs.all Char.isDigit then none else some (valueFrom 0 cs)

/-- A number without sign, or with a plus sign in front. -/
def readUnsigned? : List Char → Option Nat
  | '+' :: cs => readNat? cs
  | cs => readNat? cs

def readInt? : List Char → Option Int
  | '+' :: cs => (readNat? cs).map Int.ofNat
  | '-' :: cs => (readNat? cs).map fun n => -Int.ofNat n
  | cs => (readNat? cs).map Int.ofNat

/-- A number written to a fixed width with zeros in front; a longer one keeps all its digits. -/
def padded (width n : Nat) : List Char :=
  let ds := decimal n
  List.replicate (width - ds.length) '0' ++ ds

/-! ## Reading gives back what was written -/

theorem digitValue_digitChar {d : Nat} (h : d < 10) : digitValue (digitChar d) = d := by
  have : ∀ d, d < 10 → digitValue (digitChar d) = d := by decide
  exact this d h

theorem isDigit_digitChar {d : Nat} (h : d < 10) : (digitChar d).isDigit = true := by
  have : ∀ d, d < 10 → (digitChar d).isDigit = true := by decide
  exact this d h

theorem decimal_ne_nil (n : Nat) : decimal n ≠ [] := by
  rw [decimal]; split <;> simp

theorem isDigit_of_mem_decimal {n : Nat} {c : Char} (h : c ∈ decimal n) : c.isDigit = true := by
  induction n using Nat.strongRecOn with
  | ind n ih =>
    rw [decimal] at h
    split at h
    · simp only [List.mem_singleton] at h
      exact h ▸ isDigit_digitChar (by assumption)
    · simp only [List.mem_append, List.mem_singleton] at h
      rcases h with h | h
      · exact ih (n / 10) (by omega) h
      · exact h ▸ isDigit_digitChar (by omega)

theorem valueFrom_append (acc : Nat) (xs ys : List Char) :
    valueFrom acc (xs ++ ys) = valueFrom (valueFrom acc xs) ys := by
  simp [valueFrom, List.foldl_append]

theorem valueFrom_decimal (n : Nat) : valueFrom 0 (decimal n) = n := by
  induction n using Nat.strongRecOn with
  | ind n ih =>
    rw [decimal]
    split
    · simp [valueFrom, digitValue_digitChar (by assumption)]
    · rw [valueFrom_append, ih (n / 10) (by omega)]
      have := digitValue_digitChar (d := n % 10) (by omega)
      simp only [valueFrom, List.foldl_cons, List.foldl_nil, this]
      omega

end ClusterInventory.Text
