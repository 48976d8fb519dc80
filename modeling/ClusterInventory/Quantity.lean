import ClusterInventory.Attempt
import ClusterInventory.Number.Binary64
import ClusterInventory.Text.Blank
import ClusterInventory.Text.Decimal

/-! Resource quantities such as `250m`, `1.5Gi` or `2e3`: a decimal number followed by a suffix
that scales it by a power of ten or of 1024. -/

namespace ClusterInventory.Quantity

open Text

/-- The factor that a suffix stands for. -/
inductive Scale where
  /-- A power of ten. -/
  | decimal (exponent : Int)
  /-- A power of 1024. -/
  | binary (power : Nat)
  deriving DecidableEq, Repr

def namedScale? : List Char → Option Scale
  | [] => some (.decimal 0)
  | ['n'] => some (.decimal (-9))
  | ['u'] => some (.decimal (-6))
  | ['m'] => some (.decimal (-3))
  | ['k'] => some (.decimal 3)
  | ['M'] => some (.decimal 6)
  | ['G'] => some (.decimal 9)
  | ['T'] => some (.decimal 12)
  | ['P'] => some (.decimal 15)
  | ['E'] => some (.decimal 18)
  | ['K', 'i'] => some (.binary 1)
  | ['M', 'i'] => some (.binary 2)
  | ['G', 'i'] => some (.binary 3)
  | ['T', 'i'] => some (.binary 4)
  | ['P', 'i'] => some (.binary 5)
  | ['E', 'i'] => some (.binary 6)
  | _ => none

/-- An exponent that fits in 32 bits with sign. -/
def exponent? (cs : List Char) : Option Int :=
  (readInt? cs).filter fun e => -2147483648 ≤ e && e ≤ 2147483647

/-- The scale of a suffix: a name, or `e` or `E` with an exponent. -/
def scale? (suffix : List Char) : Option Scale :=
  match namedScale? suffix with
  | some s => some s
  | none =>
    match suffix with
    | 'e' :: exp => (exponent? exp).map .decimal
    | 'E' :: exp => (exponent? exp).map .decimal
    | _ => none

/-- A character of the number in front of the suffix. -/
def isNumberChar (c : Char) : Bool := c.isDigit || c == '.' || c == '+' || c == '-'

/-- A decimal number `± digits / 10 ^ places`. -/
structure Mantissa where
  negative : Bool
  digits : Nat
  places : Nat
  deriving DecidableEq, Repr

/-- The number without sign that a text of digits and at most one point spells. -/
def unsigned? (negative : Bool) (cs : List Char) : Option Mantissa :=
  let whole := cs.takeWhile Char.isDigit
  match cs.dropWhile Char.isDigit with
  | [] => if whole.isEmpty then none else some ⟨negative, valueFrom 0 whole, 0⟩
  | c :: fraction =>
    if c = '.' && fraction.all Char.isDigit && !(whole.isEmpty && fraction.isEmpty) then
      some ⟨negative, valueFrom 0 (whole ++ fraction), fraction.length⟩
    else none

def mantissa? : List Char → Option Mantissa
  | '+' :: cs => unsigned? false cs
  | '-' :: cs => unsigned? true cs
  | cs => unsigned? false cs

/-- A quantity as it is written: a number and its scale. -/
structure Amount where
  mantissa : Mantissa
  scale : Scale
  deriving DecidableEq, Repr

def amount? (cs : List Char) : Option Amount :=
  if cs.isEmpty then none
  else do
    let mantissa ← mantissa? (cs.takeWhile isNumberChar)
    let scale ← scale? (cs.dropWhile isNumberChar)
    return ⟨mantissa, scale⟩

/-- The quantity that a text spells, blanks around it aside. -/
def read? (s : String) : Option Amount := amount? (trim s.toList)

/-- The floating-point number nearest to the number in front of the suffix. -/
def Mantissa.toFloat (m : Mantissa) : Float :=
  let x := (Binary64.ofDecimal m.digits (-(m.places : Int))).toFloat
  if m.negative then -x else x

/-- `r * a ^ k` by repeated squaring. -/
def powerFrom (r a : Float) (k : Nat) : Float :=
  let r := if k % 2 = 1 then r * a else r
  if h : k / 2 = 0 then r else powerFrom r (a * a) (k / 2)
termination_by k
decreasing_by omega

/-- A power with a whole exponent; a negative one gives the inverse of the positive power. -/
def power (a : Float) (k : Int) : Float :=
  let r := powerFrom 1 a k.natAbs
  if k < 0 then 1 / r else r

/-- The sum of two exponents, which has to fit in 32 bits with sign. -/
def addExponents (a b : Int) : Attempt Int :=
  if -2147483648 ≤ a + b && a + b ≤ 2147483647 then .value (a + b) else .broken .overflow

/-- The value of a quantity in units of `10 ^ -shift`. -/
def Amount.inUnits (a : Amount) (shift : Int) : Attempt Float :=
  match a.scale with
  | .decimal e => do
    let k ← addExponents e shift
    return a.mantissa.toFloat * power 10 k
  | .binary p => return a.mantissa.toFloat * power 1024 p * power 10 shift

def parse (s : String) : Attempt (Option Float) :=
  match read? s with
  | none => return none
  | some a => do return some (← a.inUnits 0)

/-- A value rounded up to a whole number that fits in 64 bits with sign. -/
def roundUp (x : Float) : Int64 := x.ceil.toInt64

/-- A quantity in units of `10 ^ -shift`, rounded up; a text that spells none counts as zero. -/
def wholeUnits (shift : Int) (s : Option String) : Attempt Int64 :=
  match s.bind read? with
  | none => return 0
  | some a => do return roundUp (← a.inUnits shift)

/-- Thousandths, rounded up: processor time. -/
def milliValue (s : Option String) : Attempt Int64 := wholeUnits 3 s

/-- Base units, rounded up: bytes. -/
def value (s : Option String) : Attempt Int64 := wholeUnits 0 s

end ClusterInventory.Quantity
