import ClusterInventory.Number.Binary64
import ClusterInventory.Text.Decimal

/-! The shortest decimal that reads back as a given binary number, and its text. Of the decimals
with fewest digits the nearest one is taken. -/

namespace ClusterInventory

/-- A decimal number `digits * 10 ^ exponent`. -/
structure DecimalFloat where
  digits : Nat
  exponent : Int
  deriving DecidableEq, Repr

namespace DecimalFloat

/-- The same number without zeros at the end of the digits; `fuel` bounds their count. -/
def stripZeros : Nat → DecimalFloat → DecimalFloat
  | 0, d => d
  | fuel + 1, d =>
    if d.digits != 0 && d.digits % 10 == 0 then stripZeros fuel ⟨d.digits / 10, d.exponent + 1⟩
    else d

end DecimalFloat

namespace Binary64

/-- Numerator and denominator of `a * 2 ^ p * 10 ^ q`. -/
private def scaled (a : Nat) (p q : Int) : Nat × Nat :=
  (a * Nat.pow 2 p.toNat * Nat.pow 10 q.toNat, Nat.pow 2 (-p).toNat * Nat.pow 10 (-q).toNat)

/-- The exponent of the leading decimal digit of `m * 2 ^ e`, for a positive `m`. -/
def leadingExponent (m : Nat) (e : Int) : Int :=
  let guess : Int := ((m.log2 : Int) + e) * 30103 / 100000
  let reaches (k : Int) : Bool :=
    let (num, den) := scaled m e (-k)
    den ≤ num
  if reaches (guess + 1) then guess + 1 else if reaches guess then guess else guess - 1

/-- A decimal on the grid of `10 ^ p` that reads back as `m * 2 ^ e`, where `below` quarter steps
lie between the number and the lower end of the interval that rounds to it. -/
def onGrid? (m : Nat) (e : Int) (below : Nat) (p : Int) : Option DecimalFloat :=
  let (unit, den) := scaled 1 e (-p)
  let num := m * unit
  let inside (c : Nat) : Bool :=
    let lo := (4 * m - below) * unit
    let hi := (4 * m + 2) * unit
    let x := 4 * c * den
    if m % 2 == 0 then lo ≤ x && x ≤ hi else lo < x && x < hi
  let down := num / den
  let rest := num % den
  let up := down + 1
  let preferUp := den < 2 * rest || (2 * rest == den && down % 2 == 1)
  let (first, second) := if preferUp then (up, down) else (down, up)
  if inside first then some ⟨first, p⟩ else if inside second then some ⟨second, p⟩ else none

/-- The shortest decimal that reads back as the absolute value of a finite number. -/
def shortest (x : Binary64) : DecimalFloat :=
  let m := x.significand
  let e := x.exponent
  if m = 0 then ⟨0, 0⟩
  else
    let below := if m = leadingOne && x.exponentField > 1 then 1 else 2
    let top := leadingExponent m e
    let found := (List.range 17).findSome? fun (k : Nat) => onGrid? m e below (top - k)
    (found.getD ⟨m, 0⟩).stripZeros 400

/-- How a decimal is written: which positions of the point are written out, and what stands
between digits and exponent. -/
structure DecimalStyle where
  /-- The point stands at most this many digits after the first digit. -/
  maxIntegerDigits : Int
  /-- At most this many zeros stand between the point and the first digit. -/
  maxLeadingZeros : Int
  positiveExponentSign : List Char

/-- Numbers in documents are written out from `0.00001` to below `10 ^ 16`, and keep a decimal
place when they are whole. -/
def documentStyle : DecimalStyle := ⟨16, 4, ['+']⟩

/-- The text of a finite number in the given style. -/
def textWith (style : DecimalStyle) (x : Binary64) : List Char :=
  let d := x.shortest
  let ds := Text.decimal d.digits
  let n : Int := ds.length
  let point := n + d.exponent
  let body :=
    if d.digits = 0 then ['0', '.', '0']
    else if 0 ≤ d.exponent && point ≤ style.maxIntegerDigits then
      ds ++ List.replicate d.exponent.toNat '0' ++ ['.', '0']
    else if 0 < point && point ≤ style.maxIntegerDigits then
      ds.take point.toNat ++ '.' :: ds.drop point.toNat
    else if -style.maxLeadingZeros ≤ point && point ≤ 0 then
      '0' :: '.' :: List.replicate (-point).toNat '0' ++ ds
    else
      let mantissa := if ds.length = 1 then ds else ds.take 1 ++ '.' :: ds.drop 1
      let shown := point - 1
      let sign := if shown < 0 then [] else style.positiveExponentSign
      mantissa ++ 'e' :: sign ++ Text.decimalInt shown
  if x.isNegative then '-' :: body else body

def text (x : Binary64) : List Char := textWith documentStyle x

end Binary64

end ClusterInventory
