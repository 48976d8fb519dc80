/-! Binary floating-point numbers of 64 bits as words, and the nearest such number to a fraction:
a tie goes to the even neighbour, what is too large becomes infinite. -/

namespace ClusterInventory

/-- A binary floating-point number of 64 bits, held as its word. -/
structure Binary64 where
  bits : UInt64
  deriving DecidableEq, Repr, Inhabited

namespace Binary64

/-- The leading one of a significand: the 53rd bit. -/
def leadingOne : Nat := 4503599627370496

def ofFloat (x : Float) : Binary64 := ⟨x.toBits⟩

def toFloat (x : Binary64) : Float := Float.ofBits x.bits

def isNegative (x : Binary64) : Bool := x.bits.toNat ≥ 9223372036854775808

def exponentField (x : Binary64) : Nat := x.bits.toNat / leadingOne % 2048

/-- The 52 bits behind the leading one. -/
def fractionField (x : Binary64) : Nat := x.bits.toNat % leadingOne

def isFinite (x : Binary64) : Bool := x.exponentField != 2047

def isNaN (x : Binary64) : Bool := x.exponentField == 2047 && x.fractionField != 0

/-- The value of a finite number is `significand * 2 ^ exponent`. -/
def significand (x : Binary64) : Nat :=
  if x.exponentField = 0 then x.fractionField else leadingOne + x.fractionField

/-- The power of two that goes with `significand`. -/
def exponent (x : Binary64) : Int :=
  if x.exponentField = 0 then -1074 else x.exponentField - 1075

/-- A fraction rounded to a whole number; a tie goes to the even neighbour. -/
def roundDiv (num den : Nat) : Nat :=
  let q := num / den
  let r := num % den
  if den < 2 * r || (2 * r == den && q % 2 == 1) then q + 1 else q

/-- The word of `significand * 2 ^ exponent`, where the significand is at most twice a leading one,
and the exponent is the least one if the significand lies below a leading one. -/
def pack (significand : Nat) (exponent : Int) : Nat :=
  if significand < leadingOne then significand
  else
    let (s, e) :=
      if significand = 2 * leadingOne then (leadingOne, exponent + 1) else (significand, exponent)
    let field := (e + 1075).toNat
    if field ≥ 2047 then 2047 * leadingOne else field * leadingOne + (s - leadingOne)

/-- The number nearest to `num / den`. -/
def nearest (num den : Nat) : Binary64 :=
  if num = 0 then ⟨0⟩
  else
    -- the quotient has 53 or 54 bits at this exponent
    let guess : Int := num.log2 - den.log2 - 53
    let atLeast53 := if guess ≥ 0 then den * Nat.pow 2 (53 + guess.toNat) ≤ num
      else den * (2 * leadingOne) ≤ num * Nat.pow 2 (-guess).toNat
    let e : Int := max (-1074) (if atLeast53 then guess + 1 else guess)
    let q :=
      if e ≥ 0 then roundDiv num (den * Nat.pow 2 e.toNat)
      else roundDiv (num * Nat.pow 2 (-e).toNat) den
    ⟨UInt64.ofNat (pack q e)⟩

/-- The number nearest to `digits * 10 ^ exponent`. -/
def ofDecimal (digits : Nat) (exponent : Int) : Binary64 :=
  if exponent ≥ 0 then nearest (digits * Nat.pow 10 exponent.toNat) 1
  else nearest digits (Nat.pow 10 (-exponent).toNat)

end Binary64

end ClusterInventory
