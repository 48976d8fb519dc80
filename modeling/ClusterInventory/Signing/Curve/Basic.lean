import ClusterInventory.Bytes.Number
import ClusterInventory.Number.BinaryPolynomial
import ClusterInventory.Number.Power

/-! Elliptic curves over prime and binary fields, and which bytes stand for a point of one: a point
has its two coordinates, or the first of them and one bit that tells the other. -/

namespace ClusterInventory.Signing

inductive CurveField where
  /-- The remainders of numbers modulo a prime. -/
  | prime (modulus : Nat)
  /-- The remainders of polynomials over two elements modulo an irreducible one. -/
  | binary (modulus : Nat)
  deriving DecidableEq, Repr

namespace CurveField

/-- The number of bits of an element. -/
def bits : CurveField → Nat
  | prime p => Bytes.bitCount p
  | binary f => BinaryPolynomial.degree f

/-- The element that a number stands for. -/
def element (field : CurveField) (n : Nat) : Nat :=
  match field with
  | prime p => n % p
  | binary f => BinaryPolynomial.reduce f (Bytes.bitCount n) n

end CurveField

/-- An elliptic curve: `y² = x³ + ax + b` over a prime field, `y² + xy = x³ + ax² + b` over a binary
one. -/
structure Curve where
  name : String
  /-- The content of its object identifier. -/
  identifier : List UInt8
  field : CurveField
  a : Nat
  b : Nat
  deriving DecidableEq, Repr

namespace Curve

open Bytes (natOfBytes bitCount)
open BinaryPolynomial (mulMod)

/-- The number of bits of a coordinate. -/
def bits (c : Curve) : Nat := c.field.bits

/-- The number of bytes of a coordinate. -/
def width (c : Curve) : Nat := (c.bits + 7) / 8

/-- The number is an element of the field. -/
def hasElement (c : Curve) (n : Nat) : Bool :=
  match c.field with
  | .prime p => n < p
  | .binary _ => bitCount n ≤ c.bits

/-- The right side of the equation at a first coordinate. -/
def rightSide (c : Curve) (x : Nat) : Nat :=
  match c.field with
  | .prime p => (x * x % p * x + c.a * x + c.b) % p
  | .binary f => Nat.xor (mulMod f (Nat.xor x c.a) (mulMod f x x)) c.b

/-- The point with these coordinates lies on the curve. -/
def contains (c : Curve) (x y : Nat) : Bool :=
  match c.field with
  | .prime p => y * y % p == c.rightSide x
  | .binary f => mulMod f y (Nat.xor y x) == c.rightSide x

/-- There is a point with this first coordinate whose second one is told by a bit. -/
def hasPoint (c : Curve) (x bit : Nat) : Bool :=
  match c.field with
  | .prime p =>
    let r := c.rightSide x
    if r = 0 then bit == 0 else powMod r ((p - 1) / 2) p == 1
  | .binary f =>
    x == 0 ||
      let inverse := BinaryPolynomial.inverse f x
      BinaryPolynomial.trace f (mulMod f (c.rightSide x) (mulMod f inverse inverse)) == 0

/-- The bit that tells the second coordinate of a point. -/
def bitOf (c : Curve) (x y : Nat) : Nat :=
  match c.field with
  | .prime _ => y % 2
  | .binary f => if x = 0 then 0 else mulMod f y (BinaryPolynomial.inverse f x) % 2

/-- Bytes stand for a point. The first of them says how: a zero on its own is the point at infinity,
2 and 3 stand before one coordinate and are its bit, 4 stands before both, as do 6 and 7, which are
the bit as well. -/
def isPoint (c : Curve) : List UInt8 → Bool
  | [] => false
  | form :: rest =>
    let form := form.toNat
    let x := natOfBytes (rest.take c.width)
    if form = 0 then rest.isEmpty
    else if form = 2 ∨ form = 3 then
      rest.length == c.width && c.hasElement x && c.hasPoint x (form % 2)
    else if form = 4 ∨ form = 6 ∨ form = 7 then
      let y := natOfBytes (rest.drop c.width)
      rest.length == 2 * c.width && c.hasElement x && c.hasElement y && c.contains x y &&
        (form == 4 || c.bitOf x y == form % 2)
    else false

end Curve

end ClusterInventory.Signing
