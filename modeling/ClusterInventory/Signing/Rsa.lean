import ClusterInventory.Bytes.Number
import ClusterInventory.Number.Power

/-! The RSA permutation on whole numbers. The owner of a key works with the prime factors of the
modulus; what comes out is checked, and where the factors do not fit, the exponent itself is
used. -/

namespace ClusterInventory.Signing

open Bytes (bitCount byteCount)

structure RsaPublicKey where
  modulus : Nat
  exponent : Nat
  deriving DecidableEq, Repr

namespace RsaPublicKey

def bits (k : RsaPublicKey) : Nat := bitCount k.modulus

def size (k : RsaPublicKey) : Nat := byteCount k.modulus

def opened (k : RsaPublicKey) (n : Nat) : Nat := powMod n k.exponent k.modulus

/-- It does not take too long to open something. -/
def isHandy (k : RsaPublicKey) : Bool :=
  k.exponent < k.modulus && k.bits ≤ 16384 && (k.bits ≤ 3072 || bitCount k.exponent ≤ 64)

end RsaPublicKey

/-- A prime factor beyond the first two, the secret exponent for it, and the inverse of the product
of the factors before it. -/
structure RsaFactor where
  prime : Nat
  exponent : Nat
  coefficient : Nat
  deriving DecidableEq, Repr

/-- What a key demands that signs by one scheme only. -/
structure SchemeTerms where
  /-- The hash is the one that is used here, in both of its places. -/
  hasUsualHash : Bool
  /-- The least number of bytes of a salt. -/
  leastSalt : Int
  deriving DecidableEq, Repr

/-- A key, with the half that only its owner knows. -/
structure RsaKey extends RsaPublicKey where
  secret : Nat
  firstPrime : Nat
  secondPrime : Nat
  /-- The secret exponent for the first prime. -/
  firstExponent : Nat
  /-- The secret exponent for the second prime. -/
  secondExponent : Nat
  /-- The inverse of the second prime modulo the first. -/
  coefficient : Nat
  more : List RsaFactor
  /-- The key has been written as one with more than two primes. -/
  isManifold : Bool
  terms : Option SchemeTerms
  deriving DecidableEq, Repr

namespace RsaKey

def wordCount (n : Nat) : Nat := (bitCount n + 63) / 64

/-- No part of the key has more bits than the modulus. -/
def isBalanced (k : RsaKey) : Bool :=
  let parts := [k.secret, k.firstPrime, k.secondPrime, k.firstExponent, k.secondExponent,
    k.coefficient] ++ k.more.flatMap fun f => [f.prime, f.exponent, f.coefficient]
  parts.all (bitCount · ≤ k.bits)

/-- The key as it is once its parts have been put together anew: further primes count whatever the
version says, the last of them first. -/
def reassembled (k : RsaKey) : RsaKey :=
  { k with more := k.more.reverse, isManifold := !k.more.isEmpty }

/-- The factors that a key works with beyond the first two. -/
def furtherFactors (k : RsaKey) : List RsaFactor := if k.isManifold then k.more else []

/-- The most factors beyond the first two. -/
def maxFurther : Nat := 3

/-- Modulus and factors are odd, and there are not too many factors. -/
def isWorkable (k : RsaKey) : Bool :=
  k.modulus % 2 == 1 && k.firstPrime % 2 == 1 && k.secondPrime % 2 == 1 &&
    k.furtherFactors.all (·.prime % 2 == 1) && k.furtherFactors.length ≤ maxFurther

/-- A difference times a number, as a remainder. -/
def scaledDifference (a b factor modulus : Nat) : Nat :=
  (a + (modulus - b % modulus)) * factor % modulus

/-- What further factors add to the remainder modulo the product of those before them. -/
def extend (n : Nat) : (factors : List RsaFactor) → (product remainder : Nat) → Nat
  | [], _, r => r
  | f :: rest, product, r =>
    let m := powMod n f.exponent f.prime
    extend n rest (product * f.prime)
      (r + scaledDifference m r f.coefficient f.prime * product)

/-- Seals a number by way of the factors. Two primes of the same size go a way of their own, on
which results keep to the words of the modulus. -/
def throughFactors? (k : RsaKey) (n : Nat) : Option Nat :=
  let p := k.firstPrime
  let q := k.secondPrime
  if bitCount p = bitCount q ∧ !k.isManifold then
    let width := wordCount p
    if wordCount k.coefficient > width then none
    else
      let n := n % Nat.pow 2 (128 * width)
      let second := powMod n k.secondExponent q
      let first := scaledDifference (powMod n k.firstExponent p) second k.coefficient p
      let r := (first * q + second) % Nat.pow 2 (64 * wordCount k.modulus)
      some (if r ≥ k.modulus then r - k.modulus else r)
  else
    let second := powMod n k.secondExponent q
    let first := scaledDifference (powMod n k.firstExponent p) second k.coefficient p
    some (extend n k.furtherFactors (p * q) (first * q + second))

/-- Seals a number, as only the owner of a key can. -/
def sealed? (k : RsaKey) (n : Nat) : Option Nat := do
  guard (k.isBalanced && k.isWorkable)
  let r ← k.throughFactors? n
  if k.opened r = n % k.modulus then
    if wordCount r > wordCount k.modulus then none else return r % k.modulus
  else return powMod n k.secret k.modulus

end RsaKey

end ClusterInventory.Signing
