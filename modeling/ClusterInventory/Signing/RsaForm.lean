import ClusterInventory.Signing.Algorithm
import ClusterInventory.Signing.Rsa

/-! RSA keys as they are written: a version, the two halves of the key with two primes, and what
goes with further primes. Beside a key may stand the terms on which it signs. -/

namespace ClusterInventory.Signing

open Asn1 (Element Tag)

namespace RsaForm

def factor? (e : Element) : Option RsaFactor := do
  let [prime, exponent, coefficient] ← e.fields? .sequence | none
  return {
    prime := ← prime.natural?
    exponent := ← exponent.natural?
    coefficient := ← coefficient.natural? }

/-- The key at the beginning of some bytes, on some terms. A version of one needs further primes. -/
def read? (terms : Option SchemeTerms) (bytes : List UInt8) : Option RsaKey := do
  let (e, _) ← Element.read? bytes
  let version :: rest ← e.fields? .sequence | none
  let isManifold := (← version.small?) = 1
  let [n, e, d, p, q, dp, dq, c] ← (rest.take 8).mapM Element.natural? | none
  let more ← match rest.drop 8 with
    | [] => some []
    | [factors] => (← factors.items? .sequence).mapM factor?
    | _ => none
  guard (!(isManifold && more.isEmpty))
  return {
    modulus := n, exponent := e, secret := d, firstPrime := p, secondPrime := q
    firstExponent := dp, secondExponent := dq, coefficient := c, more, isManifold, terms }

/-- What identifiers of hashes begin with, and how they go on. Some are those of schemes that use a
hash. -/
def hashFamilies : List (List UInt8 × List (List UInt8)) := [
  ([0x2A, 0x86, 0x48, 0x86, 0xF7, 0x0D, 1, 1],
    [[3], [4], [5], [11], [12], [13], [14], [15], [16]]),
  ([0x2A, 0x86, 0x48, 0x86, 0xF7, 0x0D, 2], [[4], [5]]),
  ([0x60, 0x86, 0x48, 1, 0x65, 3, 4, 2],
    [[1], [2], [3], [4], [5], [6], [7], [8], [9], [10], [11], [12]]),
  ([0x60, 0x86, 0x48, 1, 0x65, 3, 4, 3], [[13], [14], [15], [16]]),
  ([0x2B, 0x24, 3], [[2, 1], [3, 1, 2]]),
  ([0x2A, 0x81, 0x1C, 0xCF, 0x55, 1, 0x83], [[0x11], [0x78]]),
  ([0x2B, 6, 1, 4, 1, 0x8D, 0x3A, 0x0C, 2], [[1, 0x10], [2, 8]]),
  ([0x55, 8, 3], [[0x64], [0x65]]),
  ([0x2B, 0x0E, 3, 2], [[0x1A], [0x1D]]),
  ([0x28, 0xCF, 6, 3, 0], [[0x37]])]

def isHash (identifier : List UInt8) : Bool :=
  hashFamilies.any fun (start, endings) => endings.any fun ending => start ++ ending == identifier

/-- The identifiers of SHA-512, and of the scheme with it. -/
def usualHashes : List (List UInt8) := [
  [0x60, 0x86, 0x48, 1, 0x65, 3, 4, 2, 3], [0x2A, 0x86, 0x48, 0x86, 0xF7, 0x0D, 1, 1, 13]]

/-- The identifier of the function that makes masks out of a hash. -/
def maskFunction : List UInt8 := [0x2A, 0x86, 0x48, 0x86, 0xF7, 0x0D, 1, 1, 8]

/-- Whether a hash is SHA-512. Where nothing is said, another one is meant. -/
def isUsualHash? : Option Algorithm → Option Bool
  | none => some false
  | some a => if isHash a.identifier then some (usualHashes.contains a.identifier) else none

def maskHash? (a : Algorithm) : Option Algorithm := do
  guard (a.identifier = maskFunction)
  let parameters ← a.parameters
  guard (parameters.tag = .sequence)
  Algorithm.ofElement? parameters

/-- The length of a salt, of which 32 bits count; one that needs more than 64 is below zero. -/
def saltLength (n : Int) : Int :=
  if -9223372036854775808 ≤ n ∧ n ≤ 9223372036854775807 then n.bmod 4294967296 else -1

/-- The length of a salt where nothing is said. -/
def usualSalt : Int := 20

/-- The terms that parameters of the scheme lay down, none if there are no parameters: a hash, a
function for masks, the length of a salt, and a mark that counts for nothing. -/
def terms? : Option Element → Option (Option SchemeTerms)
  | none => some none
  | some e => do
    let (hash, rest) ← Element.option? 0 (← e.fields? .sequence)
    let (mask, rest) ← Element.option? 1 rest
    let (salt, rest) ← Element.option? 2 rest
    let (trailer, rest) ← Element.option? 3 rest
    guard rest.isEmpty
    let hash ← hash.mapM Algorithm.ofElement?
    let mask ← mask.mapM fun m => do maskHash? (← Algorithm.ofElement? m)
    let salt ← salt.mapM (Element.content? .integer)
    discard (trailer.mapM (Element.content? .integer))
    return some {
      hasUsualHash := (← isUsualHash? hash) && (← isUsualHash? mask)
      leastSalt := (salt.map fun s => saltLength (Asn1.Content.toInt s)).getD usualSalt }

end RsaForm

end ClusterInventory.Signing
