import ClusterInventory.Asn1.Content
import ClusterInventory.Signing.Curve.Named

/-! Keys on elliptic curves as they are written: a secret number, perhaps the curve, perhaps the
public point. A curve has a name or is spelled out. -/

namespace ClusterInventory.Signing.CurveForm

open Asn1 (Element Tag)
open Bytes (natOfBytes bitCount)

/-- The identifier of prime fields. -/
def primeFields : List UInt8 := [0x2A, 0x86, 0x48, 0xCE, 0x3D, 1, 1]

/-- The identifier of binary fields. -/
def binaryFields : List UInt8 := [0x2A, 0x86, 0x48, 0xCE, 0x3D, 1, 2]

/-- The identifier of moduli of three terms. -/
def trinomials : List UInt8 := binaryFields ++ [3, 2]

/-- The identifier of moduli of five terms. -/
def pentanomials : List UInt8 := binaryFields ++ [3, 3]

def maxBits : Nat := 661

/-- The polynomial with a constant term and terms of these degrees, which have to rise. -/
def polynomial? (exponents : List Int) : Option Nat := do
  guard (exponents.all (· > 0) && exponents.Pairwise (· < ·))
  return exponents.foldl (fun n e => n + Nat.pow 2 e.toNat) 1

/-- The modulus of a binary field: its degree, and the exponents between that and zero. -/
def binaryModulus? (e : Element) : Option Nat := do
  let [degree, kind, between] ← e.fields? .sequence | none
  let degree ← degree.small?
  let kind ← kind.content? .identifier
  let between ←
    if kind = trinomials then do pure [Asn1.Content.toInt (← between.content? .integer)]
    else if kind = pentanomials then do
      let exponents ← (← between.fields? .sequence).mapM Element.small?
      guard (exponents.length = 3)
      pure exponents
    else none
  guard (degree ≤ Int.ofNat maxBits)
  polynomial? (between ++ [degree])

def field? (e : Element) : Option CurveField := do
  let [kind, modulus] ← e.fields? .sequence | none
  let kind ← kind.content? .identifier
  if kind = primeFields then do
    let p := Asn1.Content.toInt (← modulus.content? .integer)
    guard (4 < p ∧ p % 2 = 1 ∧ bitCount p.toNat ≤ maxBits)
    return .prime p.toNat
  else if kind = binaryFields then return .binary (← binaryModulus? modulus)
  else none

/-- The two coefficients of a curve. A seed may follow. -/
def coefficients? (e : Element) : Option (Nat × Nat) := do
  let a :: b :: rest ← e.fields? .sequence | none
  guard (rest.length ≤ 1)
  for seed in rest do discard (seed.content? .bitString)
  return (natOfBytes (← a.content? .octetString), natOfBytes (← b.content? .octetString))

/-- A curve that is spelled out: field, coefficients, a point, the order of that point, and perhaps
a factor. -/
def specified? (e : Element) : Option Curve := do
  let version :: field :: coefficients :: base :: order :: rest ← e.fields? .sequence | none
  discard version.small?
  let field ← field? field
  let (a, b) ← coefficients? coefficients
  let curve : Curve :=
    { name := "", identifier := [], field, a := field.element a, b := field.element b }
  let base ← base.content? .octetString
  guard (curve.isPoint base && base != [0])
  let order := Asn1.Content.toInt (← order.content? .integer)
  guard (0 < order ∧ bitCount order.toNat ≤ field.bits + 1)
  guard (rest.length ≤ 1)
  for factor in rest do
    guard (0 ≤ Asn1.Content.toInt (← factor.content? .integer))
  return curve

/-- The curve that parameters stand for. -/
def curve? (e : Element) : Option Curve :=
  if e.tag = .identifier then (e.content? .identifier).bind Curve.ofIdentifier?
  else specified? e

/-- The curve of the key at the beginning of some bytes; one that is written in it takes the place
of one that is known from elsewhere. -/
def read? (known : Option Curve) (bytes : List UInt8) : Option Curve := do
  let (e, _) ← Element.read? bytes
  let version :: secret :: rest ← e.fields? .sequence | none
  discard version.small?
  discard (secret.content? .octetString)
  let (parameters, rest) ← Element.option? 0 rest
  let (point, rest) ← Element.option? 1 rest
  guard rest.isEmpty
  let curve ← match parameters with
    | some p => curve? p
    | none => known
  match point with
  | none => return curve
  | some p =>
    let bits := Asn1.Content.cleared (← p.content? .bitString)
    guard (curve.isPoint (bits.drop 1))
    return curve

end ClusterInventory.Signing.CurveForm
