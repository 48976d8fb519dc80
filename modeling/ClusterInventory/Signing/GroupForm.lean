import ClusterInventory.Asn1.Content

/-! Keys on discrete logarithms as they are written: a secret number, with numbers that describe a
group beside it. Only their form counts, and that the public number can be worked out. -/

namespace ClusterInventory.Signing.GroupForm

open Asn1 (Element Tag)

/-- The key that signs at the beginning of some bytes: a version and five numbers. -/
def isSignatureForm (bytes : List UInt8) : Bool :=
  (do
    let (e, _) ← Element.read? bytes
    let version :: numbers ← e.fields? .sequence | none
    discard version.small?
    guard (numbers.length = 5)
    discard (numbers.mapM Element.natural?)).isSome

/-- The secret number at the beginning of some bytes. -/
def secret? (bytes : List UInt8) : Option Int := do
  let (e, _) ← Element.read? bytes
  return Asn1.Content.toInt (← e.content? .integer)

/-- The group of a key that signs: a modulus, the order of a part, and what generates it. -/
def isSignatureGroup (e : Element) : Bool :=
  (do
    let numbers ← (← e.fields? .sequence).mapM Element.natural?
    let [modulus, _, _] := numbers | none
    guard (modulus % 2 = 1)).isSome

def isAgreementModulus (n : Nat) : Bool :=
  n % 2 == 1 && 512 ≤ Bytes.bitCount n && Bytes.bitCount n ≤ 10000

/-- The group of a key for agreement: a modulus, what generates it, and perhaps a length. -/
def isAgreementGroup (e : Element) : Bool :=
  (do
    let modulus :: base :: rest ← e.fields? .sequence | none
    discard base.natural?
    guard (rest.length ≤ 1)
    for length in rest do discard length.small?
    guard (isAgreementModulus (← modulus.natural?))).isSome

/-- The evidence of how a group has been found: a seed and a counter. -/
def isEvidence (e : Element) : Bool :=
  (do
    let [seed, counter] ← e.fields? .sequence | none
    discard (seed.content? .bitString)
    discard counter.natural?).isSome

/-- The group of a key for agreement, with the order of a part of it, perhaps a factor, and perhaps
evidence. -/
def isPartialAgreementGroup (e : Element) : Bool :=
  (do
    let modulus :: base :: order :: rest ← e.fields? .sequence | none
    discard base.natural?
    let order ← order.natural?
    guard (Bytes.bitCount order ≤ 10000)
    let rest := match rest with
      | factor :: more => if factor.natural?.isSome then more else rest
      | [] => []
    guard (rest.length ≤ 1 ∧ rest.all isEvidence)
    guard (isAgreementModulus (← modulus.natural?))).isSome

end ClusterInventory.Signing.GroupForm
