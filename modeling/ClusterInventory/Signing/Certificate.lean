import ClusterInventory.Signing.Algorithm
import ClusterInventory.Signing.Expiry
import ClusterInventory.Signing.Pem
import ClusterInventory.Text.Utf8

/-! Certificates. Of a certificate only its encoding and the end of its validity count; the rest
has to be there in the right form. -/

namespace ClusterInventory.Signing

open Asn1 (Element Tag)

structure Certificate where
  /-- The whole certificate in its binary form. -/
  encoded : List UInt8
  /-- The form in which the end of its validity is written in it. -/
  form : TimeForm
  /-- The end of its validity, as it is written in it. -/
  notAfter : List UInt8
  deriving DecidableEq, Repr

namespace Certificate

/-- The numbers of the tags that a value in a name may have. -/
def nameKinds : List Nat := [3, 7, 8, 9, 11, 12, 13, 14, 15, 16, 18, 19, 20, 22, 28, 29, 30]

/-- Bytes spell characters, so many bytes each. -/
def areCharacters (width : Nat) (bytes : List UInt8) : Bool :=
  if bytes.length < width ∨ width = 0 then true
  else
    (Bytes.natOfBytes (bytes.take width)).isValidChar && areCharacters width (bytes.drop width)
termination_by bytes.length
decreasing_by
  simp only [List.length_drop]
  omega

/-- The value of an entry of a name. Where it is a text of more than the plainest characters, they
have to be right. -/
def isNameValue (e : Element) : Bool :=
  e.tag.space == .universal && nameKinds.contains e.tag.number && e.rewritten?.isSome &&
    (e.contentAs? e.tag).all fun content =>
      if e.tag = .utf8String then (Text.Utf8.decode? content).isSome
      else if e.tag = .twoByteString then areCharacters 2 content
      else if e.tag = .fourByteString then areCharacters 4 content
      else true

/-- The value is a name: sets of kinds with values. -/
def isName (e : Element) : Bool :=
  (do
    for set in ← e.items? .sequence do
      for entry in ← set.items? .set do
        let [kind, value] ← entry.fields? .sequence | none
        discard (kind.content? .identifier)
        guard (isNameValue value)).isSome

/-- A time: its form and what is written. -/
def time? (e : Element) : Option (TimeForm × List UInt8) := do
  if e.tag = .shortTime then return (.short, ← e.contentAs? e.tag)
  else if e.tag = .longTime then return (.long, ← e.contentAs? e.tag)
  else none

/-- The last of the two times of a validity. -/
def validityEnd? (e : Element) : Option (TimeForm × List UInt8) := do
  let [start, stop] ← e.fields? .sequence | none
  discard (time? start)
  time? stop

/-- The value is a key: an algorithm and a string of bits. -/
def isKey (e : Element) : Bool :=
  (do
    let [algorithm, bits] ← e.fields? .sequence | none
    discard (Algorithm.ofElement? algorithm)
    discard (bits.content? .bitString)).isSome

def areExtensions (e : Element) : Bool :=
  (do
    for extension in ← e.items? .sequence do
      match ← extension.fields? .sequence with
      | [kind, value] =>
        discard (kind.content? .identifier)
        discard (value.content? .octetString)
      | [kind, critical, value] =>
        discard (kind.content? .identifier)
        discard (critical.content? .boolean)
        discard (value.content? .octetString)
      | _ => none).isSome

/-- What may follow the key: two identifiers and the extensions, in this order. -/
def isTail : (rest : List Element) → (numbers : List Nat) → Bool
  | [], _ => true
  | _ :: _, [] => false
  | e :: rest, n :: numbers =>
    if e.tag = .contextual n then
      (if n = 3 then (e.tagged? n).any areExtensions else (e.contentAs? .bitString).isSome) &&
        isTail rest numbers
    else isTail (e :: rest) numbers

/-- The parts without the number of the version, which may be missing. -/
def withoutVersion? : List Element → Option (List Element)
  | e :: rest =>
    if e.tag = .contextual 0 then do
      discard ((← e.tagged? 0).content? .integer)
      return rest
    else some (e :: rest)
  | [] => none

/-- The certificate at the beginning of some bytes. What has been signed keeps its form; all else
takes its shortest. -/
def ofBytes? (bytes : List UInt8) : Option Certificate := do
  let (certificate, _) ← Element.read? bytes
  let [signed, algorithm, signature] ← certificate.fields? .sequence | none
  let algorithm ← Algorithm.ofElement? algorithm
  let signature ← signature.content? .bitString
  let serial :: innerAlgorithm :: issuer :: validity :: subject :: key :: tail ←
    withoutVersion? (← signed.fields? .sequence) | none
  discard (serial.content? .integer)
  discard (Algorithm.ofElement? innerAlgorithm)
  guard (isName issuer && isName subject && isKey key && isTail tail [1, 2, 3])
  let (form, notAfter) ← validityEnd? validity
  let encoded := Element.writtenSequence
    [signed.whole, algorithm.written, Element.writtenBits signature]
  return { encoded, form, notAfter }

def expiry? (c : Certificate) : Option Instant :=
  c.form.read? (c.notAfter.map fun b => Char.ofNat b.toNat)

def labels : List String := ["CERTIFICATE", "X509 CERTIFICATE"]

/-- The certificates in blocks, in their order. Blocks of other kinds are passed over, but the first
block with a fault is the end of it. -/
def ofBlocks : List (Except PemFault PemBlock) → Except PemFault (List Certificate)
  | [] => .ok []
  | .error fault :: _ => .error fault
  | .ok b :: rest =>
    if b.label ∈ labels then
      match b.headerFault?, ofBytes? b.data with
      | some fault, _ => .error fault
      | none, none => .error .malformed
      | none, some c => (ofBlocks rest).map (c :: ·)
    else ofBlocks rest

end Certificate

end ClusterInventory.Signing
