import ClusterInventory.Asn1.Stream
import ClusterInventory.Signing.CurveForm
import ClusterInventory.Signing.GroupForm
import ClusterInventory.Signing.Pem
import ClusterInventory.Signing.RsaForm

/-! Private keys as they stand in files: in a form of their own kind, or in one form for all kinds.
A file is read twice, if need be. The first reading passes over blocks that hold no key and takes
labels for what they are; the second one looks at a single block, but more leniently. -/

namespace ClusterInventory.Signing

open Asn1 (Element Tag)

inductive KeyKind where
  | rsa
  /-- RSA for signatures of one scheme. -/
  | schemeRsa
  | curve
  /-- On the one curve that has a scheme of its own. -/
  | schemeCurve
  | signatureGroup
  | agreementGroup
  | partialAgreementGroup
  /-- Plain bytes, so many. -/
  | plain (size : Nat)
  deriving DecidableEq, Repr

inductive PrivateKey where
  | rsa (key : RsaKey)
  /-- A key of a kind that cannot sign here. -/
  | other
  deriving DecidableEq, Repr

namespace KeyKind

def identifiers : List (List UInt8 × KeyKind) := [
  ([0x2A, 0x86, 0x48, 0x86, 0xF7, 0x0D, 1, 1, 1], rsa),
  ([0x2A, 0x86, 0x48, 0x86, 0xF7, 0x0D, 1, 1, 10], schemeRsa),
  ([0x2A, 0x86, 0x48, 0xCE, 0x3D, 2, 1], curve),
  ([0x2A, 0x86, 0x48, 0xCE, 0x38, 4, 1], signatureGroup),
  ([0x2A, 0x86, 0x48, 0x86, 0xF7, 0x0D, 1, 3, 1], agreementGroup),
  ([0x2A, 0x86, 0x48, 0xCE, 0x3E, 2, 1], partialAgreementGroup),
  ([0x2B, 0x65, 0x6E], plain 32), ([0x2B, 0x65, 0x6F], plain 56),
  ([0x2B, 0x65, 0x70], plain 32), ([0x2B, 0x65, 0x71], plain 57)]

/-- Further identifiers, which a lenient reading knows. -/
def aliases : List (List UInt8 × KeyKind) := [
  ([0x55, 8, 1, 1], rsa),
  ([0x2B, 0x0E, 3, 2, 12], signatureGroup),
  ([0x2A, 0x81, 0x1C, 0xCF, 0x55, 1, 0x82, 0x2D], curve)]

def ofCurve (c : Curve) : KeyKind := if c = Curve.sm2 then schemeCurve else curve

end KeyKind

namespace PrivateKey

/-- A key of any kind, as it stands in the form for all of them. -/
structure Common where
  algorithm : Algorithm
  content : List UInt8
  deriving DecidableEq, Repr

namespace Common

/-- The value is an attribute: a kind and a set of values. -/
def isAttribute (e : Element) : Bool :=
  (do
    let [kind, values] ← e.fields? .sequence | none
    discard (kind.content? .identifier)
    guard ((← values.items? .set).all (·.rewritten?.isSome))).isSome

/-- What may follow the key: attributes, and the public half if the version allows for it. -/
def isTail (version : Int) (rest : List Element) : Bool :=
  let (attributes, rest) := rest.span (·.tag = .contextual 0)
  attributes.length ≤ 1 && attributes.all (fun e =>
    (e.items? (.contextual 0)).any fun items => items.all isAttribute) &&
  rest.length ≤ 1 && rest.all (fun e =>
    e.tag = .contextual 1 && version == 1 && (e.contentAs? .bitString).isSome)

/-- The key at the beginning of some bytes. -/
def read? (bytes : List UInt8) : Option Common := do
  let (e, _) ← Element.read? bytes
  let version :: algorithm :: key :: rest ← e.fields? .sequence | none
  let version := Asn1.Content.toInt (← version.content? .integer)
  guard (0 ≤ version ∧ version ≤ 1 ∧ isTail version rest)
  return {
    algorithm := ← Algorithm.ofElement? algorithm
    content := ← key.content? .octetString }

/-- The parameters that are a sequence. -/
def group? (c : Common) : Option Element := c.algorithm.parameters.filter (·.tag = .sequence)

/-- The key, if it is of a kind, and of which kind it is after all. -/
def ofKind? (c : Common) : KeyKind → Option (KeyKind × PrivateKey)
  | .rsa => (RsaForm.read? none c.content).map (.rsa, .rsa ·)
  | .schemeRsa => do
    let terms ← RsaForm.terms? c.algorithm.parameters
    return (.schemeRsa, .rsa (← RsaForm.read? terms c.content))
  | .curve | .schemeCurve => do
    let known ← CurveForm.curve? (← c.algorithm.parameters)
    return (.ofCurve (← CurveForm.read? known c.content), .other)
  | .signatureGroup => do
    guard ((← c.group?) |> GroupForm.isSignatureGroup)
    guard (0 ≤ (← GroupForm.secret? c.content))
    return (.signatureGroup, .other)
  | .agreementGroup => do
    guard ((← c.group?) |> GroupForm.isAgreementGroup)
    discard (GroupForm.secret? c.content)
    return (.agreementGroup, .other)
  | .partialAgreementGroup => do
    guard ((← c.group?) |> GroupForm.isPartialAgreementGroup)
    discard (GroupForm.secret? c.content)
    return (.partialAgreementGroup, .other)
  | .plain size => do
    guard (c.algorithm.parameters.isNone)
    let (inner, _) ← Element.read? c.content
    guard ((← inner.content? .octetString).length = size)
    return (.plain size, .other)

def key? (names : List (List UInt8 × KeyKind)) (c : Common) : Option (KeyKind × PrivateKey) :=
  (names.lookup c.algorithm.identifier).bind c.ofKind?

end Common

/-- A key in the form for all kinds. -/
def ofCommonForm? (names : List (List UInt8 × KeyKind)) (bytes : List UInt8) :
    Option (KeyKind × PrivateKey) :=
  (Common.read? bytes).bind (Common.key? names)

/-- A key in a form of its own kind, where there is one. -/
def ofOwnForm? (kind : KeyKind) (bytes : List UInt8) : Option (KeyKind × PrivateKey) :=
  match kind with
  | .rsa => (RsaForm.read? none bytes).map (.rsa, .rsa ·)
  | .curve | .schemeCurve => (CurveForm.read? none bytes).map fun c => (.ofCurve c, .other)
  | .signatureGroup =>
    if GroupForm.isSignatureForm bytes then some (.signatureGroup, .other) else none
  | _ => none

/-- A key in one form or the other that is of one of some kinds. -/
def ofEitherForm? (names : List (List UInt8 × KeyKind)) (kinds : List KeyKind)
    (bytes : List UInt8) : Option PrivateKey :=
  let key := (kinds.findSome? (ofOwnForm? · bytes)).or (ofCommonForm? names bytes)
  (key.filter fun (kind, _) => kinds.contains kind).map (·.2)

/-- The bytes hold something encrypted: a method and a string. -/
def isEncrypted (bytes : List UInt8) : Bool :=
  (do
    let (e, _) ← Element.read? bytes
    let [algorithm, content] ← e.fields? .sequence | none
    discard (Algorithm.ofElement? algorithm)
    discard (content.content? .octetString)).isSome

/-! ## The first reading -/

/-- The labels of the form for all kinds, encrypted or not. -/
def commonLabels : List String := ["PRIVATE KEY", "ENCRYPTED PRIVATE KEY"]

/-- The labels of some kinds. Keys are also found under labels of what goes with them. -/
def labelKinds : List (String × List KeyKind) := [
  ("RSA PRIVATE KEY", [.rsa]), ("RSA PUBLIC KEY", [.rsa]),
  ("EC PRIVATE KEY", [.curve, .schemeCurve]), ("EC PARAMETERS", [.curve, .schemeCurve]),
  ("SM2 PRIVATE KEY", [.schemeCurve]), ("SM2 PARAMETERS", [.schemeCurve]),
  ("DSA PRIVATE KEY", [.signatureGroup]), ("DSA PUBLIC KEY", [.signatureGroup]),
  ("DSA PARAMETERS", [.signatureGroup]),
  ("DH PARAMETERS", [.agreementGroup]), ("X9.42 DH PARAMETERS", [.partialAgreementGroup])]

/-- What a block means for a reading. -/
inductive Finding where
  | key (key : PrivateKey)
  | nothing
  /-- The reading ends without a key. -/
  | obstacle
  deriving DecidableEq, Repr

/-- Parts that are too large for the modulus count as no key. -/
def isSound : PrivateKey → Bool
  | rsa key => key.isBalanced
  | other => true

/-- What is found for a key that may be there. -/
def Finding.of (key : Option PrivateKey) : Finding :=
  match key.filter isSound with
  | some k => .key k
  | none => .nothing

/-- A header that is no longer than this is passed over. -/
def ignoredHeader : Nat := 10

/-- What the first reading finds in the data of a block with a label. -/
def findUnder (label : String) (data : List UInt8) : Finding :=
  if commonLabels.contains label then
    if isEncrypted data then .obstacle
    else .of ((ofCommonForm? KeyKind.identifiers data).map (·.2))
  else
    .of ((labelKinds.lookup label).bind fun kinds => ofEitherForm? KeyKind.identifiers kinds data)

/-- What the first reading finds in a block. -/
def find (b : PemBlock) : Finding :=
  match if b.header.length > ignoredHeader then b.headerFault? else none with
  | some .malformed => .obstacle
  | some .unexplained => .nothing
  | none =>
    match Asn1.Stream.first? b.data with
    | some data => findUnder b.label data
    | none => .nothing

/-- The first key in blocks, up to an obstacle. -/
def findIn : List (Except PemFault PemBlock) → Option PrivateKey
  | [] => none
  | .error _ :: rest => findIn rest
  | .ok b :: rest =>
    match find b with
    | .key k => some k
    | .nothing => findIn rest
    | .obstacle => none

/-! ## The second reading -/

/-- The end of labels of private keys. -/
def labelEnding : List Char := " PRIVATE KEY".toList

/-- The kinds that a label names, in whatever case; no kinds if it is one for any of them. -/
def lenientKinds? (label : String) : Option (List KeyKind) :=
  if commonLabels.contains label ∨ label = "ANY PRIVATE KEY" then some []
  else
    (Pem.after? labelEnding.reverse label.toList.reverse).bind fun start =>
      match String.ofList (start.reverse.map Char.toUpper) with
      | "RSA" => some [.rsa]
      | "DSA" => some [.signatureGroup]
      | "EC" => some [.curve, .schemeCurve]
      | _ => none

/-- A key that has been put together anew. -/
def reassembled : PrivateKey → PrivateKey
  | rsa key => rsa key.reassembled
  | other => other

/-- The key in a block whose label names kinds. -/
def ofBlockLeniently? (kinds : List KeyKind) (b : PemBlock) : Option PrivateKey := do
  guard (b.headerFault? = none)
  let names := KeyKind.identifiers ++ KeyKind.aliases
  let key ←
    if b.label = "PRIVATE KEY" then (ofCommonForm? names b.data).map (·.2)
    else ofEitherForm? names kinds b.data
  return key.reassembled

/-- The key in the first block whose label is one of a private key. Broken blocks before it are in
the way. -/
def ofFirst? : List (Except PemFault PemBlock) → Option PrivateKey
  | [] => none
  | .error _ :: _ => none
  | .ok b :: rest =>
    match lenientKinds? b.label with
    | some kinds => ofBlockLeniently? kinds b
    | none => ofFirst? rest

def ofBlocks? (bs : List (Except PemFault PemBlock)) : Option PrivateKey :=
  (findIn bs).or (ofFirst? bs)

end PrivateKey

end ClusterInventory.Signing
