import ClusterInventory.Json.Decoder
import ClusterInventory.Proofs.Bytes.RoundTrip
import ClusterInventory.Proofs.Json.Documents
import ClusterInventory.Proofs.Json.Records
import ClusterInventory.Signing.Identity

/-!
# What a protected header says

The receiver of an envelope reads its protected header: the algorithm, the key that the signature is
to be verified under, and the certificates. From the header of an identity it gets back the key of
that identity and the certificates as they are encoded (`HeaderClaims.read?_protectedHeader`).
Whether the first certificate is one for that key shows only when its public key is taken out of it
(`Certificate.publicKey?`).
-/

namespace ClusterInventory.Signing

open Asn1 (Element Tag)
open Bytes (Base64 natOfBytes)

namespace Certificate

/-- The identifier of RSA keys in certificates. -/
def rsaIdentifier : List UInt8 := [0x2A, 0x86, 0x48, 0x86, 0xF7, 0x0D, 1, 1, 1]

/-- An RSA key as certificates have it: an algorithm and, in a string of bits, two numbers. -/
def rsaKey? (e : Element) : Option RsaPublicKey := do
  let [algorithm, bits] ← e.fields? .sequence | none
  guard ((← Algorithm.ofElement? algorithm).identifier = rsaIdentifier)
  let unused :: written ← bits.content? .bitString | none
  guard (unused = 0)
  let (numbers, _) ← Element.read? written
  let [modulus, exponent] ← numbers.fields? .sequence | none
  return { modulus := ← modulus.natural?, exponent := ← exponent.natural? }

/-- The RSA key that an encoded certificate vouches for. -/
def publicKey? (encoded : List UInt8) : Option RsaPublicKey := do
  let (certificate, _) ← Element.read? encoded
  let signed :: _ ← certificate.fields? .sequence | none
  let _ :: _ :: _ :: _ :: _ :: key :: _ ← withoutVersion? (← signed.fields? .sequence) | none
  rsaKey? key

end Certificate

/-- What a protected header says. -/
structure HeaderClaims where
  algorithm : String
  /-- The key that the signature is to be verified under. -/
  key : RsaPublicKey
  /-- The certificates as they are encoded. -/
  chain : List (List UInt8)
  deriving DecidableEq

namespace HeaderClaims

def number? (j : Json) : Option Nat := do
  return natOfBytes (← Base64.urlSafe.decode? (← Decoder.string j))

def certificate? (j : Json) : Option (List UInt8) := do
  Base64.standard.decode? (← Decoder.string j)

def ofJson? (header : Json) : Option HeaderClaims := do
  let algorithm ← Decoder.string (← header.get? "alg")
  let jwk ← header.get? "jwk"
  let modulus ← number? (← jwk.get? "n")
  let exponent ← number? (← jwk.get? "e")
  let chain ← Decoder.list certificate? (← jwk.get? "x5c")
  return { algorithm, key := { modulus, exponent }, chain }

def read? (protectedHeader : String) : Option HeaderClaims := do
  let bytes ← Base64.urlSafe.decode? protectedHeader
  ofJson? (← Json.parse? (← Text.Utf8.decode? bytes))

/-- The public key of the first certificate. -/
def leafKey? (c : HeaderClaims) : Option RsaPublicKey := c.chain.head?.bind Certificate.publicKey?

theorem number?_minimalBytes (n : Nat) :
    number? (.str (Base64.urlSafe.encode (Bytes.minimalBytes n))) = some n := by
  simp [number?, Decoder.string, Base64.decode?_encode Base64.isFair_urlSafe,
    Bytes.natOfBytes_minimalBytes]

theorem certificate?_encode (encoded : List UInt8) :
    certificate? (.str (Base64.standard.encode encoded)) = some encoded := by
  simp [certificate?, Decoder.string, Base64.decode?_encode Base64.isFair_standard]

theorem list_certificate? (chain : List Certificate) :
    Decoder.list certificate? (Json.strings (chain.map fun c => Base64.standard.encode c.encoded)) =
      some (chain.map (·.encoded)) := by
  have hstrings : Json.strings (chain.map fun c => Base64.standard.encode c.encoded) =
      .arr ((chain.map (·.encoded)).map fun encoded => .str (Base64.standard.encode encoded)) := by
    simp [Json.strings]
  rw [hstrings]
  exact Decoder.list_map fun encoded _ => certificate?_encode encoded

theorem ofJson?_header (key : RsaPublicKey) (chain : List Certificate) :
    ofJson? (Identity.header key chain) =
      some ⟨Identity.algorithm, key, chain.map (·.encoded)⟩ := by
  have hn := number?_minimalBytes key.modulus
  have he := number?_minimalBytes key.exponent
  simp [ofJson?, Identity.header, Json.get?, Json.lookup, Decoder.string, hn, he,
    list_certificate?]

theorem isExact_header (key : RsaPublicKey) (chain : List Certificate) :
    (Identity.header key chain).isExact = true := by
  simp [Identity.header, Json.isExact, Json.membersExact, Json.strings, Json.itemsExact_iff]

theorem read?_protectedHeader (i : Identity) : read? i.protectedHeader =
    some ⟨Identity.algorithm, i.key.toRsaPublicKey, i.chain.map (·.encoded)⟩ := by
  have hdecoded : Base64.urlSafe.decode? i.protectedHeader =
      some (Text.Utf8.bytes (Identity.header i.key.toRsaPublicKey i.chain).text) :=
    Base64.decode?_encode Base64.isFair_urlSafe _
  simp [read?, hdecoded, Text.Utf8.decode?_bytes, Json.parse?_text (isExact_header _ _),
    ofJson?_header]

end HeaderClaims

namespace Envelope

def claims? (e : Envelope) : Option HeaderClaims := HeaderClaims.read? e.protectedHeader

/-- The envelope verifies under the key in its own header. -/
def verifies (e : Envelope) : Bool := e.claims?.any fun c => e.isSignedBy c.key

/-- The envelope verifies under the first certificate in its own header. -/
def verifiesUnderLeaf (e : Envelope) : Bool :=
  (e.claims?.bind HeaderClaims.leafKey?).any e.isSignedBy

end Envelope

end ClusterInventory.Signing
