import ClusterInventory.Json.Encoder
import ClusterInventory.Json.Printer
import ClusterInventory.Signing.Certificate
import ClusterInventory.Signing.PrivateKey
import ClusterInventory.Signing.Pss
import ClusterInventory.Text.Utf8

/-! Signing identities: a private key, together with the certificates that vouch for it. What an
identity signs goes into an envelope, whose protected part names algorithm, key and
certificates. -/

namespace ClusterInventory.Signing

open Bytes (Base64 minimalBytes)

/-- Why there is no identity or no signature. -/
inductive CredentialError where
  | read (path cause : String)
  | noCertificates
  | key
  | unsupportedKey
  /-- A failure of the signature scheme, or of the reading of certificates; it may come without a
  reason. -/
  | crypto (hasReason : Bool)
  deriving DecidableEq, Repr

def CredentialError.message : CredentialError → String
  | .read path cause => s!"reading {path}: {cause}"
  | .noCertificates => "no certificates found in certificate file"
  | .key => "parsing private key (tried PKCS#8 and PKCS#1)"
  | .unsupportedKey => "unsupported private key type; an RSA key is required"
  | .crypto true => "cryptographic operation failed"
  | .crypto false => "OpenSSL error"

/-- A signed payload, every part of it in base 64. -/
structure Envelope where
  payload : String
  protectedHeader : String
  signature : String
  deriving DecidableEq, Repr

namespace Envelope

def toJson (e : Envelope) : Json :=
  .obj [("payload", .str e.payload), ("protected", .str e.protectedHeader),
    ("signature", .str e.signature)]

/-- What is signed for a payload under a protected header. -/
def signingInput (protectedHeader payload : String) : List UInt8 :=
  Text.Utf8.bytes (protectedHeader ++ "." ++ payload)

/-- The signature is one of the other parts under the key. -/
def isSignedBy (e : Envelope) (k : RsaPublicKey) : Bool :=
  (Base64.urlSafe.decode? e.signature).any
    (Pss.verify k (signingInput e.protectedHeader e.payload))

end Envelope

/-- A private key with its certificates, the one for the key itself first. -/
structure Identity where
  key : RsaKey
  chain : List Certificate
  notAfter : Instant
  deriving DecidableEq

namespace Identity

def algorithm : String := "PS512"

def header (key : RsaPublicKey) (chain : List Certificate) : Json :=
  .obj [("alg", .str algorithm),
    ("jwk", .obj [("kty", .str "RSA"),
      ("n", .str (Base64.urlSafe.encode (minimalBytes key.modulus))),
      ("e", .str (Base64.urlSafe.encode (minimalBytes key.exponent))),
      ("x5c", Json.strings (chain.map fun c => Base64.standard.encode c.encoded))])]

def protectedHeader (i : Identity) : String :=
  Base64.urlSafe.encode (Text.Utf8.bytes (header i.key.toRsaPublicKey i.chain).text)

/-- The identity in the contents of two files, one with certificates and one with a key. The
certificates are looked at first, then their expiry, and the key last; nobody checks that it is
the key of the first certificate. -/
def ofFiles (certificates key : List UInt8) : Except CredentialError Identity :=
  match Certificate.ofBlocks (Pem.blocks certificates) with
  | .error fault => .error (.crypto (fault = .malformed))
  | .ok [] => .error .noCertificates
  | .ok (leaf :: issuers) =>
    match leaf.expiry? with
    | none => .error (.crypto false)
    | some notAfter =>
      match PrivateKey.ofBlocks? (Pem.blocks key) with
      | none => .error .key
      | some .other => .error .unsupportedKey
      | some (.rsa key) => .ok { key, chain := leaf :: issuers, notAfter }

/-- Signs a payload with a salt. -/
def sign (i : Identity) (salt payload : List UInt8) : Except CredentialError Envelope :=
  let payload := Base64.urlSafe.encode payload
  match Pss.sign? i.key salt (Envelope.signingInput i.protectedHeader payload) with
  | none => .error (.crypto true)
  | some signature =>
    .ok { payload, protectedHeader := i.protectedHeader
          signature := Base64.urlSafe.encode signature }

def text (i : Identity) : String :=
  "SigningIdentity \x7b chain: " ++ String.ofList (Text.decimal i.chain.length) ++
    ", not_after: " ++ i.notAfter.text ++ ", .. \x7d"

end Identity

end ClusterInventory.Signing
