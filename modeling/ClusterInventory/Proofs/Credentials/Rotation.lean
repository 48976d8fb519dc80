import ClusterInventory.Proofs.Credentials.Schedule
import ClusterInventory.Proofs.Signing.Header
import ClusterInventory.Proofs.Signing.Pss
import Mathlib.NumberTheory.LucasLehmer

/-!
# Keys and certificates that are read apart

The certificates of an identity come from one reading and its key from another, and a load succeeds
as soon as each of the two files can be used by itself (`loadIdentity_eq_ok_iff`). The header of an
envelope names the key that has signed it, so that every envelope verifies under its own header. It
verifies under the first certificate in that header where this is one for the key
(`load_verifies_by_header`). When both files are replaced between the two readings it is not
(`rotated_load_mismatches`).
-/

namespace ClusterInventory.Credentials

open Asn1 (Element)
open Bytes (Base64)
open Delivery (EnvelopeOf envelopeOf_of_sign)
open Signing

/-! ## The two halves of an identity -/

/-- The file at a path holds these certificates, the first of which is valid to this end. -/
def HoldsChain (files : Files) (path : String) (chain : List Certificate) (notAfter : Instant) :
    Prop :=
  ∃ content, files.read path = .ok content ∧
    Certificate.ofBlocks (Pem.blocks content) = .ok chain ∧
    chain.head?.bind Certificate.expiry? = some notAfter

/-- The file at a path holds this key. -/
def HoldsKey (files : Files) (path : String) (key : RsaKey) : Prop :=
  ∃ content, files.read path = .ok content ∧
    PrivateKey.ofBlocks? (Pem.blocks content) = some (.rsa key)

theorem ofFiles_eq_ok_iff {certificates key : List UInt8} {i : Identity} :
    Identity.ofFiles certificates key = .ok i ↔
      (Certificate.ofBlocks (Pem.blocks certificates) = .ok i.chain ∧
        i.chain.head?.bind Certificate.expiry? = some i.notAfter) ∧
      PrivateKey.ofBlocks? (Pem.blocks key) = some (.rsa i.key) := by
  unfold Identity.ofFiles
  constructor
  · intro h
    split at h
    · cases h
    · cases h
    · next leaf issuers hchain =>
      split at h
      · cases h
      · next notAfter hexpiry =>
        split at h
        · cases h
        · cases h
        · next key hkey =>
          cases h
          exact ⟨⟨hchain, hexpiry⟩, hkey⟩
  · rintro ⟨⟨hchain, hexpiry⟩, hkey⟩
    rw [hchain]
    cases hi : i.chain with
    | nil =>
      rw [hi] at hexpiry
      cases hexpiry
    | cons leaf issuers =>
      rw [hi, List.head?_cons, Option.bind_some] at hexpiry
      simp only [hexpiry, hkey]
      rw [← hi]

/-- A load succeeds if each of the two files can be used by itself. Nothing ties the one to the
other. -/
theorem loadIdentity_eq_ok_iff {certificatePath keyPath : String} {first second : Files}
    {i : Identity} : loadIdentity certificatePath keyPath first second = .ok i ↔
      HoldsChain first certificatePath i.chain i.notAfter ∧ HoldsKey second keyPath i.key := by
  constructor
  · intro h
    obtain ⟨certificates, key, hcertificates, hkey, hfiles⟩ := exists_ofFiles_of_loadIdentity h
    obtain ⟨⟨hchain, hexpiry⟩, hread⟩ := ofFiles_eq_ok_iff.1 hfiles
    exact ⟨⟨certificates, hcertificates, hchain, hexpiry⟩, key, hkey, hread⟩
  · rintro ⟨⟨certificates, hcertificates, hchain, hexpiry⟩, key, hkey, hread⟩
    rw [loadIdentity, hcertificates, hkey]
    exact ofFiles_eq_ok_iff.2 ⟨⟨hchain, hexpiry⟩, hread⟩

/-! ## Whom an envelope verifies under -/

/-- The first certificate is one for the key that signs. -/
def IsMatched (i : Identity) : Prop :=
  (i.chain.head?.bind fun leaf => Certificate.publicKey? leaf.encoded) = some i.key.toRsaPublicKey

section Signed

variable {i : Identity} {salt payload : List UInt8} {e : Envelope}

theorem claims?_of_sign (h : i.sign salt payload = .ok e) : e.claims? =
    some ⟨Identity.algorithm, i.key.toRsaPublicKey, i.chain.map (·.encoded)⟩ := by
  rw [Envelope.claims?, (envelopeOf_of_sign h).protectedHeader]
  exact HeaderClaims.read?_protectedHeader i

theorem isSignedBy_of_sign (hkey : i.key.IsSound) (hhandy : i.key.isHandy = true)
    (hsalt : salt.length = Pss.saltSize) (h : i.sign salt payload = .ok e) :
    e.isSignedBy i.key.toRsaPublicKey = true := by
  have he := envelopeOf_of_sign h
  obtain ⟨signature, hsign, hsignature⟩ := he.signature
  have hverify := Pss.verify_of_sign? hkey hhandy hsalt hsign
  rw [Envelope.isSignedBy, hsignature, Base64.decode?_encode Base64.isFair_urlSafe,
    he.protectedHeader]
  exact hverify

/-- An envelope never verifies under a key of another size. -/
theorem isSignedBy_of_size_ne {k : RsaPublicKey} (hk : k.size ≠ i.key.size)
    (h : i.sign salt payload = .ok e) : e.isSignedBy k = false := by
  obtain ⟨signature, hsign, hsignature⟩ := (envelopeOf_of_sign h).signature
  rw [Envelope.isSignedBy, hsignature, Base64.decode?_encode Base64.isFair_urlSafe, Option.any_some,
    Bool.eq_false_iff]
  intro hverify
  exact hk ((Pss.length_of_verify hverify).symm.trans (Pss.length_of_sign? hsign))

theorem leafKey?_of_sign (h : i.sign salt payload = .ok e) : e.claims?.bind HeaderClaims.leafKey? =
    i.chain.head?.bind fun leaf => Certificate.publicKey? leaf.encoded := by
  rw [claims?_of_sign h, Option.bind_some, HeaderClaims.leafKey?, List.head?_map, Option.bind_map]
  rfl

/-- A regular key of enough bits signs every payload. -/
theorem exists_sign (hkey : i.key.IsRegular) (hterms : Pss.meets i.key.terms = true)
    (hbits : Pss.leastBits ≤ i.key.bits) (salt payload : List UInt8) :
    ∃ e, i.sign salt payload = .ok e := by
  obtain ⟨signature, hsignature⟩ := Pss.exists_sign? hkey hterms hbits salt
    (Envelope.signingInput i.protectedHeader (Base64.urlSafe.encode payload))
  simp only [Identity.sign, hsignature]
  exact ⟨_, rfl⟩

end Signed

/-! ## Files with a key and a certificate for it -/

/-- A block of a file, in lines of 64 digits. -/
def block (label : String) (encoded : List UInt8) : List UInt8 :=
  let digits := Base64.standard.encodeChars encoded
  let lines := (List.range ((digits.length + 63) / 64)).map fun n =>
    (digits.drop (64 * n)).take 64
  Text.Utf8.bytes ("-----BEGIN " ++ label ++ "-----\n") ++
    (lines.flatMap fun line => (line ++ ['\n']).map fun c => UInt8.ofNat c.toNat) ++
    Text.Utf8.bytes ("-----END " ++ label ++ "-----\n")

def writtenNumber (n : Nat) : List UInt8 :=
  Element.written .integer (Bytes.bytesOfNat (Bytes.bitCount n / 8 + 1) n)

def writtenKey (k : RsaKey) : List UInt8 :=
  Element.writtenSequence ([0, k.modulus, k.exponent, k.secret, k.firstPrime, k.secondPrime,
    k.firstExponent, k.secondExponent, k.coefficient].map writtenNumber)

/-- The end of the year 9999. -/
def lastInstant : Instant where
  date := ⟨9999, 12, 31, by decide, by decide, by decide⟩
  time := ⟨⟨23, by decide⟩, ⟨59, by decide⟩, ⟨59, by decide⟩, ⟨0, by decide⟩, by decide⟩

/-- The end of the year 9999, as a certificate tells it. -/
def lastSecond : List UInt8 := Text.Utf8.bytes "99991231235959Z"

/-- A certificate for a key, from nobody to nobody. -/
def certificateFor (k : RsaPublicKey) : Certificate :=
  let algorithm := Element.writtenSequence
    [Element.written .identifier Certificate.rsaIdentifier, Element.written .null []]
  let name := Element.writtenSequence []
  let validity := Element.writtenSequence
    [Element.written .longTime lastSecond, Element.written .longTime lastSecond]
  let key := Element.writtenSequence [algorithm, Element.writtenBits
    (0 :: Element.writtenSequence [writtenNumber k.modulus, writtenNumber k.exponent])]
  let signed := Element.writtenSequence [writtenNumber 1, algorithm, name, validity, name, key]
  { encoded := Element.writtenSequence [signed, algorithm, Element.writtenBits [0, 0]]
    form := .long, notAfter := lastSecond }

/-- The files with a key and a certificate for it. -/
def issued (k : RsaKey) : Files where
  entries := [
    ("tls.crt", .file (block "CERTIFICATE" (certificateFor k.toRsaPublicKey).encoded)),
    ("tls.key", .file (block "RSA PRIVATE KEY" (writtenKey k)))]
  ascending := List.pairwise_pair.2 (by decide : "tls.crt" < "tls.key")

/-- The key with the primes 61 and 53. -/
def smallKey : RsaKey :=
  { modulus := 3233, exponent := 17, secret := 2753, firstPrime := 61, secondPrime := 53
    firstExponent := 53, secondExponent := 49, coefficient := 38
    more := [], isManifold := false, terms := none }

/-- A key of 1128 bits, with two Mersenne primes. -/
def mersenneKey : RsaKey :=
  let p := mersenne 521
  let q := mersenne 607
  let secret := (65280 * (2 * mersenne 520 * mersenne 606 / 3) + 1) / 65537
  { modulus := p * q, exponent := 65537, secret, firstPrime := p, secondPrime := q
    firstExponent := secret % (p - 1), secondExponent := secret % (q - 1)
    coefficient := (2495846853397944102619202 * p + 1) / mersenne 86
    more := [], isManifold := false, terms := none }

variable {k : RsaKey}

theorem expiry?_certificateFor (k : RsaPublicKey) :
    (certificateFor k).expiry? = some lastInstant := by
  change TimeForm.long.read? (lastSecond.map fun b => Char.ofNat b.toNat) = some lastInstant
  decide +kernel

theorem ofBlocks_singleton {b : PemBlock} {c : Certificate} (hlabel : b.label ∈ Certificate.labels)
    (hheader : b.headerFault? = none) (hc : Certificate.ofBytes? b.data = some c) :
    Certificate.ofBlocks [.ok b] = .ok [c] := by
  rw [Certificate.ofBlocks, if_pos hlabel, hheader, hc]
  rfl

/-- What is issued for a key is read back, the certificate as one for this key. -/
def IsReadBack (k : RsaKey) : Prop :=
  let certificate := certificateFor k.toRsaPublicKey
  (Pem.blocks (block "CERTIFICATE" certificate.encoded) =
      [.ok ⟨"CERTIFICATE", [], certificate.encoded⟩] ∧
    Certificate.ofBytes? certificate.encoded = some certificate ∧
    Certificate.publicKey? certificate.encoded = some k.toRsaPublicKey) ∧
  Pem.blocks (block "RSA PRIVATE KEY" (writtenKey k)) =
      [.ok ⟨"RSA PRIVATE KEY", [], writtenKey k⟩] ∧
    PrivateKey.ofBlocks? [.ok ⟨"RSA PRIVATE KEY", [], writtenKey k⟩] = some (.rsa k)

instance (k : RsaKey) : Decidable (IsReadBack k) :=
  inferInstanceAs (Decidable ((_ ∧ _ ∧ _) ∧ _ ∧ _))

namespace IsReadBack

theorem holdsChain (h : IsReadBack k) :
    HoldsChain (issued k) "tls.crt" [certificateFor k.toRsaPublicKey] lastInstant := by
  refine ⟨_, rfl, ?_, expiry?_certificateFor _⟩
  rw [h.1.1]
  exact ofBlocks_singleton (List.mem_cons_self ..) rfl h.1.2.1

theorem publicKey?_eq (h : IsReadBack k) :
    Certificate.publicKey? (certificateFor k.toRsaPublicKey).encoded = some k.toRsaPublicKey :=
  h.1.2.2

theorem holdsKey (h : IsReadBack k) : HoldsKey (issued k) "tls.key" k :=
  ⟨_, rfl, by rw [h.2.1, h.2.2]⟩

end IsReadBack

theorem isReadBack_smallKey : IsReadBack smallKey := by
  decide +kernel

theorem isReadBack_mersenneKey : IsReadBack mersenneKey := by
  decide +kernel

theorem isSound_mersenneKey : mersenneKey.IsSound := by
  have hp : (mersenne 521).Prime := lucas_lehmer_sufficiency _ (by simp) (by norm_num)
  have hq : (mersenne 607).Prime := lucas_lehmer_sufficiency _ (by simp) (by norm_num)
  have hne : mersenne 521 ≠ mersenne 607 := (mersenne_lt_mersenne.2 (by norm_num)).ne
  have hmodulus : mersenneKey.modulus = mersenne 521 * mersenne 607 := by
    simp only [mersenneKey]
  obtain ⟨hpExponents, hqExponents⟩ :
      mersenneKey.exponent * mersenneKey.secret ≡ 1 [MOD mersenne 521 - 1] ∧
        mersenneKey.exponent * mersenneKey.secret ≡ 1 [MOD mersenne 607 - 1] := by
    decide +kernel
  exact RsaKey.isSound_of_primes hp hq hne hmodulus hpExponents hqExponents

/-- The key can sign, a receiver can handle it, and it is no smaller than that. -/
theorem isUsable_mersenneKey : mersenneKey.IsRegular ∧ Pss.meets mersenneKey.terms = true ∧
    Pss.leastBits ≤ mersenneKey.bits ∧ mersenneKey.isHandy = true ∧
    smallKey.size ≠ mersenneKey.size := by
  decide +kernel

/-- A key with a certificate, for whichever key. -/
def identityWith (key : RsaKey) (certified : RsaPublicKey) : Identity where
  key
  chain := [certificateFor certified]
  notAfter := lastInstant

@[simp] theorem key_identityWith (key : RsaKey) (certified : RsaPublicKey) :
    (identityWith key certified).key = key := rfl

/-- The certificate issued for one key and the other key, read back together. -/
theorem load_issued {certified : RsaKey} (hcertified : IsReadBack certified) (hk : IsReadBack k) :
    loadIdentity "tls.crt" "tls.key" (issued certified) (issued k) =
      .ok (identityWith k certified.toRsaPublicKey) :=
  loadIdentity_eq_ok_iff.2 ⟨hcertified.holdsChain, hk.holdsKey⟩

theorem isMatched_identityWith (hk : IsReadBack k) :
    IsMatched (identityWith k k.toRsaPublicKey) :=
  hk.publicKey?_eq

theorem exists_sign_identityWith (hk : k.IsRegular) (hterms : Pss.meets k.terms = true)
    (hbits : Pss.leastBits ≤ k.bits) (certified : RsaPublicKey) (salt payload : List UInt8) :
    ∃ e, (identityWith k certified).sign salt payload = .ok e :=
  exists_sign hk hterms hbits salt payload

theorem exists_sign_mersenneKey (certified : RsaPublicKey) (salt payload : List UInt8) :
    ∃ e, (identityWith mersenneKey certified).sign salt payload = .ok e := by
  obtain ⟨hregular, hterms, hbits, -, -⟩ := isUsable_mersenneKey
  exact exists_sign_identityWith hregular hterms hbits certified salt payload

/-! ## Loads -/

/-- What a load gives, whatever stands in the two files when they are read.

* The certificates and their end are those of the first reading, and the key is that of the second.
  They are not compared: the key goes as well with the certificates of every other load that
  succeeds.
* Every envelope of the identity says in its header that the key is the one that signs, and has the
  certificates in their order; its payload is what has been signed. If the key is sound and can be
  handled by a receiver, the envelope verifies under its own header. If the first certificate is one
  for the key, it verifies under this as well. -/
theorem load_verifies_by_header {certificatePath keyPath : String} {first second : Files}
    {i : Identity} (h : loadIdentity certificatePath keyPath first second = .ok i) :
    (HoldsChain first certificatePath i.chain i.notAfter ∧ HoldsKey second keyPath i.key ∧
      ∀ earlier later j, loadIdentity certificatePath keyPath earlier later = .ok j →
        loadIdentity certificatePath keyPath earlier second = .ok { j with key := i.key }) ∧
    ∀ salt payload e, i.sign salt payload = .ok e →
      e.claims? = some ⟨Identity.algorithm, i.key.toRsaPublicKey, i.chain.map (·.encoded)⟩ ∧
      Base64.urlSafe.decode? e.payload = some payload ∧
      (salt.length = Pss.saltSize → i.key.IsSound → i.key.isHandy = true →
        e.verifies = true ∧ (IsMatched i → e.verifiesUnderLeaf = true)) := by
  obtain ⟨hchain, hkey⟩ := loadIdentity_eq_ok_iff.1 h
  refine ⟨⟨hchain, hkey, fun earlier later j hj => ?_⟩, fun salt payload e he => ?_⟩
  · exact loadIdentity_eq_ok_iff.2 ⟨(loadIdentity_eq_ok_iff.1 hj).1, hkey⟩
  · refine ⟨claims?_of_sign he, ?_, fun hsalt hsound hhandy => ?_⟩
    · rw [(envelopeOf_of_sign he).payload]
      exact Base64.decode?_encode Base64.isFair_urlSafe payload
    · have hsigned : e.isSignedBy i.key.toRsaPublicKey = true :=
        isSignedBy_of_sign hsound hhandy hsalt he
      refine ⟨?_, fun hmatched => ?_⟩
      · rw [Envelope.verifies, claims?_of_sign he]
        exact hsigned
      · rw [Envelope.verifiesUnderLeaf, leafKey?_of_sign he, hmatched]
        exact hsigned

/-- Files that are in order: what has been loaded from them signs, and its envelope verifies under
its own header and under the first certificate there. -/
theorem load_verifies_by_header_matched :
    loadIdentity "tls.crt" "tls.key" (issued mersenneKey) (issued mersenneKey) =
      .ok (identityWith mersenneKey mersenneKey.toRsaPublicKey) ∧
    ∃ e, (identityWith mersenneKey mersenneKey.toRsaPublicKey).sign (List.replicate 64 0) [] =
        .ok e ∧ e.verifies = true ∧ e.verifiesUnderLeaf = true := by
  have hload := load_issued isReadBack_mersenneKey isReadBack_mersenneKey
  obtain ⟨-, -, -, hhandy, -⟩ := isUsable_mersenneKey
  refine ⟨hload, ?_⟩
  obtain ⟨e, he⟩ := exists_sign_mersenneKey mersenneKey.toRsaPublicKey (List.replicate 64 0) []
  obtain ⟨-, -, hverifies⟩ := (load_verifies_by_header hload).2 (List.replicate 64 0) [] e he
  obtain ⟨hheader, hleaf⟩ :=
    hverifies (List.length_replicate ..) isSound_mersenneKey hhandy
  exact ⟨e, he, hheader, hleaf (isMatched_identityWith isReadBack_mersenneKey)⟩

/-- Both files are replaced between the two readings. Before and after that, what is loaded has a
certificate for its key. The load in between succeeds too, but the key in its header is not the one
of its first certificate. It signs everything, and no envelope of it verifies under that
certificate. -/
theorem rotated_load_mismatches :
    (loadIdentity "tls.crt" "tls.key" (issued smallKey) (issued smallKey) =
        .ok (identityWith smallKey smallKey.toRsaPublicKey) ∧
      IsMatched (identityWith smallKey smallKey.toRsaPublicKey)) ∧
    (loadIdentity "tls.crt" "tls.key" (issued mersenneKey) (issued mersenneKey) =
        .ok (identityWith mersenneKey mersenneKey.toRsaPublicKey) ∧
      IsMatched (identityWith mersenneKey mersenneKey.toRsaPublicKey)) ∧
    loadIdentity "tls.crt" "tls.key" (issued smallKey) (issued mersenneKey) =
      .ok (identityWith mersenneKey smallKey.toRsaPublicKey) ∧
    ¬ IsMatched (identityWith mersenneKey smallKey.toRsaPublicKey) ∧
    (∀ salt payload, ∃ e,
      (identityWith mersenneKey smallKey.toRsaPublicKey).sign salt payload = .ok e) ∧
    ∀ salt payload e, (identityWith mersenneKey smallKey.toRsaPublicKey).sign salt payload = .ok e →
      e.verifiesUnderLeaf = false := by
  obtain ⟨-, -, -, -, hsize⟩ := isUsable_mersenneKey
  refine ⟨⟨load_issued isReadBack_smallKey isReadBack_smallKey,
      isMatched_identityWith isReadBack_smallKey⟩,
    ⟨load_issued isReadBack_mersenneKey isReadBack_mersenneKey,
      isMatched_identityWith isReadBack_mersenneKey⟩,
    load_issued isReadBack_smallKey isReadBack_mersenneKey, fun h => ?_,
    exists_sign_mersenneKey smallKey.toRsaPublicKey, fun salt payload e he => ?_⟩
  · have hkeys : smallKey.toRsaPublicKey = mersenneKey.toRsaPublicKey :=
      Option.some.inj (isReadBack_smallKey.publicKey?_eq.symm.trans h)
    exact hsize (congrArg RsaPublicKey.size hkeys)
  · have hleaf : e.claims?.bind HeaderClaims.leafKey? = some smallKey.toRsaPublicKey :=
      (leafKey?_of_sign he).trans isReadBack_smallKey.publicKey?_eq
    rw [Envelope.verifiesUnderLeaf, hleaf]
    exact isSignedBy_of_size_ne (by rwa [key_identityWith]) he

end ClusterInventory.Credentials
