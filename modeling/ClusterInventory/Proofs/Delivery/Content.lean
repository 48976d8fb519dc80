import ClusterInventory.Proofs.Bytes.Gzip
import ClusterInventory.Proofs.Credentials.Rotation

/-!
# What a receiver finds in a body

A body is expanded first. What comes out is the document of the inventory or an envelope around it,
and a receiver can tell which by any one of three marks: what the sender says, the content type, and
the member that the text begins with (`Body.HasForm`). An envelope is one of the identity in use,
with the certificates of its file in their order (`CertificatesInOrder`). Whichever mark it goes by,
the receiver gets back the bytes of the document (`encode_document`).
-/

namespace ClusterInventory

/-- The name of the first member of the object that a text begins with. -/
def Json.firstMember? (text : String) : Option String :=
  match text.toList with
  | '\x7b' :: '"' :: rest => (Json.readChars [] true rest).bind (·.1)
  | _ => none

theorem Json.firstMember?_text (key : String) (v : Json) (members : List (String × Json)) :
    Json.firstMember? (Json.obj ((key, v) :: members)).text = some key := by
  simp [Json.firstMember?, Json.text, Json.write, Json.writeString, Json.readChars_writeChars]

namespace Signing

open Json (nil_eq_slots cons_slots)

/-! ## Envelopes read back -/

namespace Envelope

def decoder : Decoder Envelope := Decoder.record do
  let payload ← Fields.required "payload" Decoder.string
  let protectedHeader ← Fields.required "protected" Decoder.string
  let signature ← Fields.required "signature" Decoder.string
  return { payload, protectedHeader, signature }

/-- The envelope that is written in some bytes. -/
def read? (content : List UInt8) : Option Envelope := do
  decoder (← Json.parse? (← Text.Utf8.decode? content))

theorem decoder_toJson (e : Envelope) : decoder e.toJson = some e := by
  simp only [toJson, nil_eq_slots, cons_slots]
  exact Decoder.record_slots
    (.bind (.string rfl) <| .bind (.string rfl) <| .bind (.string rfl) (.pure e))

theorem isExact_toJson (e : Envelope) : e.toJson.isExact = true := rfl

theorem read?_bytes (e : Envelope) : read? (Text.Utf8.bytes e.toJson.text) = some e := by
  simp [read?, Text.Utf8.decode?_bytes, Json.parse?_text e.isExact_toJson, decoder_toJson]

end Envelope

/-! ## Certificates in the order of their file -/

/-- The blocks of a file that hold certificates, in their order. -/
def certificateBlocks (content : List UInt8) : List PemBlock :=
  ((Pem.blocks content).filterMap Except.toOption).filter (·.label ∈ Certificate.labels)

/-- Each block with a certificate has given one of them, and they are in the order of the blocks. -/
def CertificatesInOrder (content : List UInt8) (chain : List Certificate) : Prop :=
  (certificateBlocks content).map (fun b => Certificate.ofBytes? b.data) = chain.map some

theorem Certificate.map_ofBytes?_of_ofBlocks {blocks : List (Except PemFault PemBlock)}
    {chain : List Certificate} (h : Certificate.ofBlocks blocks = .ok chain) :
    ((blocks.filterMap Except.toOption).filter (·.label ∈ Certificate.labels)).map
      (fun b => Certificate.ofBytes? b.data) = chain.map some := by
  induction blocks generalizing chain with
  | nil =>
    cases h
    rfl
  | cons block blocks ih =>
    cases block with
    | error fault => cases h
    | ok b =>
      rw [Certificate.ofBlocks] at h
      split at h
      · next hlabel =>
        cases hfault : b.headerFault? with
        | some fault =>
          rw [hfault] at h
          cases h
        | none =>
          rw [hfault] at h
          cases hcertificate : Certificate.ofBytes? b.data with
          | none =>
            rw [hcertificate] at h
            cases h
          | some c =>
            rw [hcertificate] at h
            cases hrest : Certificate.ofBlocks blocks with
            | error fault =>
              rw [hrest] at h
              cases h
            | ok rest =>
              rw [hrest] at h
              cases h
              simp [Except.toOption, hlabel, hcertificate, ih hrest]
      · next hlabel => simp [Except.toOption, hlabel, ih h]

end Signing

namespace Delivery

open Bytes (Base64)
open Credentials (Files HoldsKey Manager exists_sign_mersenneKey identityWith isReadBack_mersenneKey
  issued loadIdentity loadIdentity_eq_ok_iff load_issued mersenneKey)
open Signing (CertificatesInOrder Envelope HeaderClaims Identity)

variable {σ : Type}

/-! ## Where an identity comes from -/

/-- The states of the files that loads have found: the certificates are read from the first of a
pair, the key from the second. -/
def readings (files : Files) : List Event → List (Files × Files)
  | [] => []
  | .change files :: events => readings files events
  | .renew atKey _ :: events => (files, atKey) :: readings atKey events
  | .deliver .. :: events => readings files events

theorem exists_reading_of_run {certificatePath keyPath : String} {l : Loads} {events : List Event}
    {i : Identity} (h : (l.run certificatePath keyPath events).latest = some i) :
    l.latest = some i ∨
      ∃ r ∈ readings l.files events, loadIdentity certificatePath keyPath r.1 r.2 = .ok i := by
  induction events generalizing l with
  | nil => exact .inl h
  | cons e events ih =>
    cases e with
    | change files => exact ih h
    | deliver inv salt now => exact ih h
    | renew atKey now =>
      obtain hlatest | ⟨r, hr, hload⟩ := ih h
      · cases hload : loadIdentity certificatePath keyPath l.files atKey with
        | ok j =>
          simp only [Loads.step, Loads.load, hload, Except.toOption, Option.some_or] at hlatest
          cases hlatest
          exact .inr ⟨(l.files, atKey), List.mem_cons_self .., hload⟩
        | error fault =>
          simp only [Loads.step, Loads.load, hload, Except.toOption, Option.none_or] at hlatest
          exact .inl hlatest
      · exact .inr ⟨r, List.mem_cons_of_mem _ hr, hload⟩

/-- The identity loaded last is that of one reading, the one at the set-up included. -/
theorem exists_reading_of_latestLoad {certificatePath keyPath : String} {files : Files}
    {events : List Event} {i : Identity}
    (h : latestLoad certificatePath keyPath files events = some i) :
    ∃ r ∈ (files, files) :: readings files events,
      loadIdentity certificatePath keyPath r.1 r.2 = .ok i := by
  obtain hlatest | ⟨r, hr, hload⟩ := exists_reading_of_run h
  · cases hload : loadIdentity certificatePath keyPath files files with
    | ok j =>
      simp only [Loads.start, Loads.load, hload, Except.toOption, Option.some_or] at hlatest
      cases hlatest
      exact ⟨(files, files), List.mem_cons_self .., hload⟩
    | error fault =>
      simp only [Loads.start, Loads.load, hload, Except.toOption, Option.none_or] at hlatest
      cases hlatest
  · exact ⟨r, List.mem_cons_of_mem _ hr, hload⟩

/-- An identity with the certificates of one file, in their order there, and the key of another. -/
def LoadedFrom (certificatePath keyPath : String) (i : Identity) (r : Files × Files) : Prop :=
  (∃ content, r.1.read certificatePath = .ok content ∧ CertificatesInOrder content i.chain) ∧
    HoldsKey r.2 keyPath i.key

theorem loadedFrom_of_loadIdentity {certificatePath keyPath : String} {i : Identity}
    {r : Files × Files} (h : loadIdentity certificatePath keyPath r.1 r.2 = .ok i) :
    LoadedFrom certificatePath keyPath i r := by
  obtain ⟨⟨content, hread, hblocks, -⟩, hkey⟩ := loadIdentity_eq_ok_iff.1 h
  exact ⟨⟨content, hread, Signing.Certificate.map_ofBytes?_of_ofBlocks hblocks⟩, hkey⟩

/-- The identity in use after any course of events has been loaded from the files. -/
theorem exists_loadedFrom_of_signer {collector : Collector σ}
    {endpoint certificatePath keyPath : String} {wanted : Bool} {files : Files} {begun : Instant}
    {world : σ} {events : List Event} {i : Identity}
    (h : signer ((Course.start files begun certificatePath keyPath wanted world).run collector
      endpoint events).manager = some i) :
    ∃ r ∈ (files, files) :: readings files events, LoadedFrom certificatePath keyPath i r := by
  rw [signer_run] at h
  obtain ⟨r, hr, hload⟩ := exists_reading_of_latestLoad (identityDue_eq_some_iff.1 h).2
  exact ⟨r, hr, loadedFrom_of_loadIdentity hload⟩

/-! ## Bodies at their receiver -/

namespace Body

/-- What has been compressed. -/
def content? (b : Body) : Option (List UInt8) := Bytes.Gzip.expand? b.compressed

/-- The member that the content begins with. -/
def firstMember? (b : Body) : Option String :=
  (b.content?.bind Text.Utf8.decode?).bind Json.firstMember?

/-- The document in a body, which has it in an envelope or as it is. -/
def document? (b : Body) (isEnveloped : Bool) : Option (List UInt8) := do
  let content ← b.content?
  if isEnveloped then Base64.urlSafe.decode? (← Envelope.read? content).payload else some content

/-- All marks of a body say that it has an envelope, or all of them say that it has none. -/
structure HasForm (b : Body) (isEnveloped : Bool) : Prop where
  isSigned : b.isSigned = isEnveloped
  contentType : b.contentType =
    if isEnveloped then "application/jose+json" else "application/json; charset=UTF-8"
  firstMember? : b.firstMember? = some (if isEnveloped then "payload" else "inventory_version")

/-- The envelope around a document, with the three parts that a receiver decodes. -/
structure EnvelopeIn (i : Identity) (salt document : List UInt8) (b : Body) (e : Envelope) :
    Prop where
  content : b.content? = some (Text.Utf8.bytes e.toJson.text)
  json : Json.parse? e.toJson.text = some (.obj [("payload", .str e.payload),
    ("protected", .str e.protectedHeader), ("signature", .str e.signature)])
  payload : Base64.urlSafe.decode? e.payload = some document
  protectedHeader : Base64.urlSafe.decode? e.protectedHeader =
    some (Text.Utf8.bytes (Identity.header i.key.toRsaPublicKey i.chain).text)
  claims : e.claims? = some ⟨"PS512", i.key.toRsaPublicKey, i.chain.map (·.encoded)⟩
  signature : ∃ signature,
    Signing.Pss.sign? i.key salt
      (Text.Utf8.bytes (e.protectedHeader ++ "." ++ e.payload)) = some signature ∧
    Base64.urlSafe.decode? e.signature = some signature

theorem HasForm.decide {b : Body} {isEnveloped : Bool} (h : b.HasForm isEnveloped) :
    (b.contentType == "application/jose+json") = isEnveloped ∧
      (b.firstMember? == some "payload") = isEnveloped := by
  rw [h.contentType, h.firstMember?]
  cases isEnveloped <;> exact ⟨rfl, rfl⟩

end Body

section Encode

variable {m : Manager} {salt : List UInt8} {inv : Inventory} {body : Body}

theorem content?_compress (contentType : String) (isSigned : Bool) (bytes : List UInt8) :
    (Body.mk contentType isSigned (Bytes.Gzip.compress bytes)).content? = some bytes :=
  Bytes.Gzip.expand?_compress bytes

theorem firstMember?_of_content {j : Json} {key : String} {members : List (String × Json)}
    (h : body.content? = some (Text.Utf8.bytes j.text)) {v : Json}
    (hj : j = .obj ((key, v) :: members)) : body.firstMember? = some key := by
  rw [Body.firstMember?, h, Option.bind_some, Text.Utf8.decode?_bytes, Option.bind_some, hj,
    Json.firstMember?_text]

/-- Without an identity a body has the document as it is. -/
theorem hasForm_of_unsigned (hm : signer m = none) (h : encode m salt inv = .ok body) :
    body.HasForm false ∧ body.content? = some (documentBytes inv) := by
  rw [encode_of_unsigned hm] at h
  cases h
  have hcontent := content?_compress documentType false (documentBytes inv)
  exact ⟨⟨rfl, rfl, firstMember?_of_content hcontent rfl⟩, hcontent⟩

/-- With an identity a body has an envelope of it around the document. -/
theorem hasForm_of_signed {i : Identity} (hm : signer m = some i)
    (h : encode m salt inv = .ok body) :
    body.HasForm true ∧ ∃ e, i.sign salt (documentBytes inv) = .ok e ∧
      body.EnvelopeIn i salt (documentBytes inv) e := by
  rw [encode_of_signed hm] at h
  cases hsign : i.sign salt (documentBytes inv) with
  | error cause =>
    rw [hsign] at h
    cases h
  | ok e =>
    rw [hsign] at h
    cases h
    have hcontent := content?_compress envelopeType true (Text.Utf8.bytes e.toJson.text)
    have he := envelopeOf_of_sign hsign
    obtain ⟨signature, hsigned, hsignature⟩ := he.signature
    refine ⟨⟨rfl, rfl, firstMember?_of_content hcontent rfl⟩, e, rfl, ?_⟩
    constructor
    case content => exact hcontent
    case json => exact Json.parse?_text e.isExact_toJson
    case payload =>
      rw [he.payload]
      exact Base64.decode?_encode Base64.isFair_urlSafe _
    case protectedHeader =>
      rw [he.protectedHeader]
      exact Base64.decode?_encode Base64.isFair_urlSafe _
    case claims => exact Credentials.claims?_of_sign hsign
    case signature =>
      refine ⟨signature, ?_, ?_⟩
      · rw [he.protectedHeader]
        exact hsigned
      · rw [hsignature]
        exact Base64.decode?_encode Base64.isFair_urlSafe _

theorem document?_of_content (h : body.content? = some (documentBytes inv)) :
    body.document? false = some (documentBytes inv) := by
  simp [Body.document?, h]

theorem document?_of_envelopeIn {i : Identity} {document : List UInt8} {e : Envelope}
    (h : body.EnvelopeIn i salt document e) : body.document? true = some document := by
  simp [Body.document?, h.content, Envelope.read?_bytes, h.payload]

end Encode

/-- What a receiver finds in the body of an inventory, whatever has happened to the manager and its
files since the set-up.

* Where no identity is in use, the body has the document as it is, and every body can be made.
* Where one is in use, the body has an envelope. Its payload is the document; its header names the
  algorithm, the key of the identity and all its certificates; its signature is the one for the two
  parts as they are sent. The certificates are those of the file at one of the readings so far, in
  the order in which they stand there, and the key is that of the same reading.
* The receiver gets the document back, whichever of the three marks it goes by, since they never
  disagree. -/
theorem encode_document (collector : Collector σ) (endpoint certificatePath keyPath : String)
    (wanted : Bool) (files : Files) (begun : Instant) (world : σ) (events : List Event)
    (inv : Inventory) (salt : List UInt8) :
    let m := ((Course.start files begun certificatePath keyPath wanted world).run collector
      endpoint events).manager
    (signer m = none → ∃ body, encode m salt inv = .ok body) ∧
    ∀ body, encode m salt inv = .ok body →
      body.HasForm (signer m).isSome ∧
      (signer m = none → body.content? = some (Text.Utf8.bytes inv.toJson.text)) ∧
      (∀ i, signer m = some i →
        (∃ e, body.EnvelopeIn i salt (Text.Utf8.bytes inv.toJson.text) e) ∧
        ∃ r ∈ (files, files) :: readings files events,
          LoadedFrom certificatePath keyPath i r) ∧
      ∀ isEnveloped ∈ [body.isSigned, body.contentType == "application/jose+json",
          body.firstMember? == some "payload"],
        body.document? isEnveloped = some (Text.Utf8.bytes inv.toJson.text) := by
  intro m
  refine ⟨fun hm => ⟨_, encode_of_unsigned hm⟩, fun body h => ?_⟩
  have hmarks : ∀ {isEnveloped : Bool}, body.HasForm isEnveloped →
      body.document? isEnveloped = some (documentBytes inv) →
      ∀ mark ∈ [body.isSigned, body.contentType == "application/jose+json",
        body.firstMember? == some "payload"], body.document? mark = some (documentBytes inv) := by
    intro isEnveloped hform hdocument mark hmark
    obtain ⟨htype, hfirst⟩ := hform.decide
    have : mark = isEnveloped := by
      simpa [hform.isSigned, htype, hfirst] using hmark
    rw [this]
    exact hdocument
  cases hm : signer m with
  | none =>
    obtain ⟨hform, hcontent⟩ := hasForm_of_unsigned hm h
    exact ⟨hform, fun _ => hcontent, fun i hi => (by cases hi),
      hmarks hform (document?_of_content hcontent)⟩
  | some i =>
    obtain ⟨hform, e, -, he⟩ := hasForm_of_signed hm h
    refine ⟨hform, fun hnone => (by cases hnone), fun j hj => ?_,
      hmarks hform (document?_of_envelopeIn he)⟩
    cases hj
    exact ⟨⟨e, he⟩, exists_loadedFrom_of_signer hm⟩

/-- A key with its certificate is there from the set-up on: the body has an envelope of it, out of
which the receiver gets the document. -/
theorem encode_document_issued :
    let c := (Course.start (issued mersenneKey) .epoch "tls.crt" "tls.key" true ()).run silent "" []
    ∃ body, encode c.manager (List.replicate 64 0) {} = .ok body ∧ body.HasForm true ∧
      body.document? true = some (Text.Utf8.bytes ({} : Inventory).toJson.text) := by
  intro c
  have hcan : Manager.canEnable (issued mersenneKey) "tls.crt" "tls.key" true = true := by
    decide +kernel
  have hload : latestLoad "tls.crt" "tls.key" (issued mersenneKey) [] =
      some (identityWith mersenneKey mersenneKey.toRsaPublicKey) := by
    simp only [latestLoad, Loads.run, List.foldl_nil, Loads.start, Loads.load,
      load_issued isReadBack_mersenneKey isReadBack_mersenneKey]
    rfl
  have hsigner : signer c.manager = some _ :=
    signer_run.trans (identityDue_eq_some_iff.2 ⟨hcan, hload⟩)
  obtain ⟨e, he⟩ := exists_sign_mersenneKey mersenneKey.toRsaPublicKey (List.replicate 64 0)
    (documentBytes {})
  obtain ⟨body, hbody⟩ : ∃ body, encode c.manager (List.replicate 64 0) {} = .ok body := by
    rw [encode_of_signed hsigner, he]
    exact ⟨_, rfl⟩
  obtain ⟨hform, -, -, hdocument⟩ := (encode_document silent "" "tls.crt" "tls.key" true
    (issued mersenneKey) .epoch () [] {} (List.replicate 64 0)).2 body hbody
  rw [hsigner] at hform
  refine ⟨body, hbody, hform, ?_⟩
  have hmark : body.isSigned = true := hform.isSigned
  rw [← hmark]
  exact hdocument _ (List.mem_cons_self ..)

end Delivery

end ClusterInventory
