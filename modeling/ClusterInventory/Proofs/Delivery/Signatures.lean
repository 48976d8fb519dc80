import ClusterInventory.Delivery.Deliverer

/-!
# The identity that deliveries are signed with

`Course.run` follows a manager from its set-up on, through any changes of the two files, renewals
and deliveries. `latestLoad` says which identity was loaded last, from the files alone and without
the manager. `signer_run` ties the two together: a manager that could be enabled signs with the
identity loaded last, and with none before the first load that succeeds. One that could not be
enabled never signs.
-/

namespace ClusterInventory.Delivery

open Credentials (Manager Files RenewOutcome loadIdentity)
open Signing (CredentialError Envelope Identity)

variable {σ : Type}

/-! ## Courses of events -/

/-- The same collector, with a list of the shipments that reached it. -/
def Collector.logged (collector : Collector σ) : Collector (σ × List Shipment) := fun s w =>
  ((collector s w.1).1, (collector s w.1).2, w.2 ++ [s])

/-- A collector that never answers. -/
def silent : Collector Unit := fun _ world => (.lost, world)

inductive Event where
  /-- From now on the files are these. -/
  | change (files : Files)
  /-- The identity is loaded anew; the files are `atKey` by the time that the key is read. -/
  | renew (atKey : Files) (now : Instant)
  | deliver (inv : Inventory) (salt : List UInt8) (now : Instant)

structure Course (σ : Type) where
  files : Files
  manager : Manager
  acks : AckCache
  world : σ

namespace Course

/-- A course begins with the set-up of its manager. -/
def start (files : Files) (now : Instant) (certificatePath keyPath : String) (wanted : Bool)
    (world : σ) : Course σ :=
  { files, manager := .setUp files now certificatePath keyPath wanted, acks := none, world }

def step (collector : Collector σ) (endpoint : String) (c : Course σ) : Event → Course σ
  | .change files => { c with files }
  | .renew atKey now =>
    { c with files := atKey, manager := (c.manager.renewBetween c.files atKey now).2 }
  | .deliver inv salt now =>
    let (_, acks, world) :=
      Delivery.deliver collector endpoint c.manager salt now inv c.acks c.world
    { c with acks, world }

def run (collector : Collector σ) (endpoint : String) (c : Course σ) (events : List Event) :
    Course σ :=
  events.foldl (step collector endpoint) c

end Course

/-! ## Loads, without a manager -/

/-- The files as they are, and the identity of the last load that succeeded. -/
structure Loads where
  files : Files
  latest : Option Identity

namespace Loads

/-- A load of the two files, of which the second is read when the files are `atKey`. One that fails
does not count. -/
def load (certificatePath keyPath : String) (l : Loads) (atKey : Files) : Loads :=
  { files := atKey
    latest := (loadIdentity certificatePath keyPath l.files atKey).toOption.or l.latest }

def step (certificatePath keyPath : String) (l : Loads) : Event → Loads
  | .change files => { l with files }
  | .renew atKey _ => l.load certificatePath keyPath atKey
  | .deliver .. => l

/-- The first load takes place with the set-up. -/
def start (certificatePath keyPath : String) (files : Files) : Loads :=
  load certificatePath keyPath ⟨files, none⟩ files

def run (certificatePath keyPath : String) (l : Loads) (events : List Event) : Loads :=
  events.foldl (step certificatePath keyPath) l

theorem isSome_latest_step (certificatePath keyPath : String) {l : Loads}
    (h : l.latest.isSome = true) (e : Event) :
    (l.step certificatePath keyPath e).latest.isSome = true := by
  cases e with
  | change files => exact h
  | renew atKey now => simp [step, load, h]
  | deliver inv salt now => exact h

/-- Once an identity has been loaded there is one. -/
theorem isSome_latest_run (certificatePath keyPath : String) {l : Loads}
    (h : l.latest.isSome = true) (events : List Event) :
    (l.run certificatePath keyPath events).latest.isSome = true := by
  induction events generalizing l with
  | nil => exact h
  | cons e events ih => exact ih (isSome_latest_step certificatePath keyPath h e)

end Loads

/-- The identity of the most recent load that succeeded, the one at the set-up included. -/
def latestLoad (certificatePath keyPath : String) (files : Files) (events : List Event) :
    Option Identity :=
  ((Loads.start certificatePath keyPath files).run certificatePath keyPath events).latest

theorem isSome_latestLoad_append {certificatePath keyPath : String} {files : Files}
    {events : List Event} (h : (latestLoad certificatePath keyPath files events).isSome = true)
    (later : List Event) :
    (latestLoad certificatePath keyPath files (events ++ later)).isSome = true := by
  unfold latestLoad Loads.run at h ⊢
  rw [List.foldl_append]
  exact Loads.isSome_latest_run certificatePath keyPath h later

/-! ## What a manager holds -/

/-- An enabled manager holds the identity that was loaded last. -/
structure Course.Holds (certificatePath keyPath : String) (l : Loads) (c : Course σ) : Prop where
  files : c.files = l.files
  isEnabled : c.manager.isEnabled = true
  certificatePath : c.manager.certificatePath = certificatePath
  keyPath : c.manager.keyPath = keyPath
  identity : c.manager.identity = l.latest

section Manager

variable {certificatePath keyPath : String} {m : Manager}

theorem renewBetween_of_enabled (h : m.isEnabled = true) (first second : Files) (now : Instant) :
    (m.renewBetween first second now).2 = { m with identity :=
      (loadIdentity m.certificatePath m.keyPath first second).toOption.or m.identity } := by
  unfold Manager.renewBetween
  rw [if_pos h]
  cases loadIdentity m.certificatePath m.keyPath first second <;> rfl

theorem renewBetween_disabled (first second : Files) (now : Instant) :
    Manager.disabled.renewBetween first second now = (.disabled, .disabled) :=
  rfl

end Manager

namespace Course

variable {certificatePath keyPath endpoint : String} {collector : Collector σ} {l : Loads}
  {c : Course σ}

namespace Holds

theorem start {files : Files} {wanted : Bool}
    (h : Manager.canEnable files certificatePath keyPath wanted = true) (now : Instant)
    (world : σ) :
    (Course.start files now certificatePath keyPath wanted world).Holds certificatePath keyPath
      (.start certificatePath keyPath files) := by
  have hrenew : ((Manager.unloaded certificatePath keyPath).renew files now).2 =
      { Manager.unloaded certificatePath keyPath with
        identity := (loadIdentity certificatePath keyPath files files).toOption.or none } :=
    renewBetween_of_enabled rfl files files now
  have hsetUp : Manager.setUp files now certificatePath keyPath wanted =
      { ((Manager.unloaded certificatePath keyPath).renew files now).2 with
        firstDelay := ((Manager.unloaded certificatePath keyPath).renew files now).1.next? } := by
    rw [Manager.setUp, if_pos h]
  constructor <;> simp only [Course.start, hsetUp, hrenew] <;> rfl

theorem step (h : c.Holds certificatePath keyPath l) (e : Event) :
    (c.step collector endpoint e).Holds certificatePath keyPath
      (l.step certificatePath keyPath e) := by
  cases e with
  | change files => exact { h with files := rfl }
  | renew atKey now =>
    have hm := renewBetween_of_enabled h.isEnabled c.files atKey now
    constructor <;> simp only [Course.step, Loads.step, Loads.load, hm]
    · exact h.isEnabled
    · exact h.certificatePath
    · exact h.keyPath
    · rw [h.certificatePath, h.keyPath, h.files, h.identity]
  | deliver inv salt now => exact { h with }

theorem run (h : c.Holds certificatePath keyPath l) (events : List Event) :
    (c.run collector endpoint events).Holds certificatePath keyPath
      (l.run certificatePath keyPath events) := by
  induction events generalizing c l with
  | nil => exact h
  | cons e events ih => exact ih (h.step e)

theorem signer_eq (h : c.Holds certificatePath keyPath l) : signer c.manager = l.latest := by
  rw [signer, if_pos h.isEnabled, h.identity]

end Holds

/-- A manager that has not been enabled at its set-up never is. -/
theorem manager_run_of_disabled (h : c.manager = .disabled) (events : List Event) :
    (c.run collector endpoint events).manager = .disabled := by
  induction events generalizing c with
  | nil => exact h
  | cons e events ih =>
    refine ih ?_
    cases e with
    | change files => exact h
    | renew atKey now => simp only [step, h, renewBetween_disabled]
    | deliver inv salt now => exact h

theorem manager_start_of_disabled {files : Files} {wanted : Bool}
    (h : Manager.canEnable files certificatePath keyPath wanted = false) (now : Instant)
    (world : σ) :
    (start files now certificatePath keyPath wanted world).manager = .disabled := by
  simp [start, Manager.setUp, h]

end Course

/-- The identity that a delivery after some events has to be signed with: the one loaded last, where
the manager could be enabled at its set-up. -/
def identityDue (certificatePath keyPath : String) (wanted : Bool) (files : Files)
    (events : List Event) : Option Identity :=
  if Manager.canEnable files certificatePath keyPath wanted then
    latestLoad certificatePath keyPath files events
  else none

theorem identityDue_eq_some_iff {certificatePath keyPath : String} {wanted : Bool} {files : Files}
    {events : List Event} {i : Identity} :
    identityDue certificatePath keyPath wanted files events = some i ↔
      Manager.canEnable files certificatePath keyPath wanted = true ∧
        latestLoad certificatePath keyPath files events = some i := by
  simp [identityDue]

theorem isSome_identityDue_append {certificatePath keyPath : String} {wanted : Bool} {files : Files}
    {events : List Event}
    (h : (identityDue certificatePath keyPath wanted files events).isSome = true)
    (later : List Event) :
    (identityDue certificatePath keyPath wanted files (events ++ later)).isSome = true := by
  obtain ⟨i, hi⟩ := Option.isSome_iff_exists.1 h
  obtain ⟨hcan, hlatest⟩ := identityDue_eq_some_iff.1 hi
  rw [identityDue, if_pos hcan]
  exact isSome_latestLoad_append (by rw [hlatest]; rfl) later

/-- After any course of events a manager signs with the identity that is due, or not at all. -/
theorem signer_run {collector : Collector σ} {endpoint certificatePath keyPath : String}
    {wanted : Bool} {files : Files} {begun : Instant} {world : σ} {events : List Event} :
    signer ((Course.start files begun certificatePath keyPath wanted world).run collector endpoint
      events).manager = identityDue certificatePath keyPath wanted files events := by
  unfold identityDue
  split
  · next hcan => exact ((Course.Holds.start hcan begun world).run events).signer_eq
  · next hcan =>
    rw [Course.manager_run_of_disabled
      (Course.manager_start_of_disabled (Bool.eq_false_iff.2 hcan) begun world)]
    rfl

/-! ## What a delivery sends -/

/-- The document that a delivery is about. -/
def documentBytes (inv : Inventory) : List UInt8 := Text.Utf8.bytes inv.toJson.text

/-- The envelope holds a document, and both its header and its signature are those of one
identity. -/
structure EnvelopeOf (i : Identity) (salt document : List UInt8) (e : Envelope) : Prop where
  payload : e.payload = Bytes.Base64.urlSafe.encode document
  protectedHeader : e.protectedHeader = i.protectedHeader
  signature : ∃ signature,
    Signing.Pss.sign? i.key salt (Envelope.signingInput i.protectedHeader e.payload) =
      some signature ∧ e.signature = Bytes.Base64.urlSafe.encode signature

theorem envelopeOf_of_sign {i : Identity} {salt document : List UInt8} {e : Envelope}
    (h : i.sign salt document = .ok e) : EnvelopeOf i salt document e := by
  simp only [Identity.sign] at h
  split at h
  · cases h
  · next signature hsign =>
    cases h
    exact ⟨rfl, rfl, signature, hsign, rfl⟩

/-- The request with a body. -/
def shipmentOf (endpoint : String) (body : Body) : Shipment :=
  { endpoint, contentType := body.contentType, body := body.compressed }

section Deliver

variable {collector : Collector σ} {endpoint : String} {m : Manager} {salt : List UInt8}
  {now : Instant} {inv : Inventory} {acks : AckCache} {world : σ × List Shipment}

/-- A delivery with a body makes the one shipment that carries it. -/
theorem log_deliver_of_encode {body : Body} (h : encode m salt inv = .ok body) :
    (deliver collector.logged endpoint m salt now inv acks world).2.2.2 =
      world.2 ++ [shipmentOf endpoint body] := by
  have hsend : (send collector.logged endpoint m salt now inv world).2.2 =
      world.2 ++ [shipmentOf endpoint body] := by
    simp only [send, h]
    rfl
  rw [← hsend]
  unfold deliver
  split <;> next heq => rw [heq]

theorem deliver_of_encode_error {cause : CredentialError} (h : encode m salt inv = .error cause) :
    deliver collector.logged endpoint m salt now inv acks world =
      (.error (.sign cause), acks, world) := by
  simp only [deliver, send, h]

theorem encode_of_unsigned (h : signer m = none) : encode m salt inv =
    .ok ⟨documentType, false, Bytes.Gzip.compress (documentBytes inv)⟩ := by
  simp only [encode, h]
  rfl

theorem encode_of_signed {i : Identity} (h : signer m = some i) : encode m salt inv =
    (i.sign salt (documentBytes inv)).map fun e =>
      ⟨envelopeType, true, Bytes.Gzip.compress (Text.Utf8.bytes e.toJson.text)⟩ := by
  simp only [encode, h]
  rfl

end Deliver

end ClusterInventory.Delivery
