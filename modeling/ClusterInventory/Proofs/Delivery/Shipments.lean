import ClusterInventory.Proofs.Delivery.Content

/-!
# No delivery is less signed than it can be

A shipment is taken here as its receiver has it: the form by the content type, and the document,
the header and the signature as they are decoded from the body (`Shipment.IsPlain`,
`Shipment.IsSigned`). From the first load on that succeeds, every shipment is signed by the identity
loaded last, and before that, or where signing is not wanted or not possible, every shipment is a
plain document (`deliver_signed_iff_loaded`).
-/

namespace ClusterInventory.Delivery

open Credentials (Files Manager exists_sign_mersenneKey identityWith isReadBack_mersenneKey issued
  loadIdentity load_issued mersenneKey)
open Signing (Envelope Identity)

variable {σ : Type}

/-! ## Shipments at their receiver -/

namespace Shipment

/-- The body of a shipment. A receiver goes by the content type. -/
def received (s : Shipment) : Body :=
  { contentType := s.contentType, isSigned := s.contentType == "application/jose+json"
    compressed := s.body }

/-- The request that takes an inventory to an endpoint. -/
structure IsRequest (s : Shipment) (endpoint : String) : Prop where
  endpoint : s.endpoint = endpoint
  method : s.method = "PUT"
  contentEncoding : s.contentEncoding = "gzip"

/-- A request with a document as it is. -/
structure IsPlain (s : Shipment) (endpoint : String) (document : List UInt8) : Prop
    extends s.IsRequest endpoint where
  form : s.received.HasForm false
  content : s.received.content? = some document

/-- A request with a document in an envelope, whose header and signature are those of an
identity. -/
structure IsSigned (s : Shipment) (endpoint : String) (i : Identity) (salt document : List UInt8)
    (e : Envelope) : Prop extends s.IsRequest endpoint where
  form : s.received.HasForm true
  envelope : s.received.EnvelopeIn i salt document e
  document : s.received.document? true = some document

/-- A request with a document, signed by the identity that is due or plain if there is none. -/
def Carries (s : Shipment) (endpoint : String) (salt document : List UInt8) :
    Option Identity → Prop
  | none => s.IsPlain endpoint document
  | some i => ∃ e, i.sign salt document = .ok e ∧ s.IsSigned endpoint i salt document e

end Shipment

/-! ## One delivery -/

section Deliver

variable {collector : Collector σ} {endpoint : String} {m : Manager} {salt : List UInt8}
  {now : Instant} {inv : Inventory} {acks : AckCache} {world : σ × List Shipment}

/-- The form by the content type is the one that the sender says. -/
theorem received_shipmentOf {body : Body} {isEnveloped : Bool} (h : body.HasForm isEnveloped) :
    (shipmentOf endpoint body).received = body := by
  rw [Shipment.received, shipmentOf, h.decide.1, ← h.isSigned]

theorem isPlain_shipmentOf {body : Body} {document : List UInt8} (hform : body.HasForm false)
    (hcontent : body.content? = some document) :
    (shipmentOf endpoint body).IsPlain endpoint document := by
  refine { endpoint := rfl, method := rfl, contentEncoding := rfl, form := ?_, content := ?_ } <;>
    rw [received_shipmentOf hform]
  · exact hform
  · exact hcontent

theorem isSigned_shipmentOf {body : Body} {i : Identity} {document : List UInt8} {e : Envelope}
    (hform : body.HasForm true) (he : body.EnvelopeIn i salt document e) :
    (shipmentOf endpoint body).IsSigned endpoint i salt document e := by
  refine { endpoint := rfl, method := rfl, contentEncoding := rfl, form := ?_, envelope := ?_
           document := ?_ } <;> rw [received_shipmentOf hform]
  · exact hform
  · exact he
  · exact document?_of_envelopeIn he

theorem deliver_of_unsigned (h : signer m = none) :
    ∃ s, (deliver collector.logged endpoint m salt now inv acks world).2.2.2 = world.2 ++ [s] ∧
      s.IsPlain endpoint (documentBytes inv) := by
  have hencode : encode m salt inv = .ok _ := encode_of_unsigned h
  obtain ⟨hform, hcontent⟩ := hasForm_of_unsigned h hencode
  exact ⟨_, log_deliver_of_encode hencode, isPlain_shipmentOf hform hcontent⟩

/-- A delivery that has to be signed is signed, or fails without having sent anything. -/
theorem deliver_of_signed {i : Identity} (h : signer m = some i) :
    (∃ e s, i.sign salt (documentBytes inv) = .ok e ∧
      (deliver collector.logged endpoint m salt now inv acks world).2.2.2 = world.2 ++ [s] ∧
      s.IsSigned endpoint i salt (documentBytes inv) e) ∨
    (∃ cause, i.sign salt (documentBytes inv) = .error cause ∧
      deliver collector.logged endpoint m salt now inv acks world =
        (.error (.sign cause), acks, world)) := by
  cases hencode : encode m salt inv with
  | ok body =>
    obtain ⟨hform, e, he, henvelope⟩ := hasForm_of_signed h hencode
    exact .inl ⟨e, _, he, log_deliver_of_encode hencode, isSigned_shipmentOf hform henvelope⟩
  | error cause =>
    refine .inr ⟨cause, ?_, deliver_of_encode_error hencode⟩
    rw [encode_of_signed h] at hencode
    cases hsign : i.sign salt (documentBytes inv) with
    | ok e =>
      rw [hsign] at hencode
      cases hencode
    | error fault =>
      rw [hsign] at hencode
      cases hencode
      rfl

/-- A delivery adds at most one shipment, with what is due. -/
theorem mem_log_deliver {s : Shipment}
    (h : s ∈ (deliver collector.logged endpoint m salt now inv acks world).2.2.2) :
    s ∈ world.2 ∨ s.Carries endpoint salt (documentBytes inv) (signer m) := by
  cases hsigner : signer m with
  | none =>
    obtain ⟨s', hlog, hplain⟩ := deliver_of_unsigned hsigner
    rw [hlog, List.mem_append, List.mem_singleton] at h
    obtain hs | rfl := h
    · exact .inl hs
    · exact .inr hplain
  | some i =>
    obtain ⟨e, s', hsign, hlog, hsigned⟩ | ⟨cause, -, hfailed⟩ := deliver_of_signed hsigner
    · rw [hlog, List.mem_append, List.mem_singleton] at h
      obtain hs | rfl := h
      · exact .inl hs
      · exact .inr ⟨e, hsign, hsigned⟩
    · rw [hfailed] at h
      exact .inl h

end Deliver

/-! ## Courses of deliveries -/

namespace Course

/-- Only deliveries reach the collector. -/
theorem world_step_of_quiet (collector : Collector σ) (endpoint : String) (c : Course σ)
    {e : Event} (h : ∀ inv salt now, e ≠ .deliver inv salt now) :
    (c.step collector endpoint e).world = c.world := by
  cases e with
  | change files => rfl
  | renew atKey now => rfl
  | deliver inv salt now => exact absurd rfl (h inv salt now)

theorem run_concat (collector : Collector σ) (endpoint : String) (c : Course σ)
    (events : List Event) (e : Event) :
    c.run collector endpoint (events ++ [e]) =
      (c.run collector endpoint events).step collector endpoint e := by
  simp [run]

/-- Every shipment so far is that of one delivery, and carries what was due at that time. -/
theorem carries_of_mem_log {collector : Collector σ} {endpoint certificatePath keyPath : String}
    {wanted : Bool} {files : Files} {begun : Instant} {world : σ} {events : List Event}
    {s : Shipment}
    (h : s ∈ ((start files begun certificatePath keyPath wanted (world, [])).run collector.logged
      endpoint events).world.2) :
    ∃ before inv salt now later, events = before ++ .deliver inv salt now :: later ∧
      s.Carries endpoint salt (documentBytes inv)
        (identityDue certificatePath keyPath wanted files before) := by
  induction events using List.reverseRecOn with
  | nil => cases h
  | append_singleton events e ih =>
    rw [run_concat] at h
    have hbefore (hs : s ∈ ((start files begun certificatePath keyPath wanted (world, [])).run
        collector.logged endpoint events).world.2) :
        ∃ before inv salt now later, events ++ [e] = before ++ .deliver inv salt now :: later ∧
          s.Carries endpoint salt (documentBytes inv)
            (identityDue certificatePath keyPath wanted files before) := by
      obtain ⟨before, inv, salt, now, later, rfl, hcarries⟩ := ih hs
      exact ⟨before, inv, salt, now, later ++ [e], by simp, hcarries⟩
    cases e with
    | change files => exact hbefore h
    | renew atKey now => exact hbefore h
    | deliver inv salt now =>
      obtain hs | hcarries := mem_log_deliver h
      · exact hbefore hs
      · rw [signer_run] at hcarries
        exact ⟨events, inv, salt, now, [], rfl, hcarries⟩

end Course

/-- What deliveries send, in any course of events since the set-up of their manager. The log of the
collector has everything that was sent.

* Where an identity is due, which is the one that was loaded last, the next delivery sends one
  request with an envelope: out of its body come the document, a header that names the key and the
  certificates of that identity, and a signature by it over the two parts. If the identity cannot
  sign, the delivery fails for that reason, and sends and changes nothing.
* Where none is due, the next delivery sends one request with the plain document.
* So it was with every request so far: each is that of one delivery among the events, and carries
  what was due when that delivery was made.
* Once an identity is due, there is one due after every further course of events.
* A manager that was not enabled at its set-up stays as it is, and loads nothing when it is to
  renew; one that was enabled stays enabled.
* Nothing but deliveries sends anything. -/
theorem deliver_signed_iff_loaded (collector : Collector σ)
    (endpoint certificatePath keyPath : String) (wanted : Bool) (files : Files) (begun : Instant)
    (world : σ) (events : List Event) (inv : Inventory) (salt : List UInt8) (now : Instant) :
    let c := (Course.start files begun certificatePath keyPath wanted (world, [])).run
      collector.logged endpoint events
    let result := deliver collector.logged endpoint c.manager salt now inv c.acks c.world
    let canSign := Manager.canEnable files certificatePath keyPath wanted
    let due := identityDue certificatePath keyPath wanted files
    let document (inv : Inventory) := Text.Utf8.bytes inv.toJson.text
    (∀ i, due events = some i ↔
      canSign = true ∧ latestLoad certificatePath keyPath files events = some i) ∧
    (∀ i, due events = some i →
      (∃ e s, i.sign salt (document inv) = .ok e ∧ result.2.2.2 = c.world.2 ++ [s] ∧
        s.IsSigned endpoint i salt (document inv) e) ∨
      (∃ cause, i.sign salt (document inv) = .error cause ∧
        result = (.error (.sign cause), c.acks, c.world))) ∧
    (due events = none →
      ∃ s, result.2.2.2 = c.world.2 ++ [s] ∧ s.IsPlain endpoint (document inv)) ∧
    (∀ s ∈ c.world.2, ∃ before inv salt now later,
      events = before ++ .deliver inv salt now :: later ∧
        s.Carries endpoint salt (document inv) (due before)) ∧
    ((due events).isSome = true → ∀ later, (due (events ++ later)).isSome = true) ∧
    (c.manager.isEnabled = canSign ∧ (canSign = false → c.manager = .disabled ∧
      ∀ first second now, c.manager.renewBetween first second now = (.disabled, .disabled))) ∧
    (∀ e, (∀ inv salt now, e ≠ .deliver inv salt now) →
      (c.step collector.logged endpoint e).world = c.world) := by
  intro c result canSign due document
  have hsigner : signer c.manager = due events := signer_run
  have hmode : c.manager.isEnabled = canSign ∧ (canSign = false → c.manager = .disabled ∧
      ∀ first second now, c.manager.renewBetween first second now = (.disabled, .disabled)) := by
    cases hcan : canSign with
    | true =>
      exact ⟨((Course.Holds.start hcan begun (world, [])).run events).isEnabled,
        fun hfalse => by cases hfalse⟩
    | false =>
      have hmanager : c.manager = .disabled := Course.manager_run_of_disabled
        (Course.manager_start_of_disabled hcan begun (world, [])) events
      rw [hmanager]
      exact ⟨rfl, fun _ => ⟨rfl, renewBetween_disabled⟩⟩
  exact ⟨fun _ => identityDue_eq_some_iff, fun _ hi => deliver_of_signed (hsigner.trans hi),
    fun hnone => deliver_of_unsigned (hsigner.trans hnone), fun _ => Course.carries_of_mem_log,
    isSome_identityDue_append, hmode,
    fun _ => Course.world_step_of_quiet collector.logged endpoint c⟩

/-- The files are gone and a renewal has failed, after an identity had been loaded: what is sent is
signed by that identity all the same. -/
theorem deliver_signed_iff_loaded_filesGone :
    let c := (Course.start (issued mersenneKey) .epoch "tls.crt" "tls.key" true ((), [])).run
      silent.logged "" [.change .empty, .renew .empty .epoch]
    c.files = .empty ∧ ∃ e s,
      (deliver silent.logged "" c.manager (List.replicate 64 0) .epoch {} c.acks c.world).2.2.2 =
        [s] ∧
      s.IsSigned "" (identityWith mersenneKey mersenneKey.toRsaPublicKey) (List.replicate 64 0)
        (Text.Utf8.bytes ({} : Inventory).toJson.text) e := by
  intro c
  have hcan : Manager.canEnable (issued mersenneKey) "tls.crt" "tls.key" true = true := by
    decide +kernel
  have hlost : (loadIdentity "tls.crt" "tls.key" .empty .empty).toOption = none := rfl
  have hload : latestLoad "tls.crt" "tls.key" (issued mersenneKey)
      [.change .empty, .renew .empty .epoch] =
        some (identityWith mersenneKey mersenneKey.toRsaPublicKey) := by
    simp only [latestLoad, Loads.run, List.foldl_cons, List.foldl_nil, Loads.step, Loads.start,
      Loads.load, load_issued isReadBack_mersenneKey isReadBack_mersenneKey, hlost]
    rfl
  have hfiles : c.files = .empty := by
    simp only [c, Course.run, List.foldl_cons, List.foldl_nil, Course.step]
  have hworld : c.world = ((), []) := by
    simp only [c, Course.run, List.foldl_cons, List.foldl_nil, Course.step, Course.start]
  obtain ⟨hdue, hsigned, -⟩ := deliver_signed_iff_loaded silent "" "tls.crt" "tls.key" true
    (issued mersenneKey) .epoch () [.change .empty, .renew .empty .epoch] {}
    (List.replicate 64 0) .epoch
  obtain ⟨e, s, -, hlog, hs⟩ | ⟨cause, hcause, -⟩ := hsigned _ ((hdue _).2 ⟨hcan, hload⟩)
  · have hs' : (deliver silent.logged "" c.manager (List.replicate 64 0) .epoch {} c.acks
        c.world).2.2.2 = c.world.2 ++ [s] := hlog
    rw [hs', hworld]
    exact ⟨hfiles, e, s, rfl, hs⟩
  · obtain ⟨e, he⟩ := exists_sign_mersenneKey mersenneKey.toRsaPublicKey (List.replicate 64 0)
      (Text.Utf8.bytes ({} : Inventory).toJson.text)
    rw [he] at hcause
    cases hcause

end ClusterInventory.Delivery
