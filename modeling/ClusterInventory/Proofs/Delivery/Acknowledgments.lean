import ClusterInventory.Delivery.Deliverer
import ClusterInventory.Proofs.Json.Defaults
import ClusterInventory.Proofs.Json.RoundTrip
import Mathlib.Data.List.Induction

/-!
# What is known after a run of deliveries

`Deliveries.run` makes one delivery after the other, each with any manager, to a collector that
answers in any way. `acks_run_eq_latest` says that the cache has the result of the last delivery
that succeeded, when a delivery succeeds and what it then takes from the answer, and how it fails
otherwise.
-/

namespace ClusterInventory.Delivery

open Credentials (Manager)
open Signing (CredentialError)

/-! ## Acknowledgments as documents -/

/-- A field of a record: its number, its key and its value. -/
structure RecordField (ρ α : Type) where
  number : Nat
  key : String
  value : ρ → α

/-- The field of a record is the one in a document, by default `missing`. -/
def RecordField.IsIn {ρ α : Type} (f : RecordField ρ α) (reads : Json → α → Prop) (missing : α)
    (r : ρ) (j : Json) : Prop :=
  FieldIs reads missing (f.value r) (j.field? f.number f.key)

def ClusterAck.texts : List (RecordField ClusterAck String) :=
  [⟨0, "name", name⟩, ⟨1, "operator_name", operatorName⟩, ⟨2, "provider_name", providerName⟩,
    ⟨3, "id", id⟩]

def ServiceLevel.flags : List (RecordField ServiceLevel (Option Bool)) :=
  [⟨0, "has_technical_operations", hasTechnicalOperations⟩,
    ⟨1, "has_technical_management", hasTechnicalManagement⟩,
    ⟨2, "has_application_operations", hasApplicationOperations⟩,
    ⟨3, "has_application_management", hasApplicationManagement⟩,
    ⟨4, "has_custom_operations", hasCustomOperations⟩]

def ServiceLevel.url : RecordField ServiceLevel String :=
  ⟨5, "custom_operations_url", customOperationsUrl⟩

def AckMetaData.texts : List (RecordField AckMetaData String) :=
  [⟨0, "cluster_type", clusterType⟩, ⟨1, "description", description⟩, ⟨2, "partition", partition⟩,
    ⟨3, "region", region⟩, ⟨4, "environment_name", environmentName⟩,
    ⟨5, "infrastructure_provider", infrastructureProvider⟩,
    ⟨6, "resilience_zone", resilienceZone⟩, ⟨8, "subscription_id", subscriptionId⟩]

def AckMetaData.service : RecordField AckMetaData ServiceLevel :=
  ⟨7, "service_level", serviceLevel⟩

/-- Every text is the one in a document, and empty where that has none. -/
def ClusterAck.IsIn (j : Json) (c : ClusterAck) : Prop :=
  ∀ f ∈ texts, f.IsIn Decoder.string.Gives "" c j

/-- Every flag is the one in a document, and unset where that has none or `null`. -/
structure ServiceLevel.IsIn (j : Json) (s : ServiceLevel) : Prop where
  flags : ∀ f ∈ flags, f.IsIn (Decoder.optional Decoder.bool).Gives none s j
  url : url.IsIn Decoder.string.Gives "" s j

structure AckMetaData.IsIn (j : Json) (m : AckMetaData) : Prop where
  texts : ∀ f ∈ texts, f.IsIn Decoder.string.Gives "" m j
  service : service.IsIn ServiceLevel.IsIn {} m j

/-- Cluster and further data are the ones in a document, each empty where that has none. -/
structure AckResponse.IsIn (j : Json) (a : AckResponse) : Prop where
  cluster : FieldIs ClusterAck.IsIn {} a.cluster (j.field? 0 "cluster")
  metaData : FieldIs AckMetaData.IsIn {} a.metaData (j.field? 1 "meta_data")

section Decoder

variable {j : Json}

theorem ClusterAck.isIn_of_decoder {c : ClusterAck} (h : decoder j = some c) : IsIn j c := by
  obtain ⟨src, src', hsrc, hrun⟩ := Decoder.record_eq_some h
  obtain ⟨name, hname, hrun⟩ := Fields.withDefault_bind_eq_some hrun
  obtain ⟨operator, hoperator, hrun⟩ := Fields.withDefault_bind_eq_some hrun
  obtain ⟨provider, hprovider, hrun⟩ := Fields.withDefault_bind_eq_some hrun
  obtain ⟨id, hid, hrun⟩ := Fields.withDefault_bind_eq_some hrun
  cases hrun
  simp only [RecordSource.field?_rest] at hoperator hprovider hid
  simp only [IsIn, texts, List.forall_mem_cons, RecordField.IsIn, Json.field?_of_source? hsrc]
  exact ⟨hname, hoperator, hprovider, hid, nofun⟩

theorem ServiceLevel.isIn_of_decoder {s : ServiceLevel} (h : decoder j = some s) : IsIn j s := by
  obtain ⟨src, src', hsrc, hrun⟩ := Decoder.record_eq_some h
  obtain ⟨_, h₀, hrun⟩ := Fields.withDefault_bind_eq_some hrun
  obtain ⟨_, h₁, hrun⟩ := Fields.withDefault_bind_eq_some hrun
  obtain ⟨_, h₂, hrun⟩ := Fields.withDefault_bind_eq_some hrun
  obtain ⟨_, h₃, hrun⟩ := Fields.withDefault_bind_eq_some hrun
  obtain ⟨_, h₄, hrun⟩ := Fields.withDefault_bind_eq_some hrun
  obtain ⟨_, hurl, hrun⟩ := Fields.withDefault_bind_eq_some hrun
  cases hrun
  simp only [RecordSource.field?_rest] at h₁ h₂ h₃ h₄ hurl
  constructor
  · simp only [flags, List.forall_mem_cons, RecordField.IsIn, Json.field?_of_source? hsrc]
    exact ⟨h₀, h₁, h₂, h₃, h₄, nofun⟩
  · simp only [url, RecordField.IsIn, Json.field?_of_source? hsrc]
    exact hurl

theorem AckMetaData.isIn_of_decoder {m : AckMetaData} (h : decoder j = some m) : IsIn j m := by
  obtain ⟨src, src', hsrc, hrun⟩ := Decoder.record_eq_some h
  obtain ⟨_, h₀, hrun⟩ := Fields.withDefault_bind_eq_some hrun
  obtain ⟨_, h₁, hrun⟩ := Fields.withDefault_bind_eq_some hrun
  obtain ⟨_, h₂, hrun⟩ := Fields.withDefault_bind_eq_some hrun
  obtain ⟨_, h₃, hrun⟩ := Fields.withDefault_bind_eq_some hrun
  obtain ⟨_, h₄, hrun⟩ := Fields.withDefault_bind_eq_some hrun
  obtain ⟨_, h₅, hrun⟩ := Fields.withDefault_bind_eq_some hrun
  obtain ⟨_, h₆, hrun⟩ := Fields.withDefault_bind_eq_some hrun
  obtain ⟨_, hservice, hrun⟩ := Fields.withDefault_bind_eq_some hrun
  obtain ⟨_, hid, hrun⟩ := Fields.withDefault_bind_eq_some hrun
  cases hrun
  simp only [RecordSource.field?_rest] at h₁ h₂ h₃ h₄ h₅ h₆ hservice hid
  constructor
  · simp only [texts, List.forall_mem_cons, RecordField.IsIn, Json.field?_of_source? hsrc]
    exact ⟨h₀, h₁, h₂, h₃, h₄, h₅, h₆, hid, nofun⟩
  · simp only [service, RecordField.IsIn, Json.field?_of_source? hsrc]
    exact hservice.mono fun _ => ServiceLevel.isIn_of_decoder

theorem AckResponse.isIn_of_decoder {a : AckResponse} (h : decoder j = some a) : IsIn j a := by
  obtain ⟨src, src', hsrc, hrun⟩ := Decoder.record_eq_some h
  obtain ⟨cluster, hcluster, hrun⟩ := Fields.withDefault_bind_eq_some hrun
  obtain ⟨metaData, hmetaData, hrun⟩ := Fields.withDefault_bind_eq_some hrun
  obtain ⟨message, -, hrun⟩ := Fields.withDefault_bind_eq_some hrun
  cases hrun
  rw [RecordSource.field?_rest] at hmetaData
  constructor
  · rw [Json.field?_of_source? hsrc]
    exact hcluster.mono fun _ => ClusterAck.isIn_of_decoder
  · rw [Json.field?_of_source? hsrc]
    exact hmetaData.mono fun _ => AckMetaData.isIn_of_decoder

end Decoder

/-! ## One delivery -/

/-- The document that a body spells. Where the body is a text throughout, it is that of the text. -/
structure IsDocument (body : List UInt8) (j : Json) : Prop where
  bytes : Json.parseBytes? body = some j
  text : ∀ s, Text.Utf8.decode? body = some s → Json.parse? s = some j

/-- The acknowledgment that a body holds. -/
def ackOf? (body : List UInt8) : Option AckResponse :=
  (Json.parseBytes? body).bind AckResponse.decoder

theorem exists_isDocument_of_ackOf? {body : List UInt8} {a : AckResponse}
    (h : ackOf? body = some a) : ∃ j, IsDocument body j ∧ a.IsIn j := by
  obtain ⟨j, hj, h⟩ := Option.bind_eq_some_iff.1 h
  have htext : ∀ s, Text.Utf8.decode? body = some s → Json.parse? s = some j := fun s hs =>
    (Json.parseBytes?_of_decode? hs).symm.trans hj
  exact ⟨j, ⟨hj, htext⟩, AckResponse.isIn_of_decoder h⟩

/-- A status that stands for success. -/
def IsSuccess (status : Nat) : Prop := 200 ≤ status ∧ status < 300

instance : DecidablePred IsSuccess := fun _ => inferInstanceAs (Decidable (_ ∧ _))

/-- The answer to a delivery acknowledges it. -/
inductive Acknowledges : Receipt → AckResponse → Prop
  | mk {status body a} : IsSuccess status → ackOf? body = some a →
    Acknowledges (.answer status body) a

/-- The first stage of a delivery that goes wrong, given its body and the answer to it. -/
inductive FailsWith (body : Except CredentialError Body) (receipt : Receipt) : DeliveryError → Prop
  | sign {cause} : body = .error cause → FailsWith body receipt (.sign cause)
  | transport {b} : body = .ok b → receipt = .lost → FailsWith body receipt .transport
  | rejected {b status answer} : body = .ok b → receipt = .answer status answer →
    ¬ IsSuccess status → FailsWith body receipt (.rejected status (Text.Utf8.text answer))
  | unreadableAck {b status answer} : body = .ok b → receipt = .answer status answer →
    IsSuccess status → ackOf? answer = none → FailsWith body receipt .unreadableAck

theorem read_answer (status : Nat) (body : List UInt8) : Receipt.read (.answer status body) =
    if IsSuccess status then
      match ackOf? body with
      | some a => .ok a
      | none => .error .unreadableAck
    else .error (.rejected status (Text.Utf8.text body)) :=
  rfl

section Send

variable {σ : Type} {collector : Collector σ} {endpoint : String} {m : Manager} {salt : List UInt8}
  {now : Instant} {inv : Inventory} {world : σ}

/-- The answer to a body; nothing comes back when there is nothing to send. -/
def answerTo (collector : Collector σ) (endpoint : String) (world : σ) :
    Except CredentialError Body → Receipt
  | .ok b => (collector { endpoint, contentType := b.contentType, body := b.compressed } world).1
  | .error _ => .lost

/-- What a delivery with a body comes to. -/
theorem send_of_body {b : Body} (hbody : encode m salt inv = .ok b) :
    (send collector endpoint m salt now inv world).1 =
      (answerTo collector endpoint world (encode m salt inv)).read.map fun a => .ofAck a now := by
  simp only [send, hbody]
  rfl

theorem send_of_acknowledges {b : Body} {a : AckResponse} (hbody : encode m salt inv = .ok b)
    (h : Acknowledges (answerTo collector endpoint world (encode m salt inv)) a) :
    (send collector endpoint m salt now inv world).1 = .ok (.ofAck a now) := by
  rw [send_of_body hbody]
  generalize answerTo collector endpoint world (encode m salt inv) = receipt at h
  obtain ⟨hsuccess, hack⟩ := h
  rw [read_answer, if_pos hsuccess, hack]
  rfl

theorem send_of_failsWith {e : DeliveryError} (h : FailsWith (encode m salt inv)
    (answerTo collector endpoint world (encode m salt inv)) e) :
    (send collector endpoint m salt now inv world).1 = .error e := by
  cases h with
  | sign hbody => simp only [send, hbody]
  | transport hbody hlost =>
    rw [send_of_body hbody, hlost]
    rfl
  | rejected hbody hanswer hfailure =>
    rw [send_of_body hbody, hanswer, read_answer, if_neg hfailure]
    rfl
  | unreadableAck hbody hanswer hsuccess hack =>
    rw [send_of_body hbody, hanswer, read_answer, if_pos hsuccess, hack]
    rfl

end Send

/-- A delivery is acknowledged or goes wrong at some stage. -/
theorem acknowledges_or_failsWith (body : Except CredentialError Body) (receipt : Receipt) :
    (∃ b a, body = .ok b ∧ Acknowledges receipt a) ∨ ∃ e, FailsWith body receipt e := by
  cases body with
  | error cause => exact .inr ⟨_, .sign rfl⟩
  | ok b =>
    cases receipt with
    | lost => exact .inr ⟨_, .transport rfl rfl⟩
    | answer status answer =>
      by_cases hsuccess : IsSuccess status
      · cases hack : ackOf? answer with
        | some a => exact .inl ⟨b, a, rfl, .mk hsuccess hack⟩
        | none => exact .inr ⟨_, .unreadableAck rfl rfl hsuccess hack⟩
      · exact .inr ⟨_, .rejected rfl rfl hsuccess⟩

/-! ## Runs of deliveries -/

/-- What a delivery is made with. -/
structure Call where
  manager : Manager
  salt : List UInt8
  now : Instant
  inventory : Inventory

/-- The results of some deliveries, and what they leave behind. -/
structure Deliveries (σ : Type) where
  acks : AckCache
  world : σ
  results : List (Except DeliveryError DeliveryMetadata)

namespace Deliveries

variable {σ : Type}

def start (world : σ) : Deliveries σ := { acks := none, world, results := [] }

def step (collector : Collector σ) (endpoint : String) (d : Deliveries σ) (c : Call) :
    Deliveries σ :=
  let (result, acks, world) :=
    deliver collector endpoint c.manager c.salt c.now c.inventory d.acks d.world
  { acks, world, results := d.results ++ [result] }

def run (collector : Collector σ) (endpoint : String) (world : σ) (calls : List Call) :
    Deliveries σ :=
  calls.foldl (step collector endpoint) (start world)

end Deliveries

/-- The metadata of the last delivery that succeeded. -/
def latest (results : List (Except DeliveryError DeliveryMetadata)) : AckCache :=
  (results.filterMap Except.toOption).getLast?

theorem latest_append (results : List (Except DeliveryError DeliveryMetadata))
    (result : Except DeliveryError DeliveryMetadata) :
    latest (results ++ [result]) = result.toOption.or (latest results) := by
  rw [latest, List.filterMap_append, List.getLast?_append]
  cases result <;> rfl

section Runs

variable {σ : Type} (collector : Collector σ) (endpoint : String) (world : σ)

theorem Deliveries.run_append (calls : List Call) (c : Call) :
    run collector endpoint world (calls ++ [c]) =
      (run collector endpoint world calls).step collector endpoint c :=
  List.foldl_append

/-- The result of one more delivery, and the cache after it. -/
theorem Deliveries.step_eq (d : Deliveries σ) (c : Call) :
    let result := (send collector endpoint c.manager c.salt c.now c.inventory d.world).1
    (d.step collector endpoint c).results = d.results ++ [result] ∧
      (d.step collector endpoint c).acks = result.toOption.or d.acks := by
  intro result
  simp only [step, deliver]
  split <;> next heq =>
    rw [show result = _ from congrArg Prod.fst heq]
    exact ⟨rfl, rfl⟩

theorem Deliveries.acks_eq_latest (calls : List Call) :
    (run collector endpoint world calls).acks =
      latest (run collector endpoint world calls).results := by
  induction calls using List.reverseRecOn with
  | nil => rfl
  | append_singleton calls c ih =>
    obtain ⟨hresults, hacks⟩ := step_eq collector endpoint (run collector endpoint world calls) c
    rw [run_append, hresults, hacks, latest_append, ih]

/-- The cache of acknowledgments over any run of deliveries, each with any manager, to a collector
that answers in any way.

* After the run the cache has the metadata of the last delivery that succeeded, if one did.
* One more delivery succeeds exactly when there is a body and the answer to it acknowledges it. The
  metadata then is that of this acknowledgment and this moment, and goes into the cache.
* It fails exactly as its first stage that goes wrong does, and leaves the cache as it was.
* An acknowledgment is read from the document of one body alone; what is not in there is at its
  default. -/
theorem acks_run_eq_latest :
    (∀ calls, (Deliveries.run collector endpoint world calls).acks =
      latest (Deliveries.run collector endpoint world calls).results) ∧
    (∀ calls c,
      let before := Deliveries.run collector endpoint world calls
      let after := Deliveries.run collector endpoint world (calls ++ [c])
      let body := encode c.manager c.salt c.inventory
      let receipt := answerTo collector endpoint before.world body
      ∃ result, after.results = before.results ++ [result] ∧
        (∀ metadata, result = .ok metadata ↔ ∃ b a, body = .ok b ∧ Acknowledges receipt a ∧
          metadata = { updated := c.now, cluster := a.cluster, metaData := a.metaData }) ∧
        (∀ e, result = .error e ↔ FailsWith body receipt e) ∧
        (∀ metadata, result = .ok metadata → after.acks = some metadata) ∧
        (∀ e, result = .error e → after.acks = before.acks)) ∧
    (∀ body a, ackOf? body = some a → ∃ j, IsDocument body j ∧ a.IsIn j) := by
  refine ⟨Deliveries.acks_eq_latest collector endpoint world, fun calls c => ?_,
    fun _ _ => exists_isDocument_of_ackOf?⟩
  intro before after body receipt
  obtain ⟨hresults, hacks⟩ := Deliveries.step_eq collector endpoint before c
  rw [← Deliveries.run_append] at hresults hacks
  refine ⟨_, hresults, ?_, ?_, fun metadata h => by rw [hacks, h]; rfl,
    fun e h => by rw [hacks, h]; rfl⟩
  · intro metadata
    constructor
    · intro h
      obtain ⟨b, a, hbody, hack⟩ | ⟨e, hfails⟩ := acknowledges_or_failsWith body receipt
      · rw [send_of_acknowledges hbody hack] at h
        cases h
        exact ⟨b, a, hbody, hack, rfl⟩
      · rw [send_of_failsWith hfails] at h
        cases h
    · rintro ⟨b, a, hbody, hack, rfl⟩
      exact send_of_acknowledges hbody hack
  · intro e
    constructor
    · intro h
      obtain ⟨b, a, hbody, hack⟩ | ⟨e', hfails⟩ := acknowledges_or_failsWith body receipt
      · rw [send_of_acknowledges hbody hack] at h
        cases h
      · rw [send_of_failsWith hfails] at h
        cases h
        exact hfails
    · exact send_of_failsWith

end Runs

/-- A collector that gives these answers, one after the other. -/
def scripted : Collector (List Receipt) := fun _ world => (world.headD .lost, world.tail)

def answerOf (status : Nat) (text : String) : Receipt := .answer status (Text.Utf8.bytes text)

/-- A rejection does not count, though its body is an acknowledgment, and nothing is left of the
first acknowledgment after an empty one. -/
theorem acks_run_eq_latest_scripted :
    let answers : List Receipt :=
      [answerOf 200
          "\x7b\"cluster\":\x7b\"name\":\"prod\"\x7d,\"meta_data\":\x7b\"region\":\"eu\"\x7d\x7d",
        answerOf 500 "\x7b\"cluster\":\x7b\"name\":\"other\"\x7d\x7d", answerOf 200 "\x7b\x7d"]
    let c : Call := { manager := .disabled, salt := [], now := .epoch, inventory := {} }
    (Deliveries.run scripted "" answers [c, c]).acks =
        some { updated := .epoch, cluster := { name := "prod" }, metaData := { region := "eu" } } ∧
      (Deliveries.run scripted "" answers [c, c, c]).acks =
        some { updated := .epoch, cluster := {}, metaData := {} } := by
  intro answers c
  obtain ⟨hlatest, -, -⟩ := acks_run_eq_latest scripted "" answers
  rw [hlatest, hlatest]
  exact ⟨by decide +kernel, by decide +kernel⟩

end ClusterInventory.Delivery
