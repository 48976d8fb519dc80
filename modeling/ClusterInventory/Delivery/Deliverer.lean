import ClusterInventory.Delivery.Ack
import ClusterInventory.Delivery.Encode
import ClusterInventory.Json.Parser
import ClusterInventory.Text.Split
import ClusterInventory.Text.Utf8

/-! Deliveries of inventories to an inventory server. A delivery is one request; the answer to a
successful one is kept. -/

namespace ClusterInventory.Delivery

open Credentials (Manager)
open Signing (CredentialError)

def inventoryPath : String := "/api/v1/inventory"

structure Shipment where
  endpoint : String
  method : String := "PUT"
  contentType : String
  contentEncoding : String := "gzip"
  body : List UInt8
  deriving DecidableEq, Repr

inductive Receipt where
  /-- Nothing comes back, or not in time. -/
  | lost
  | answer (status : Nat) (body : List UInt8)
  deriving DecidableEq, Repr

/-- Whatever takes shipments, in a world that may change with each. -/
abbrev Collector (σ : Type) := Shipment → σ → Receipt × σ

inductive DeliveryError where
  | sign (cause : CredentialError)
  | transport
  | rejected (status : Nat) (body : String)
  | unreadableAck
  deriving DecidableEq, Repr

def DeliveryError.message : DeliveryError → String
  | .sign cause => s!"signing inventory: {cause.message}"
  | .transport => "sending request"
  | .rejected status body =>
    "server rejected inventory with status " ++ String.ofList (Text.decimal status) ++ ": " ++ body
  | .unreadableAck => "decoding acknowledgment"

/-- The address of inventories on the server with this root. -/
def endpointOf (base : String) : String := Text.dropTrailing '/' base ++ inventoryPath

/-- The acknowledgment that a server's answer holds. -/
def Receipt.read : Receipt → Except DeliveryError AckResponse
  | .lost => .error .transport
  | .answer status body =>
    if 200 ≤ status ∧ status < 300 then
      match (Json.parseBytes? body).bind AckResponse.decoder with
      | some ack => .ok ack
      | none => .error .unreadableAck
    else .error (.rejected status (Text.Utf8.text body))

variable {σ : Type}

/-- Delivers an inventory and gives what is known of the cluster afterwards. -/
def send (collector : Collector σ) (endpoint : String) (m : Manager) (salt : List UInt8)
    (now : Instant) (inv : Inventory) (world : σ) : Except DeliveryError DeliveryMetadata × σ :=
  match encode m salt inv with
  | .error cause => (.error (.sign cause), world)
  | .ok body =>
    let (receipt, world) :=
      collector { endpoint, contentType := body.contentType, body := body.compressed } world
    (receipt.read.map fun ack => .ofAck ack now, world)

/-- Delivers an inventory. What is known of the cluster changes only with a delivery that
succeeds. -/
def deliver (collector : Collector σ) (endpoint : String) (m : Manager) (salt : List UInt8)
    (now : Instant) (inv : Inventory) (acks : AckCache) (world : σ) :
    Except DeliveryError DeliveryMetadata × AckCache × σ :=
  match send collector endpoint m salt now inv world with
  | (.ok metadata, world) => (.ok metadata, some metadata, world)
  | (.error e, world) => (.error e, acks, world)

end ClusterInventory.Delivery
