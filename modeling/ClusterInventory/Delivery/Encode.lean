import ClusterInventory.Bytes.Gzip
import ClusterInventory.Credentials.Manager
import ClusterInventory.Inventory

/-! The form in which an inventory goes over the wire: its document or, where it can be signed, the
document in an envelope, and either of them compressed. -/

namespace ClusterInventory.Delivery

open Credentials (Manager)
open Signing (CredentialError Envelope Identity)

def documentType : String := "application/json; charset=UTF-8"

def envelopeType : String := "application/jose+json"

structure Body where
  contentType : String
  isSigned : Bool
  compressed : List UInt8
  deriving DecidableEq, Repr

/-- The identity that signs, if any does. -/
def signer (m : Manager) : Option Identity := if m.isEnabled then m.identity else none

/-- The body that carries an inventory; `salt` is for its signature. -/
def encode (m : Manager) (salt : List UInt8) (inv : Inventory) : Except CredentialError Body :=
  let document := Text.Utf8.bytes inv.toJson.text
  match signer m with
  | none =>
    .ok { contentType := documentType, isSigned := false
          compressed := Bytes.Gzip.compress document }
  | some i =>
    (i.sign salt document).map fun envelope =>
      { contentType := envelopeType, isSigned := true
        compressed := Bytes.Gzip.compress (Text.Utf8.bytes envelope.toJson.text) }

end ClusterInventory.Delivery
