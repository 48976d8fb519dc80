import ClusterInventory.Record.Cluster
import ClusterInventory.Record.CustomResources
import ClusterInventory.Record.NetworkPolicy
import ClusterInventory.Record.Node
import ClusterInventory.Record.Storage
import ClusterInventory.Record.Workload

/-! The inventory of a cluster: one snapshot of everything that a collection found, with the
errors it met on the way. -/

namespace ClusterInventory

/-- The version of the inventory's format. -/
def inventoryVersion : UInt32 := 1

structure Inventory where
  version : UInt32 := 0
  clientVersion : String := ""
  collectedAt : Instant := .epoch
  collectionSucceeded : Bool := false
  collectionErrors : List String := []
  cluster : Record.Cluster := {}
  namespaces : List Record.Namespace := []
  nodes : List Record.Node := []
  storage : Record.Storage := {}
  networkPolicies : List Record.NetworkPolicy := []
  customResources : Record.CustomResources := {}
  workloads : List Record.Workload := []
  deriving Inhabited

namespace Inventory

/-- A fresh snapshot. It counts as a success until an error is recorded. -/
def start (clientVersion : String) (now : Instant) : Inventory :=
  { version := inventoryVersion, clientVersion, collectedAt := now, collectionSucceeded := true }

/-- Notes an error, which makes the snapshot a failed one. -/
def recordError (inv : Inventory) (message : String) : Inventory :=
  { inv with
    collectionSucceeded := false
    collectionErrors := inv.collectionErrors ++ [message] }

/-- The members of the written form that come before the time of collection. -/
def leadingMembers (inv : Inventory) : List (String × Json) :=
  [("inventory_version", .int inv.version.toNat), ("client_version", .str inv.clientVersion)]

/-- The members of the written form that come after the time of collection. -/
def contentMembers (inv : Inventory) : List (String × Json) :=
  [("collection_succeeded", .bool inv.collectionSucceeded),
    ("collection_errors", Json.strings inv.collectionErrors), ("cluster", inv.cluster.toJson),
    ("namespaces", .arr (inv.namespaces.map Record.Namespace.toJson)),
    ("nodes", .arr (inv.nodes.map Record.Node.toJson)), ("storage", inv.storage.toJson),
    ("network_policies", .arr (inv.networkPolicies.map Record.NetworkPolicy.toJson)),
    ("custom_resources", inv.customResources.toJson),
    ("workloads", .arr (inv.workloads.map Record.Workload.toJson))]

def toJson (inv : Inventory) : Json :=
  .obj (inv.leadingMembers ++ [("collected_at", Json.instant inv.collectedAt)] ++
    inv.contentMembers)

def fields : Fields Inventory := do
  let version ← Fields.required "inventory_version" Decoder.uint32
  let clientVersion ← Fields.required "client_version" Decoder.string
  let collectedAt ← Fields.required "collected_at" Decoder.instant
  let collectionSucceeded ← Fields.required "collection_succeeded" Decoder.bool
  let collectionErrors ← Fields.list "collection_errors" Decoder.string
  let cluster ← Fields.withDefault "cluster" {} Record.Cluster.decoder
  let namespaces ← Fields.list "namespaces" Record.Namespace.decoder
  let nodes ← Fields.list "nodes" Record.Node.decoder
  let storage ← Fields.withDefault "storage" {} Record.Storage.decoder
  let networkPolicies ← Fields.list "network_policies" Record.NetworkPolicy.decoder
  let customResources ← Fields.withDefault "custom_resources" {} Record.CustomResources.decoder
  let workloads ← Fields.list "workloads" Record.Workload.decoder
  return {
    version, clientVersion, collectedAt, collectionSucceeded, collectionErrors, cluster,
    namespaces, nodes, storage, networkPolicies, customResources, workloads }

def decoder : Decoder Inventory := Decoder.record fields

end Inventory

end ClusterInventory
