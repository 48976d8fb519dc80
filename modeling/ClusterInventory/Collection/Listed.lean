import ClusterInventory.Collection.Domain
import ClusterInventory.Collection.Listings
import ClusterInventory.Mapping.Node
import ClusterInventory.Mapping.Storage

/-! The domains that only list objects and record each of them: namespaces, nodes, storage and
network policies. -/

namespace ClusterInventory.Collection

open Api (Calls Handle Listing)

variable {σ : Type}

/-- The name of an object, as errors give it. -/
def named {α : Type} (objectMeta : α → Object.Meta) (o : α) : String := (objectMeta o).shownName

/-- Namespace and name of an object, as errors give them. -/
def qualified {α : Type} (objectMeta : α → Object.Meta) (o : α) : String :=
  (objectMeta o).namespace.getD "" ++ "/" ++ (objectMeta o).shownName

def namespaces (h : Handle σ) : Domain σ :=
  .steady "namespaces" fun inv => do
    let (records, errors) := recordsOf "namespaces" "namespaces" (named (·.objectMeta))
      Record.Namespace.ofObject inv.namespaces (← h.list Listing.namespaces)
    return ({ inv with namespaces := records }, errors)

def nodes (h : Handle σ) : Domain σ :=
  .steady "nodes" fun inv => do
    let (records, errors) := recordsOf "nodes" "nodes" (named (·.objectMeta))
      Record.Node.ofObject inv.nodes (← h.list Listing.nodes)
    return ({ inv with nodes := records }, errors)

def storage (h : Handle σ) : Domain σ :=
  .steady "storage" fun inv => do
    let (persistentVolumes, volumeErrors) :=
      recordsOf "storage" "persistent volumes" (named (·.objectMeta))
        Record.PersistentVolume.ofObject inv.storage.persistentVolumes
        (← h.list Listing.persistentVolumes)
    let (storageClasses, classErrors) :=
      recordsOf "storage" "storage classes" (named (·.objectMeta))
        Record.StorageClass.ofObject inv.storage.storageClasses
        (← h.list Listing.storageClasses)
    return ({ inv with storage := { persistentVolumes, storageClasses } },
      volumeErrors ++ classErrors)

def networkPolicies (h : Handle σ) : Domain σ :=
  .steady "network_policies" fun inv => do
    let (records, errors) :=
      recordsOf "network_policies" "network policies" (qualified (·.objectMeta))
        Record.NetworkPolicy.ofObject inv.networkPolicies (← h.list Listing.networkPolicies)
    return ({ inv with networkPolicies := records }, errors)

end ClusterInventory.Collection
