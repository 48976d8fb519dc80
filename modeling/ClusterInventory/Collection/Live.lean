import ClusterInventory.Collection.ClusterFacts
import ClusterInventory.Collection.CustomResources
import ClusterInventory.Collection.Listed
import ClusterInventory.Collection.Workloads

/-! The domains of a live cluster, in the order in which they are collected. -/

namespace ClusterInventory.Collection

open Api (Calls Connection Handle)

variable {σ : Type}

def liveDomains (h : Handle σ) : List (Domain σ) :=
  [clusterFacts h, namespaces h, nodes h, storage h, networkPolicies h, customResources h,
    workloads h]

/-- Takes hold of a cluster: finds out how to reach it, and then what it serves. -/
def acquireLive (found : Except (List String) (Connection σ)) (pages : Nat) :
    Calls σ (Attempt (List (Domain σ))) :=
  match found with
  | .error causes => return .failed ("inferring cluster config" :: causes)
  | .ok c => fun world =>
    if !c.canNameUser then
      some (.failed ("building cluster client" :: Connection.unnamedUser), world)
    else match Handle.acquire c pages world with
    | (.ok h, world) => some (.value (liveDomains h), world)
    | (.error e, world) => some (.failed ("running api discovery" :: e.chain), world)

end ClusterInventory.Collection
