import ClusterInventory.Api.Handle
import ClusterInventory.CollectError
import ClusterInventory.Inventory

/-! Domains: the parts into which the collection of an inventory falls. A domain writes what it
finds into the inventory and gives back the errors that it met; it may also break off half-way. -/

namespace ClusterInventory.Collection

open Api (Calls CallError Handle Listing)

structure Domain (σ : Type) where
  name : String
  collect : Inventory → Calls σ (Inventory × Except Breakdown (List CollectError))

namespace Domain

variable {σ : Type}

/-- A domain that never breaks off. -/
def steady (name : String) (collect : Inventory → Calls σ (Inventory × List CollectError)) :
    Domain σ where
  name
  collect inv := do
    let (inv, errors) ← collect inv
    return (inv, .ok errors)

end Domain

variable {σ α β : Type}

/-- The objects of a listing. A listing that failed has none and gives one error, in words that say
what was listed. -/
def objectsOrError (domain what : String) :
    Except CallError (List α) → List α × List CollectError
  | .ok objects => (objects, [])
  | .error e => ([], [.ofDomain domain s!"listing {what}: {e.message}"])

/-- The records of a listing and the errors met on the way. Where the listing failed, the records
from before stay. -/
def recordsOf (domain what : String) (subject : α → String) (record : α → Attempt β)
    (before : List β) : Except CallError (List α) → List β × List CollectError
  | .ok objects => mapGuarded domain subject record objects
  | .error e => (before, [.ofDomain domain s!"listing {what}: {e.message}"])

end ClusterInventory.Collection
