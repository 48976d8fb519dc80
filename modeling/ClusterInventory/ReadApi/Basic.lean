import ClusterInventory.Delivery.Ack
import ClusterInventory.SnapshotStore

/-! The read API: the current snapshot, what is known from the last delivery, and a word on the
state of the collection. -/

namespace ClusterInventory.ReadApi

structure Health where
  /-- How many snapshots have been published, as the store counts them. -/
  epoch : Nat
  collectionSucceeded : Bool
  deriving DecidableEq, Repr

def Health.toJson (h : Health) : Json :=
  .obj [("status", .str "ok"), ("epoch", .int h.epoch),
    ("collection_succeeded", .bool h.collectionSucceeded)]

structure Source where
  inventory : Inventory
  metadata : Option Delivery.DeliveryMetadata
  health : Health

namespace Source

/-- What there is to read in a running collection. Its state is put together from two looks at the
store, first at the count and then at the snapshot. -/
def ofStores (atCount atSnapshot : SnapshotStore) (acks : Delivery.AckCache) : Source :=
  { inventory := atSnapshot.current, metadata := acks
    health :=
      { epoch := atCount.epoch, collectionSucceeded := atSnapshot.current.collectionSucceeded } }

/-- What there is to read between two steps of a collection. -/
def ofStore (store : SnapshotStore) (acks : Delivery.AckCache) : Source :=
  ofStores store store acks

/-- Something to read that stands for itself. -/
def fixed (inventory : Inventory) (metadata : Option Delivery.DeliveryMetadata) : Source :=
  { inventory, metadata
    health := { epoch := 0, collectionSucceeded := inventory.collectionSucceeded } }

end Source

end ClusterInventory.ReadApi
