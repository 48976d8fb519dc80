import ClusterInventory.Inventory

/-! The store of the current snapshot. A snapshot is only ever replaced whole; each replacement is
counted, after it has taken place. -/

namespace ClusterInventory

/-- The current snapshot, and how often one has been published. A service counts in 64 bits, which
is the same: at one publication every nanosecond these last for more than five hundred years. -/
structure SnapshotStore where
  current : Inventory := {}
  epoch : Nat := 0
  deriving Inhabited

namespace SnapshotStore

/-- The first step of a publication: readers see the new snapshot. -/
def replace (s : SnapshotStore) (inv : Inventory) : SnapshotStore := { s with current := inv }

/-- The second step of a publication: it is counted. -/
def advance (s : SnapshotStore) : SnapshotStore := { s with epoch := s.epoch + 1 }

def publish (s : SnapshotStore) (inv : Inventory) : SnapshotStore := (s.replace inv).advance

@[simp] theorem publish_current (s : SnapshotStore) (inv : Inventory) :
    (s.publish inv).current = inv := rfl

@[simp] theorem publish_epoch (s : SnapshotStore) (inv : Inventory) :
    (s.publish inv).epoch = s.epoch + 1 := rfl

end SnapshotStore

end ClusterInventory
