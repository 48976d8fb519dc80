import ClusterInventory.Mapping.Meta
import ClusterInventory.Object.Storage
import ClusterInventory.Quantity
import ClusterInventory.Record.NetworkPolicy
import ClusterInventory.Record.Storage

/-! Records of persistent volumes, storage classes and network policies. -/

namespace ClusterInventory

namespace Record.PersistentVolume

/-- Access modes and their short forms, in the order in which they are recorded. -/
def accessModeNames : List (String × String) :=
  [("ReadWriteOnce", "RWO"), ("ReadOnlyMany", "ROX"), ("ReadWriteMany", "RWX"),
    ("ReadWriteOncePod", "RWOP")]

/-- The short forms of access modes, with commas between them; unknown ones are left out. -/
def shortAccessModes (modes : List String) : String :=
  ",".intercalate ((accessModeNames.filter fun m => modes.contains m.1).map (·.2))

/-- Namespace, kind and name of what holds a volume. -/
def claimText (c : Object.ClaimRef) : String :=
  c.namespace.getD "" ++ "/" ++ c.kind.getD "" ++ "/" ++ c.name.getD ""

/-- The record of a persistent volume. It names no owners. -/
def ofObject (o : Object.PersistentVolume) : Attempt Record.PersistentVolume := do
  let spec := o.spec.getD {}
  let capacity ← Quantity.value (spec.capacity.bind (·.find? "storage"))
  return {
    objectMeta := { Record.ObjectMeta.ofObject o.objectMeta with ownerReferences := [] }
    storageClass := spec.storageClassName.getD ""
    claim := (spec.claimRef.map claimText).getD ""
    status := o.phase.getD ""
    accessModes := shortAccessModes (spec.accessModes.getD [])
    volumeMode := spec.volumeMode.getD "Filesystem"
    capacity
    source := spec.backings.head?.getD "Unknown" }

end Record.PersistentVolume

def Record.StorageClass.ofObject (o : Object.StorageClass) : Attempt Record.StorageClass :=
  return { objectMeta := .ofObject o.objectMeta, provisioner := o.provisioner }

def Record.NetworkPolicy.ofObject (o : Object.NetworkPolicy) : Attempt Record.NetworkPolicy :=
  return {
    objectMeta := .ofObject o.objectMeta
    podSelector := o.matchLabels.getD .empty
    policyTypes := o.policyTypes.getD []
    ingressRules := UInt64.ofNat (o.ingressRules.getD 0)
    egressRules := UInt64.ofNat (o.egressRules.getD 0) }

end ClusterInventory
