import ClusterInventory.Object.Meta
import ClusterInventory.Object.Schema.Cluster
import ClusterInventory.Object.Schema.Storage

/-! Storage and network policies as the cluster holds them. -/

namespace ClusterInventory.Object

structure ClaimRef where
  kind : Option String := none
  name : Option String := none
  «namespace» : Option String := none
  deriving DecidableEq, Repr, Inhabited

def ClaimRef.ofJson (j : Json) : ClaimRef :=
  { kind := text? j "kind", name := text? j "name", «namespace» := text? j "namespace" }

/-- The storage that may stand behind a persistent volume, in the order in which it counts: field
and recorded name. -/
def volumeBackings : List (String × String) := [
  ("csi", "CSI"), ("hostPath", "HostPath"), ("local", "Local"), ("nfs", "NFS"),
  ("awsElasticBlockStore", "AWSElasticBlockStore"), ("azureDisk", "AzureDisk"),
  ("azureFile", "AzureFile"), ("gcePersistentDisk", "GCEPersistentDisk"), ("iscsi", "ISCSI"),
  ("fc", "FC"), ("cephfs", "CephFS"), ("rbd", "RBD"), ("cinder", "Cinder"),
  ("vsphereVolume", "VsphereVolume")]

/-- The recorded names of those backings, in the table's order, whose field is there. -/
def presentBackings (table : List (String × String)) (j : Json) : List String :=
  (table.filter fun b => (field? j b.1).isSome).map (·.2)

structure PersistentVolumeSpec where
  accessModes : Option (List String) := none
  capacity : Option (StringMap String) := none
  claimRef : Option ClaimRef := none
  storageClassName : Option String := none
  volumeMode : Option String := none
  /-- Recorded names of the storage behind the volume, the one that counts first. -/
  backings : List String := []
  deriving Inhabited

structure PersistentVolume where
  objectMeta : Meta
  spec : Option PersistentVolumeSpec := none
  phase : Option String := none
  deriving Inhabited

def PersistentVolumeSpec.ofJson (j : Json) : PersistentVolumeSpec :=
  { accessModes := texts? j "accessModes", capacity := textMap? j "capacity"
    claimRef := part? j "claimRef" ClaimRef.ofJson, storageClassName := text? j "storageClassName"
    volumeMode := text? j "volumeMode", backings := presentBackings volumeBackings j }

def PersistentVolume.reader : Reader PersistentVolume :=
  Schema.persistentVolume.reader fun j =>
    { objectMeta := .ofObject j, spec := part? j "spec" PersistentVolumeSpec.ofJson
      phase := (field? j "status").bind fun status => text? status "phase" }

structure StorageClass where
  objectMeta : Meta
  provisioner : String := ""
  deriving Inhabited

def StorageClass.reader : Reader StorageClass :=
  Schema.storageClass.reader fun j =>
    { objectMeta := .ofObject j, provisioner := text j "provisioner" }

structure NetworkPolicy where
  objectMeta : Meta
  /-- Labels of the pods that it selects. -/
  matchLabels : Option (StringMap String) := none
  policyTypes : Option (List String) := none
  /-- The number of rules for traffic to the pods. -/
  ingressRules : Option Nat := none
  /-- The number of rules for traffic from the pods. -/
  egressRules : Option Nat := none
  deriving Inhabited

def NetworkPolicy.reader : Reader NetworkPolicy :=
  Schema.networkPolicy.reader fun j =>
    let spec := (field? j "spec").getD .null
    { objectMeta := .ofObject j
      matchLabels := (field? spec "podSelector").bind fun pods => textMap? pods "matchLabels"
      policyTypes := texts? spec "policyTypes"
      ingressRules := count? spec "ingress", egressRules := count? spec "egress" }

end ClusterInventory.Object
