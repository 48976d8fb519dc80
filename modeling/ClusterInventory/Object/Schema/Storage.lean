import ClusterInventory.Object.Schema.Selection

/-! The types of persistent storage: volumes, the storage that stands behind them, claims on them,
and classes of them. -/

namespace ClusterInventory.Object.Schema

/-! ## Storage behind volumes

Some storage is named in the same way by persistent volumes and by pods. Where it needs a secret,
the reference to that is of another type for each. -/

def awsElasticBlockStore : Schema :=
  record "AWSElasticBlockStoreVolumeSource" (texts ["fsType", "volumeID"] ++
    int32s ["partition"] ++ bools ["readOnly"])

def azureDisk : Schema :=
  record "AzureDiskVolumeSource" (texts ["cachingMode", "diskName", "diskURI", "fsType", "kind"] ++
    bools ["readOnly"])

def cephFs (type : String) (secret : Schema) : Schema :=
  record type (textLists ["monitors"] ++ texts ["path", "secretFile", "user"] ++
    bools ["readOnly"] ++ [("secretRef", secret)])

def cinder (type : String) (secret : Schema) : Schema :=
  record type (texts ["fsType", "volumeID"] ++ bools ["readOnly"] ++ [("secretRef", secret)])

def fibreChannel : Schema :=
  record "FCVolumeSource" (texts ["fsType"] ++ int32s ["lun"] ++ bools ["readOnly"] ++
    textLists ["targetWWNs", "wwids"])

def flexVolume (type : String) (secret : Schema) : Schema :=
  record type (texts ["driver", "fsType"] ++ textMaps ["options"] ++ bools ["readOnly"] ++
    [("secretRef", secret)])

def flocker : Schema := record "FlockerVolumeSource" (texts ["datasetName", "datasetUUID"])

def gcePersistentDisk : Schema :=
  record "GCEPersistentDiskVolumeSource" (texts ["fsType", "pdName"] ++ int32s ["partition"] ++
    bools ["readOnly"])

def hostPath : Schema := record "HostPathVolumeSource" (texts ["path", "type"])

def iscsi (type : String) (secret : Schema) : Schema :=
  record type (bools ["chapAuthDiscovery", "chapAuthSession", "readOnly"] ++
    texts ["fsType", "initiatorName", "iqn", "iscsiInterface", "targetPortal"] ++
    int32s ["lun"] ++ textLists ["portals"] ++ [("secretRef", secret)])

def nfs : Schema := record "NFSVolumeSource" (texts ["path", "server"] ++ bools ["readOnly"])

def photonPersistentDisk : Schema :=
  record "PhotonPersistentDiskVolumeSource" (texts ["fsType", "pdID"])

def portworxVolume : Schema :=
  record "PortworxVolumeSource" (texts ["fsType", "volumeID"] ++ bools ["readOnly"])

def quobyte : Schema :=
  record "QuobyteVolumeSource" (texts ["group", "registry", "tenant", "user", "volume"] ++
    bools ["readOnly"])

def rbd (type : String) (secret : Schema) : Schema :=
  record type (texts ["fsType", "image", "keyring", "pool", "user"] ++ textLists ["monitors"] ++
    bools ["readOnly"] ++ [("secretRef", secret)])

def scaleIo (type : String) (secret : Schema) : Schema :=
  record type (texts ["fsType", "gateway", "protectionDomain", "storageMode", "storagePool",
      "system", "volumeName"] ++ bools ["readOnly", "sslEnabled"] ++ [("secretRef", secret)])

def storageOs (type : String) (secret : Schema) : Schema :=
  record type (texts ["fsType", "volumeName", "volumeNamespace"] ++ bools ["readOnly"] ++
    [("secretRef", secret)])

def vsphereVolume : Schema :=
  record "VsphereVirtualDiskVolumeSource" (texts ["fsType", "storagePolicyID", "storagePolicyName",
    "volumePath"])

/-- The storage that persistent volumes and pods name by the same types. -/
def sharedSources : List (String × Schema) := [
  ("awsElasticBlockStore", awsElasticBlockStore), ("azureDisk", azureDisk), ("fc", fibreChannel),
  ("flocker", flocker), ("gcePersistentDisk", gcePersistentDisk), ("hostPath", hostPath),
  ("nfs", nfs), ("photonPersistentDisk", photonPersistentDisk),
  ("portworxVolume", portworxVolume), ("quobyte", quobyte), ("vsphereVolume", vsphereVolume)]

/-! ## Persistent volumes -/

def csiPersistentVolume : Schema :=
  record "CSIPersistentVolumeSource" (each secretReference ["controllerExpandSecretRef",
      "controllerPublishSecretRef", "nodeExpandSecretRef", "nodePublishSecretRef",
      "nodeStageSecretRef"] ++ texts ["driver", "fsType", "volumeHandle"] ++ bools ["readOnly"] ++
    textMaps ["volumeAttributes"])

def persistentVolumeSources : List (String × Schema) := sharedSources ++ [
  ("azureFile", record "AzureFilePersistentVolumeSource"
    (bools ["readOnly"] ++ texts ["secretName", "secretNamespace", "shareName"])),
  ("cephfs", cephFs "CephFSPersistentVolumeSource" secretReference),
  ("cinder", cinder "CinderPersistentVolumeSource" secretReference),
  ("csi", csiPersistentVolume),
  ("flexVolume", flexVolume "FlexPersistentVolumeSource" secretReference),
  ("glusterfs", record "GlusterfsPersistentVolumeSource"
    (texts ["endpoints", "endpointsNamespace", "path"] ++ bools ["readOnly"])),
  ("iscsi", iscsi "ISCSIPersistentVolumeSource" secretReference),
  ("local", record "LocalVolumeSource" (texts ["fsType", "path"])),
  ("rbd", rbd "RBDPersistentVolumeSource" secretReference),
  ("scaleIO", scaleIo "ScaleIOPersistentVolumeSource" secretReference),
  ("storageos", storageOs "StorageOSPersistentVolumeSource" objectReference)]

def persistentVolume : Schema :=
  object "v1" "PersistentVolume" [
    ("spec", record "PersistentVolumeSpec" (persistentVolumeSources ++
      textLists ["accessModes", "mountOptions"] ++ textMaps ["capacity"] ++
      texts ["persistentVolumeReclaimPolicy", "storageClassName", "volumeAttributesClassName",
        "volumeMode"] ++
      [("claimRef", objectReference),
        ("nodeAffinity", record "VolumeNodeAffinity" [("required", nodeSelector)])])),
    ("status", record "PersistentVolumeStatus" (instants ["lastPhaseTransitionTime"] ++
      texts ["message", "phase", "reason"]))]

def storageClass : Schema :=
  object "storage.k8s.io/v1" "StorageClass" (bools ["allowVolumeExpansion"] ++
    [("allowedTopologies", list (record "TopologySelectorTerm" [("matchLabelExpressions",
      list (record "TopologySelectorLabelRequirement"
        (texts ["key"] ++ textLists ["values"])))]))] ++
    textLists ["mountOptions"] ++ textMaps ["parameters"] ++
    texts ["provisioner", "reclaimPolicy", "volumeBindingMode"])

/-! ## Claims on volumes -/

def persistentVolumeClaimSpec : Schema :=
  record "PersistentVolumeClaimSpec" (textLists ["accessModes"] ++ [
      ("dataSource", record "TypedLocalObjectReference" (texts ["apiGroup", "kind", "name"])),
      ("dataSourceRef", record "TypedObjectReference"
        (texts ["apiGroup", "kind", "name", "namespace"])),
      ("resources", record "VolumeResourceRequirements" (textMaps ["limits", "requests"])),
      ("selector", labelSelector)] ++
    texts ["storageClassName", "volumeAttributesClassName", "volumeMode", "volumeName"])

def persistentVolumeClaim : Schema :=
  object "v1" "PersistentVolumeClaim" [
    ("spec", persistentVolumeClaimSpec),
    ("status", record "PersistentVolumeClaimStatus" (textLists ["accessModes"] ++
      textMaps ["allocatedResourceStatuses", "allocatedResources", "capacity"] ++
      [("conditions", list (condition "PersistentVolumeClaimCondition" ["lastProbeTime"])),
        ("modifyVolumeStatus", record "ModifyVolumeStatus"
          (texts ["status", "targetVolumeAttributesClassName"]))] ++
      texts ["currentVolumeAttributesClassName", "phase"]))]

end ClusterInventory.Object.Schema
