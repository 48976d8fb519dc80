import ClusterInventory.Object.Schema.Storage

/-! The types of the volumes of a pod. -/

namespace ClusterInventory.Object.Schema

def keyToPath : Schema := record "KeyToPath" (texts ["key", "path"] ++ int32s ["mode"])

def objectFieldSelector : Schema :=
  record "ObjectFieldSelector" (texts ["apiVersion", "fieldPath"])

def resourceFieldSelector : Schema :=
  record "ResourceFieldSelector" (texts ["containerName", "divisor", "resource"])

def downwardApiVolumeFile : Schema :=
  record "DownwardAPIVolumeFile" ([("fieldRef", objectFieldSelector),
    ("resourceFieldRef", resourceFieldSelector)] ++ int32s ["mode"] ++ texts ["path"])

def volumeProjection : Schema :=
  record "VolumeProjection" [
    ("clusterTrustBundle", record "ClusterTrustBundleProjection"
      ([("labelSelector", labelSelector)] ++ texts ["name", "path", "signerName"] ++
        bools ["optional"])),
    ("configMap", record "ConfigMapProjection"
      ([("items", list keyToPath)] ++ texts ["name"] ++ bools ["optional"])),
    ("downwardAPI", record "DownwardAPIProjection" [("items", list downwardApiVolumeFile)]),
    ("secret", record "SecretProjection"
      ([("items", list keyToPath)] ++ texts ["name"] ++ bools ["optional"])),
    ("serviceAccountToken", record "ServiceAccountTokenProjection"
      (texts ["audience", "path"] ++ int64s ["expirationSeconds"]))]

/-- Storage that a driver of the cluster's own provides to one pod. -/
def csiVolume : Schema :=
  record "CSIVolumeSource" (texts ["driver", "fsType"] ++
    [("nodePublishSecretRef", localObjectReference)] ++ bools ["readOnly"] ++
    textMaps ["volumeAttributes"])

def volume : Schema :=
  record "Volume" (texts ["name"] ++ sharedSources ++ [
    ("azureFile", record "AzureFileVolumeSource"
      (bools ["readOnly"] ++ texts ["secretName", "shareName"])),
    ("cephfs", cephFs "CephFSVolumeSource" localObjectReference),
    ("cinder", cinder "CinderVolumeSource" localObjectReference),
    ("configMap", record "ConfigMapVolumeSource" (int32s ["defaultMode"] ++
      [("items", list keyToPath)] ++ texts ["name"] ++ bools ["optional"])),
    ("csi", csiVolume),
    ("downwardAPI", record "DownwardAPIVolumeSource" (int32s ["defaultMode"] ++
      [("items", list downwardApiVolumeFile)])),
    ("emptyDir", record "EmptyDirVolumeSource" (texts ["medium", "sizeLimit"])),
    ("ephemeral", record "EphemeralVolumeSource" [("volumeClaimTemplate",
      record "PersistentVolumeClaimTemplate"
        [("metadata", objectMeta), ("spec", persistentVolumeClaimSpec)])]),
    ("flexVolume", flexVolume "FlexVolumeSource" localObjectReference),
    ("gitRepo", record "GitRepoVolumeSource" (texts ["directory", "repository", "revision"])),
    ("glusterfs", record "GlusterfsVolumeSource"
      (texts ["endpoints", "path"] ++ bools ["readOnly"])),
    ("iscsi", iscsi "ISCSIVolumeSource" localObjectReference),
    ("persistentVolumeClaim", record "PersistentVolumeClaimVolumeSource"
      (texts ["claimName"] ++ bools ["readOnly"])),
    ("projected", record "ProjectedVolumeSource" (int32s ["defaultMode"] ++
      [("sources", list volumeProjection)])),
    ("rbd", rbd "RBDVolumeSource" localObjectReference),
    ("scaleIO", scaleIo "ScaleIOVolumeSource" localObjectReference),
    ("secret", record "SecretVolumeSource" (int32s ["defaultMode"] ++
      [("items", list keyToPath)] ++ bools ["optional"] ++ texts ["secretName"])),
    ("storageos", storageOs "StorageOSVolumeSource" localObjectReference)])

end ClusterInventory.Object.Schema
