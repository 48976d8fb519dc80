import ClusterInventory.Record.Meta

/-! Records of storage: persistent volumes and storage classes. -/

namespace ClusterInventory.Record

/-- A persistent volume. Its capacity is in bytes. -/
structure PersistentVolume where
  objectMeta : ObjectMeta
  storageClass : String
  /-- Namespace, kind and name of what holds the volume. -/
  claim : String
  status : String
  accessModes : String
  volumeMode : String
  capacity : Int64
  /-- The kind of storage behind the volume. -/
  source : String
  deriving DecidableEq, Inhabited

namespace PersistentVolume

def toJson (v : PersistentVolume) : Json :=
  .obj <| v.objectMeta.members ++ [
    ("storage_class", .str v.storageClass), ("claim", .str v.claim), ("status", .str v.status),
    ("access_modes", .str v.accessModes), ("volume_mode", .str v.volumeMode),
    ("capacity", .int v.capacity.toInt), ("source", .str v.source)]

def fields : Fields PersistentVolume := do
  let objectMeta ← ObjectMeta.fields
  let storageClass ← Fields.required "storage_class" Decoder.string
  let claim ← Fields.required "claim" Decoder.string
  let status ← Fields.required "status" Decoder.string
  let accessModes ← Fields.required "access_modes" Decoder.string
  let volumeMode ← Fields.required "volume_mode" Decoder.string
  let capacity ← Fields.required "capacity" Decoder.int64
  let source ← Fields.required "source" Decoder.string
  return { objectMeta, storageClass, claim, status, accessModes, volumeMode, capacity, source }

def decoder : Decoder PersistentVolume := Decoder.objectRecord fields

end PersistentVolume

structure StorageClass where
  objectMeta : ObjectMeta
  provisioner : String
  deriving DecidableEq, Inhabited

namespace StorageClass

def toJson (c : StorageClass) : Json :=
  .obj <| c.objectMeta.members ++ [("provisioner", .str c.provisioner)]

def fields : Fields StorageClass := do
  let objectMeta ← ObjectMeta.fields
  let provisioner ← Fields.required "provisioner" Decoder.string
  return { objectMeta, provisioner }

def decoder : Decoder StorageClass := Decoder.objectRecord fields

end StorageClass

structure Storage where
  persistentVolumes : List PersistentVolume := []
  storageClasses : List StorageClass := []
  deriving DecidableEq, Inhabited

namespace Storage

def toJson (s : Storage) : Json :=
  .obj [("persistent_volumes", .arr (s.persistentVolumes.map PersistentVolume.toJson)),
    ("storage_classes", .arr (s.storageClasses.map StorageClass.toJson))]

def fields : Fields Storage := do
  let persistentVolumes ← Fields.list "persistent_volumes" PersistentVolume.decoder
  let storageClasses ← Fields.list "storage_classes" StorageClass.decoder
  return { persistentVolumes, storageClasses }

def decoder : Decoder Storage := Decoder.record fields

end Storage

end ClusterInventory.Record
