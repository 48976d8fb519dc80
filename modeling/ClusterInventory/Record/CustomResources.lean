import ClusterInventory.Record.Meta

/-! Records of operators that extend a cluster: which of them are there, and summaries of those
that are read. -/

namespace ClusterInventory.Record

structure VeleroBackup where
  name : String
  «namespace» : String
  scheduleName : String
  storageLocation : String
  phase : String
  startTimestamp : Option Instant
  completionTimestamp : Option Instant
  expiration : Option Instant
  itemsBackedUp : Int64
  totalItems : Int64
  warnings : Int64
  errors : Int64
  deriving DecidableEq, Inhabited

namespace VeleroBackup

def toJson (b : VeleroBackup) : Json :=
  .obj <| [("name", .str b.name), ("namespace", .str b.namespace),
      ("schedule_name", .str b.scheduleName), ("storage_location", .str b.storageLocation),
      ("phase", .str b.phase)] ++
    Json.memberOf "start_timestamp" Json.instant b.startTimestamp ++
    Json.memberOf "completion_timestamp" Json.instant b.completionTimestamp ++
    Json.memberOf "expiration" Json.instant b.expiration ++
    [("items_backed_up", .int b.itemsBackedUp.toInt), ("total_items", .int b.totalItems.toInt),
      ("warnings", .int b.warnings.toInt), ("errors", .int b.errors.toInt)]

def fields : Fields VeleroBackup := do
  let name ← Fields.required "name" Decoder.string
  let «namespace» ← Fields.required "namespace" Decoder.string
  let scheduleName ← Fields.required "schedule_name" Decoder.string
  let storageLocation ← Fields.required "storage_location" Decoder.string
  let phase ← Fields.required "phase" Decoder.string
  let startTimestamp ← Fields.optional "start_timestamp" Decoder.instant
  let completionTimestamp ← Fields.optional "completion_timestamp" Decoder.instant
  let expiration ← Fields.optional "expiration" Decoder.instant
  let itemsBackedUp ← Fields.required "items_backed_up" Decoder.int64
  let totalItems ← Fields.required "total_items" Decoder.int64
  let warnings ← Fields.required "warnings" Decoder.int64
  let errors ← Fields.required "errors" Decoder.int64
  return {
    name, «namespace», scheduleName, storageLocation, phase, startTimestamp, completionTimestamp,
    expiration, itemsBackedUp, totalItems, warnings, errors }

def decoder : Decoder VeleroBackup := Decoder.record fields

end VeleroBackup

structure VeleroSchedule where
  name : String
  «namespace» : String
  schedule : String
  phase : String
  lastBackup : Option Instant
  deriving DecidableEq, Inhabited

namespace VeleroSchedule

def toJson (s : VeleroSchedule) : Json :=
  .obj <| [("name", .str s.name), ("namespace", .str s.namespace), ("schedule", .str s.schedule),
      ("phase", .str s.phase)] ++
    Json.memberOf "last_backup" Json.instant s.lastBackup

def fields : Fields VeleroSchedule := do
  let name ← Fields.required "name" Decoder.string
  let «namespace» ← Fields.required "namespace" Decoder.string
  let schedule ← Fields.required "schedule" Decoder.string
  let phase ← Fields.required "phase" Decoder.string
  let lastBackup ← Fields.optional "last_backup" Decoder.instant
  return { name, «namespace», schedule, phase, lastBackup }

def decoder : Decoder VeleroSchedule := Decoder.record fields

end VeleroSchedule

structure Velero where
  backups : List VeleroBackup := []
  schedules : List VeleroSchedule := []
  deriving DecidableEq, Inhabited

namespace Velero

def toJson (v : Velero) : Json :=
  .obj [("backups", .arr (v.backups.map VeleroBackup.toJson)),
    ("schedules", .arr (v.schedules.map VeleroSchedule.toJson))]

def fields : Fields Velero := do
  let backups ← Fields.required "backups" (Decoder.list VeleroBackup.decoder)
  let schedules ← Fields.required "schedules" (Decoder.list VeleroSchedule.decoder)
  return { backups, schedules }

def decoder : Decoder Velero := Decoder.record fields

end Velero

structure DbInstance where
  objectMeta : ObjectMeta
  engine : String
  host : String
  port : Int64
  phase : String
  deriving DecidableEq, Inhabited

namespace DbInstance

def toJson (d : DbInstance) : Json :=
  .obj <| d.objectMeta.members ++ [("engine", .str d.engine), ("host", .str d.host),
    ("port", .int d.port.toInt), ("phase", .str d.phase)]

def fields : Fields DbInstance := do
  let objectMeta ← ObjectMeta.fields
  let engine ← Fields.required "engine" Decoder.string
  let host ← Fields.required "host" Decoder.string
  let port ← Fields.required "port" Decoder.int64
  let phase ← Fields.required "phase" Decoder.string
  return { objectMeta, engine, host, port, phase }

def decoder : Decoder DbInstance := Decoder.objectRecord fields

end DbInstance

structure KciRocks where
  dbInstances : List DbInstance := []
  deriving DecidableEq, Inhabited

namespace KciRocks

def toJson (k : KciRocks) : Json :=
  .obj [("db_instances", .arr (k.dbInstances.map DbInstance.toJson))]

def decoder : Decoder KciRocks := Decoder.record do
  return ⟨← Fields.required "db_instances" (Decoder.list DbInstance.decoder)⟩

end KciRocks

structure RabbitMqCluster where
  objectMeta : ObjectMeta
  image : String
  deriving DecidableEq, Inhabited

namespace RabbitMqCluster

def toJson (r : RabbitMqCluster) : Json :=
  .obj <| r.objectMeta.members ++ [("image", .str r.image)]

def fields : Fields RabbitMqCluster := do
  let objectMeta ← ObjectMeta.fields
  let image ← Fields.required "image" Decoder.string
  return { objectMeta, image }

def decoder : Decoder RabbitMqCluster := Decoder.objectRecord fields

end RabbitMqCluster

structure RabbitMq where
  clusters : List RabbitMqCluster := []
  deriving DecidableEq, Inhabited

namespace RabbitMq

def toJson (r : RabbitMq) : Json :=
  .obj [("clusters", .arr (r.clusters.map RabbitMqCluster.toJson))]

def decoder : Decoder RabbitMq := Decoder.record do
  return ⟨← Fields.required "clusters" (Decoder.list RabbitMqCluster.decoder)⟩

end RabbitMq

structure Calico where
  version : String
  creationTimestamp : Option Instant
  labels : StringMap String
  deriving DecidableEq, Inhabited

namespace Calico

def toJson (c : Calico) : Json :=
  .obj <| [("version", .str c.version)] ++
    Json.memberOf "creation_timestamp" Json.instant c.creationTimestamp ++
    Json.memberIf (!c.labels.isEmpty) "labels" (Json.stringMap c.labels)

def fields : Fields Calico := do
  let version ← Fields.required "version" Decoder.string
  let creationTimestamp ← Fields.optional "creation_timestamp" Decoder.instant
  let labels ← Fields.map "labels" Decoder.string
  return { version, creationTimestamp, labels }

def decoder : Decoder Calico := Decoder.record fields

end Calico

/-- Which well-known operators the cluster serves, and summaries of those that are read. -/
structure CustomResources where
  hasVelero : Bool := false
  hasKciRocks : Bool := false
  hasRabbitMq : Bool := false
  hasCalico : Bool := false
  hasContour : Bool := false
  hasExternalSecrets : Bool := false
  hasCertManager : Bool := false
  hasGitopsToolkit : Bool := false
  hasPrometheus : Bool := false
  velero : Velero := {}
  kciRocks : KciRocks := {}
  rabbitMq : RabbitMq := {}
  calico : Option Calico := none
  deriving DecidableEq, Inhabited

namespace CustomResources

def toJson (c : CustomResources) : Json :=
  .obj <| [("has_velero", .bool c.hasVelero), ("has_kci_rocks", .bool c.hasKciRocks),
      ("has_rabbitmq", .bool c.hasRabbitMq), ("has_calico", .bool c.hasCalico),
      ("has_contour", .bool c.hasContour), ("has_external_secrets", .bool c.hasExternalSecrets),
      ("has_cert_manager", .bool c.hasCertManager),
      ("has_gitops_toolkit", .bool c.hasGitopsToolkit), ("has_prometheus", .bool c.hasPrometheus),
      ("velero", c.velero.toJson), ("kci_rocks", c.kciRocks.toJson),
      ("rabbitmq", c.rabbitMq.toJson)] ++
    Json.memberOf "calico" Calico.toJson c.calico

def fields : Fields CustomResources := do
  let hasVelero ← Fields.required "has_velero" Decoder.bool
  let hasKciRocks ← Fields.required "has_kci_rocks" Decoder.bool
  let hasRabbitMq ← Fields.required "has_rabbitmq" Decoder.bool
  let hasCalico ← Fields.required "has_calico" Decoder.bool
  let hasContour ← Fields.required "has_contour" Decoder.bool
  let hasExternalSecrets ← Fields.required "has_external_secrets" Decoder.bool
  let hasCertManager ← Fields.required "has_cert_manager" Decoder.bool
  let hasGitopsToolkit ← Fields.required "has_gitops_toolkit" Decoder.bool
  let hasPrometheus ← Fields.required "has_prometheus" Decoder.bool
  let velero ← Fields.withDefault "velero" {} Velero.decoder
  let kciRocks ← Fields.withDefault "kci_rocks" {} KciRocks.decoder
  let rabbitMq ← Fields.withDefault "rabbitmq" {} RabbitMq.decoder
  let calico ← Fields.optional "calico" Calico.decoder
  return {
    hasVelero, hasKciRocks, hasRabbitMq, hasCalico, hasContour, hasExternalSecrets,
    hasCertManager, hasGitopsToolkit, hasPrometheus, velero, kciRocks, rabbitMq, calico }

def decoder : Decoder CustomResources := Decoder.record fields

end CustomResources

end ClusterInventory.Record
