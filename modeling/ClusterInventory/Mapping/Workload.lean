import ClusterInventory.Mapping.Meta
import ClusterInventory.Object.Workload
import ClusterInventory.Quantity
import ClusterInventory.Record.Workload

/-! Records of workloads. Scheduled jobs come in two generations that give the same record but for
its version: one of known type, and an earlier one that is read as any object. -/

namespace ClusterInventory

namespace Record.Workload

/-- A whole number of 32 bits, as a document. -/
def count (n : Int) : Document := .int64 (Int64.ofInt n)

def moment (t : Instant) : Document := .str t.text

def containerDocument (c : Object.Container) : Attempt Document := do
  let limits := c.limits.getD .empty
  let requests := c.requests.getD .empty
  let limitsCpu ← Quantity.milliValue (limits.find? "cpu")
  let limitsMemory ← Quantity.value (limits.find? "memory")
  let requestsCpu ← Quantity.milliValue (requests.find? "cpu")
  let requestsMemory ← Quantity.value (requests.find? "memory")
  return .object [("name", .str c.name), ("image", .str (c.image.getD "")),
    ("limits_cpu", .int64 limitsCpu), ("limits_memory", .int64 limitsMemory),
    ("requests_cpu", .int64 requestsCpu), ("requests_memory", .int64 requestsMemory)]

def containersDocument (cs : List Object.Container) : Attempt Document := do
  return .list (← cs.mapM containerDocument)

/-- What is recorded of the pods that a workload makes. -/
def templateDocument (t : Object.PodTemplate) : Attempt Document := do
  let spec := t.spec.getD {}
  let containers ← containersDocument spec.containers
  let initContainers ← containersDocument (spec.initContainers.getD [])
  return .object [("containers", containers), ("init_containers", initContainers)]

/-- What is recorded of a template that may be missing. -/
def templateOrNull : Option Object.PodTemplate → Attempt Document
  | some t => templateDocument t
  | none => return .null

/-- The record of a workload before its root owner is known. -/
def ofParts (typeMeta : TypeMeta) (m : Object.Meta) (spec status : List (String × Document)) :
    Record.Workload :=
  { typeMeta, objectMeta := .ofObject m, spec := .object spec, status := .object status
    rootOwner := none }

def ofDeployment (o : Object.Replicated) : Attempt Record.Workload := do
  let template ← templateDocument (o.spec.template.getD {})
  return ofParts (.ofKind "apps" "v1" "Deployment") o.objectMeta
    [("strategy", .str (o.spec.strategy.getD "")),
      ("replicas", .ofOption count o.spec.replicas),
      ("template", template)]
    [("replicas", count (o.status.count "replicas")),
      ("ready_replicas", count (o.status.count "readyReplicas")),
      ("updated_replicas", count (o.status.count "updatedReplicas")),
      ("available_replicas", count (o.status.count "availableReplicas")),
      ("unavailable_replicas", count (o.status.count "unavailableReplicas"))]

def ofStatefulSet (o : Object.Replicated) : Attempt Record.Workload := do
  let template ← templateDocument (o.spec.template.getD {})
  return ofParts (.ofKind "apps" "v1" "StatefulSet") o.objectMeta
    [("replicas", .ofOption count o.spec.replicas),
      ("service_name", .str o.spec.serviceName),
      ("update_strategy", .str (o.spec.strategy.getD "")),
      ("template", template)]
    [("replicas", count (o.status.count "replicas")),
      ("ready_replicas", count (o.status.count "readyReplicas")),
      ("current_replicas", count (o.status.count "currentReplicas")),
      ("updated_replicas", count (o.status.count "updatedReplicas"))]

def ofReplicaSet (o : Object.Replicated) : Attempt Record.Workload := do
  let template ← templateOrNull o.spec.template
  return ofParts (.ofKind "apps" "v1" "ReplicaSet") o.objectMeta
    [("replicas", .ofOption count o.spec.replicas), ("template", template)]
    [("replicas", count (o.status.count "replicas")),
      ("ready_replicas", count (o.status.count "readyReplicas")),
      ("available_replicas", count (o.status.count "availableReplicas")),
      ("fully_labeled_replicas", count (o.status.count "fullyLabeledReplicas"))]

def ofDaemonSet (o : Object.Replicated) : Attempt Record.Workload := do
  let template ← templateDocument (o.spec.template.getD {})
  return ofParts (.ofKind "apps" "v1" "DaemonSet") o.objectMeta
    [("update_strategy", .str (o.spec.strategy.getD "")), ("template", template)]
    [("current_number_scheduled", count (o.status.count "currentNumberScheduled")),
      ("desired_number_scheduled", count (o.status.count "desiredNumberScheduled")),
      ("number_ready", count (o.status.count "numberReady")),
      ("number_available", count (o.status.count "numberAvailable")),
      ("number_misscheduled", count (o.status.count "numberMisscheduled")),
      ("updated_number_scheduled", count (o.status.count "updatedNumberScheduled"))]

/-- The record of a scheduled job of either generation. -/
def ofCronJobParts (version : String) (m : Object.Meta) (spec : Object.CronJobSpec)
    (status : Object.CronJobStatus) : Attempt Record.Workload := do
  let template ← templateOrNull (spec.jobSpec.map fun s => s.template.getD {})
  return ofParts (.ofKind "batch" version "CronJob") m
    [("schedule", .str spec.schedule),
      ("concurrency_policy", .str (spec.concurrencyPolicy.getD "")),
      ("suspend", .bool (spec.suspend.getD false)),
      ("job_template", template)]
    [("last_schedule_time", .ofOption moment status.lastScheduleTime),
      ("last_successful_time", .ofOption moment status.lastSuccessfulTime)]

def ofJob (o : Object.Job) : Attempt Record.Workload := do
  let spec := o.spec.getD {}
  let status := o.status.getD {}
  let template ← templateDocument (spec.template.getD {})
  return ofParts (.ofKind "batch" "v1" "Job") o.objectMeta
    [("parallelism", .ofOption count spec.parallelism),
      ("completions", .ofOption count spec.completions),
      ("backoff_limit", .ofOption count spec.backoffLimit),
      ("template", template)]
    [("start_time", .ofOption moment status.startTime),
      ("completion_time", .ofOption moment status.completionTime),
      ("active", count (status.active.getD 0)),
      ("ready", .ofOption count status.ready),
      ("succeeded", count (status.succeeded.getD 0)),
      ("failed", count (status.failed.getD 0))]

def volumeDocument (v : Object.Volume) : Document :=
  .object [("name", .str v.name), ("source", .str (v.sources.head?.getD "Unknown"))]

def conditionDocument (c : Object.PodCondition) : Document :=
  .object [("type", .str c.type), ("status", .str c.status),
    ("message", .ofOption .str c.message)]

def containerStatusDocument (c : Object.ContainerStatus) : Document :=
  .object [("name", .str c.name), ("image", .str c.image), ("ready", .bool c.ready),
    ("restart_count", count c.restartCount)]

def ofPod (o : Object.Pod) : Attempt Record.Workload := do
  let spec := o.spec.getD {}
  let status := o.status.getD {}
  let containers ← containersDocument spec.containers
  let initContainers ← containersDocument (spec.initContainers.getD [])
  return ofParts (.ofKind "" "v1" "Pod") o.objectMeta
    [("containers", containers),
      ("init_containers", initContainers),
      ("restart_policy", .ofOption .str spec.restartPolicy),
      ("service_account_name", .ofOption .str spec.serviceAccountName),
      ("node_name", .ofOption .str spec.nodeName),
      ("host_network", .bool (spec.hostNetwork.getD false)),
      ("priority_class_name", .ofOption .str spec.priorityClassName),
      ("priority", .ofOption count spec.priority),
      ("volumes", .list ((spec.volumes.getD []).map volumeDocument))]
    [("phase", .ofOption .str status.phase),
      ("pod_ip", .ofOption .str status.podIp),
      ("start_time", .ofOption moment status.startTime),
      ("qos_class", .ofOption .str status.qosClass),
      ("conditions", .list ((status.conditions.getD []).map conditionDocument)),
      ("container_statuses",
        .list ((status.containerStatuses.getD []).map containerStatusDocument))]

end Record.Workload

inductive CronJobObject where
  | v1 (o : Object.CronJob)
  /-- The earlier generation, whose specification and status have the same form. -/
  | v1beta1 (o : Object.Dynamic)

namespace CronJobObject

def objectMeta : CronJobObject → Object.Meta
  | .v1 o => o.objectMeta
  | .v1beta1 o => o.objectMeta

/-- The value that a part of an object reads as, or the failure to read it. -/
def readPart {α : Type} (r : Object.Reader α) (j : Json) : Attempt α :=
  match r.whole j with
  | .ok a => .value a
  | .error e => .failed [e.message]

/-- The record of a scheduled job. Of the earlier generation the specification has to be there,
and neither it nor the status may be null. -/
def toWorkload : CronJobObject → Attempt Record.Workload
  | .v1 o => Record.Workload.ofCronJobParts "v1" o.objectMeta (o.spec.getD {}) (o.status.getD {})
  | .v1beta1 o =>
    match o.data.get? "spec" with
    | none => .failed ["missing spec"]
    | some j => do
      let spec ← readPart Object.CronJobSpec.reader j
      let status ← match o.data.get? "status" with
        | none => pure {}
        | some j => readPart Object.CronJobStatus.reader j
      Record.Workload.ofCronJobParts "v1beta1" o.objectMeta spec status

end CronJobObject

end ClusterInventory
