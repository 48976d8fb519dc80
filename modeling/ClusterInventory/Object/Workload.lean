import ClusterInventory.Object.Meta
import ClusterInventory.Object.Schema.Workload
import ClusterInventory.Object.Storage

/-! Workloads as the cluster holds them, from deployments to pods. -/

namespace ClusterInventory.Object

/-- A container of a pod. Resource quantities are kept as they are written. -/
structure Container where
  name : String := ""
  image : Option String := none
  limits : Option (StringMap String) := none
  requests : Option (StringMap String) := none
  deriving Inhabited

def Container.ofJson (j : Json) : Container :=
  let resources := (field? j "resources").getD .null
  { name := text j "name", image := text? j "image", limits := textMap? resources "limits"
    requests := textMap? resources "requests" }

/-- The sources that a volume of a pod may have, in the order in which they count: field and
recorded name. -/
def podVolumeSources : List (String × String) := [
  ("persistentVolumeClaim", "PersistentVolumeClaim"), ("configMap", "ConfigMap"),
  ("secret", "Secret"), ("emptyDir", "EmptyDir"), ("hostPath", "HostPath"),
  ("projected", "Projected"), ("downwardAPI", "DownwardAPI"), ("csi", "CSI"),
  ("ephemeral", "Ephemeral"), ("nfs", "NFS")]

structure Volume where
  name : String := ""
  /-- Recorded names of its sources, the one that counts first. -/
  sources : List String := []
  deriving Inhabited

def Volume.ofJson (j : Json) : Volume :=
  { name := text j "name", sources := presentBackings podVolumeSources j }

structure PodSpec where
  containers : List Container := []
  initContainers : Option (List Container) := none
  restartPolicy : Option String := none
  serviceAccountName : Option String := none
  nodeName : Option String := none
  hostNetwork : Option Bool := none
  priorityClassName : Option String := none
  priority : Option Int := none
  volumes : Option (List Volume) := none
  deriving Inhabited

def PodSpec.ofJson (j : Json) : PodSpec :=
  { containers := (parts? j "containers" Container.ofJson).getD []
    initContainers := parts? j "initContainers" Container.ofJson
    restartPolicy := text? j "restartPolicy", serviceAccountName := text? j "serviceAccountName"
    nodeName := text? j "nodeName", hostNetwork := bool? j "hostNetwork"
    priorityClassName := text? j "priorityClassName", priority := int? j "priority"
    volumes := parts? j "volumes" Volume.ofJson }

structure PodTemplate where
  spec : Option PodSpec := none
  deriving Inhabited

def PodTemplate.ofJson (j : Json) : PodTemplate := { spec := part? j "spec" PodSpec.ofJson }

/-- What a deployment, stateful set, replica set or daemon set is meant to be. -/
structure ReplicaSpec where
  replicas : Option Int := none
  serviceName : String := ""
  strategy : Option String := none
  template : Option PodTemplate := none
  deriving Inhabited

/-- The counts that the status of such a workload gives. -/
structure ReplicaStatus where
  counts : StringMap Int := .empty
  deriving Inhabited

/-- The count of a name, if the status gives it. -/
def ReplicaStatus.count? (s : ReplicaStatus) (key : String) : Option Int := s.counts.find? key

/-- A count that is zero when the status does not give it. -/
def ReplicaStatus.count (s : ReplicaStatus) (key : String) : Int := (s.count? key).getD 0

structure Replicated where
  objectMeta : Meta
  spec : ReplicaSpec := {}
  status : ReplicaStatus := {}
  deriving Inhabited

/-- A group of workloads that keep pods alike: its type, the field of its strategy, and the keys of
its counts. -/
structure ReplicaKind where
  kind : String
  schema : Schema
  strategyField : String
  countKeys : List String

def ReplicaKind.deployment : ReplicaKind :=
  { kind := "Deployment", schema := .deployment, strategyField := "strategy"
    countKeys := ["availableReplicas", "readyReplicas", "replicas", "unavailableReplicas",
      "updatedReplicas"] }

def ReplicaKind.statefulSet : ReplicaKind :=
  { kind := "StatefulSet", schema := .statefulSet, strategyField := "updateStrategy"
    countKeys := ["currentReplicas", "readyReplicas", "replicas", "updatedReplicas"] }

def ReplicaKind.replicaSet : ReplicaKind :=
  { kind := "ReplicaSet", schema := .replicaSet, strategyField := ""
    countKeys := ["availableReplicas", "fullyLabeledReplicas", "readyReplicas", "replicas"] }

def ReplicaKind.daemonSet : ReplicaKind :=
  { kind := "DaemonSet", schema := .daemonSet, strategyField := "updateStrategy"
    countKeys := ["currentNumberScheduled", "desiredNumberScheduled", "numberAvailable",
      "numberMisscheduled", "numberReady", "updatedNumberScheduled"] }

def ReplicaStatus.ofJson (k : ReplicaKind) (j : Json) : ReplicaStatus :=
  { counts := .ofList (k.countKeys.filterMap fun key => (int? j key).map fun n => (key, n)) }

def ReplicaSpec.ofJson (k : ReplicaKind) (j : Json) : ReplicaSpec :=
  { replicas := int? j "replicas", serviceName := text j "serviceName"
    strategy := (field? j k.strategyField).bind fun strategy => text? strategy "type"
    template := part? j "template" PodTemplate.ofJson }

def Replicated.reader (k : ReplicaKind) : Reader Replicated :=
  k.schema.reader fun j =>
    { objectMeta := .ofObject j, spec := (part? j "spec" (ReplicaSpec.ofJson k)).getD {}
      status := (part? j "status" (ReplicaStatus.ofJson k)).getD {} }

structure JobSpec where
  parallelism : Option Int := none
  completions : Option Int := none
  backoffLimit : Option Int := none
  template : Option PodTemplate := none
  deriving Inhabited

def JobSpec.ofJson (j : Json) : JobSpec :=
  { parallelism := int? j "parallelism", completions := int? j "completions"
    backoffLimit := int? j "backoffLimit", template := part? j "template" PodTemplate.ofJson }

structure JobStatus where
  startTime : Option Instant := none
  completionTime : Option Instant := none
  active : Option Int := none
  ready : Option Int := none
  succeeded : Option Int := none
  failed : Option Int := none
  deriving Inhabited

def JobStatus.ofJson (j : Json) : JobStatus :=
  { startTime := instant? j "startTime", completionTime := instant? j "completionTime"
    active := int? j "active", ready := int? j "ready", succeeded := int? j "succeeded"
    failed := int? j "failed" }

structure Job where
  objectMeta : Meta
  spec : Option JobSpec := none
  status : Option JobStatus := none
  deriving Inhabited

def Job.reader : Reader Job :=
  Schema.job.reader fun j =>
    { objectMeta := .ofObject j, spec := part? j "spec" JobSpec.ofJson
      status := part? j "status" JobStatus.ofJson }

structure CronJobSpec where
  schedule : String := ""
  concurrencyPolicy : Option String := none
  suspend : Option Bool := none
  /-- The specification of the jobs that it starts. -/
  jobSpec : Option JobSpec := none
  deriving Inhabited

def CronJobSpec.ofJson (j : Json) : CronJobSpec :=
  { schedule := text j "schedule", concurrencyPolicy := text? j "concurrencyPolicy"
    suspend := bool? j "suspend"
    jobSpec := (field? j "jobTemplate").bind fun job => part? job "spec" JobSpec.ofJson }

def CronJobSpec.reader : Reader CronJobSpec := Schema.cronJobSpec.reader ofJson

structure CronJobStatus where
  lastScheduleTime : Option Instant := none
  lastSuccessfulTime : Option Instant := none
  deriving DecidableEq, Inhabited

def CronJobStatus.ofJson (j : Json) : CronJobStatus :=
  { lastScheduleTime := instant? j "lastScheduleTime"
    lastSuccessfulTime := instant? j "lastSuccessfulTime" }

def CronJobStatus.reader : Reader CronJobStatus := Schema.cronJobStatus.reader ofJson

structure CronJob where
  objectMeta : Meta
  spec : Option CronJobSpec := none
  status : Option CronJobStatus := none
  deriving Inhabited

def CronJob.reader : Reader CronJob :=
  Schema.cronJob.reader fun j =>
    { objectMeta := .ofObject j, spec := part? j "spec" CronJobSpec.ofJson
      status := part? j "status" CronJobStatus.ofJson }

structure PodCondition where
  type : String := ""
  status : String := ""
  message : Option String := none
  deriving DecidableEq, Repr, Inhabited

def PodCondition.ofJson (j : Json) : PodCondition :=
  { type := text j "type", status := text j "status", message := text? j "message" }

structure ContainerStatus where
  name : String := ""
  image : String := ""
  ready : Bool := false
  restartCount : Int := 0
  deriving DecidableEq, Repr, Inhabited

def ContainerStatus.ofJson (j : Json) : ContainerStatus :=
  { name := text j "name", image := text j "image", ready := (bool? j "ready").getD false
    restartCount := (int? j "restartCount").getD 0 }

structure PodStatus where
  phase : Option String := none
  podIp : Option String := none
  startTime : Option Instant := none
  qosClass : Option String := none
  conditions : Option (List PodCondition) := none
  containerStatuses : Option (List ContainerStatus) := none
  deriving Inhabited

def PodStatus.ofJson (j : Json) : PodStatus :=
  { phase := text? j "phase", podIp := text? j "podIP", startTime := instant? j "startTime"
    qosClass := text? j "qosClass", conditions := parts? j "conditions" PodCondition.ofJson
    containerStatuses := parts? j "containerStatuses" ContainerStatus.ofJson }

structure Pod where
  objectMeta : Meta
  spec : Option PodSpec := none
  status : Option PodStatus := none
  deriving Inhabited

def Pod.reader : Reader Pod :=
  Schema.pod.reader fun j =>
    { objectMeta := .ofObject j, spec := part? j "spec" PodSpec.ofJson
      status := part? j "status" PodStatus.ofJson }

end ClusterInventory.Object
