import ClusterInventory.Object.Schema.Pod

/-! The types of workloads above pods. -/

namespace ClusterInventory.Object.Schema

/-! ## Workloads that keep pods alike -/

def updateStrategy (type details : String) (fields : List (String × Schema)) : Schema :=
  record type (texts ["type"] ++ [("rollingUpdate", record details fields)])

def replicatedFields : List (String × Schema) :=
  int32s ["minReadySeconds"] ++ [("selector", labelSelector), ("template", podTemplate)]

def deployment : Schema :=
  object "apps/v1" "Deployment" [
    ("spec", record "DeploymentSpec" (replicatedFields ++ bools ["paused"] ++
      int32s ["progressDeadlineSeconds", "replicas", "revisionHistoryLimit"] ++
      [("strategy", updateStrategy "DeploymentStrategy" "RollingUpdateDeployment"
        (intOrTexts ["maxSurge", "maxUnavailable"]))])),
    ("status", record "DeploymentStatus" (int32s ["availableReplicas", "collisionCount",
        "readyReplicas", "replicas", "unavailableReplicas", "updatedReplicas"] ++
      int64s ["observedGeneration"] ++
      [("conditions", list (condition "DeploymentCondition" ["lastUpdateTime"]))]))]

def statefulSet : Schema :=
  object "apps/v1" "StatefulSet" [
    ("spec", record "StatefulSetSpec" (replicatedFields ++
      int32s ["replicas", "revisionHistoryLimit"] ++
      texts ["podManagementPolicy", "serviceName"] ++
      [("ordinals", record "StatefulSetOrdinals" (int32s ["start"])),
        ("persistentVolumeClaimRetentionPolicy",
          record "StatefulSetPersistentVolumeClaimRetentionPolicy"
            (texts ["whenDeleted", "whenScaled"])),
        ("updateStrategy", updateStrategy "StatefulSetUpdateStrategy"
          "RollingUpdateStatefulSetStrategy"
          (intOrTexts ["maxUnavailable"] ++ int32s ["partition"])),
        ("volumeClaimTemplates", list persistentVolumeClaim)])),
    ("status", record "StatefulSetStatus" (int32s ["availableReplicas", "collisionCount",
        "currentReplicas", "readyReplicas", "replicas", "updatedReplicas"] ++
      int64s ["observedGeneration"] ++ texts ["currentRevision", "updateRevision"] ++
      [("conditions", list (condition "StatefulSetCondition" []))]))]

def replicaSet : Schema :=
  object "apps/v1" "ReplicaSet" [
    ("spec", record "ReplicaSetSpec" (replicatedFields ++ int32s ["replicas"])),
    ("status", record "ReplicaSetStatus" (int32s ["availableReplicas", "fullyLabeledReplicas",
        "readyReplicas", "replicas"] ++ int64s ["observedGeneration"] ++
      [("conditions", list (condition "ReplicaSetCondition" []))]))]

def daemonSet : Schema :=
  object "apps/v1" "DaemonSet" [
    ("spec", record "DaemonSetSpec" (replicatedFields ++ int32s ["revisionHistoryLimit"] ++
      [("updateStrategy", updateStrategy "DaemonSetUpdateStrategy" "RollingUpdateDaemonSet"
        (intOrTexts ["maxSurge", "maxUnavailable"]))])),
    ("status", record "DaemonSetStatus" (int32s ["collisionCount", "currentNumberScheduled",
        "desiredNumberScheduled", "numberAvailable", "numberMisscheduled", "numberReady",
        "numberUnavailable", "updatedNumberScheduled"] ++ int64s ["observedGeneration"] ++
      [("conditions", list (condition "DaemonSetCondition" []))]))]

/-! ## Workloads that run to completion -/

def podFailurePolicy : Schema :=
  record "PodFailurePolicy" [("rules", list (record "PodFailurePolicyRule" (texts ["action"] ++ [
    ("onExitCodes", record "PodFailurePolicyOnExitCodesRequirement"
      (texts ["containerName", "operator"] ++ [("values", list (int 32))])),
    ("onPodConditions", list (record "PodFailurePolicyOnPodConditionsPattern"
      (texts ["status", "type"])))])))]

def jobSpec : Schema :=
  record "JobSpec" (int64s ["activeDeadlineSeconds"] ++
    int32s ["backoffLimit", "backoffLimitPerIndex", "completions", "maxFailedIndexes",
      "parallelism", "ttlSecondsAfterFinished"] ++
    texts ["completionMode", "podReplacementPolicy"] ++ bools ["manualSelector", "suspend"] ++
    [("podFailurePolicy", podFailurePolicy), ("selector", labelSelector),
      ("template", podTemplate)])

def job : Schema :=
  object "batch/v1" "Job" [
    ("spec", jobSpec),
    ("status", record "JobStatus" (int32s ["active", "failed", "ready", "succeeded",
        "terminating"] ++ texts ["completedIndexes", "failedIndexes"] ++
      instants ["completionTime", "startTime"] ++
      [("conditions", list (condition "JobCondition" ["lastProbeTime"])),
        ("uncountedTerminatedPods", record "UncountedTerminatedPods"
          (textLists ["failed", "succeeded"]))]))]

def cronJobSpec : Schema :=
  record "CronJobSpec" (texts ["concurrencyPolicy", "schedule", "timeZone"] ++
    int32s ["failedJobsHistoryLimit", "successfulJobsHistoryLimit"] ++
    int64s ["startingDeadlineSeconds"] ++ bools ["suspend"] ++
    [("jobTemplate", record "JobTemplateSpec" [("metadata", objectMeta), ("spec", jobSpec)])])

def cronJobStatus : Schema :=
  record "CronJobStatus" ([("active", list objectReference)] ++
    instants ["lastScheduleTime", "lastSuccessfulTime"])

def cronJob : Schema :=
  object "batch/v1" "CronJob" [("spec", cronJobSpec), ("status", cronJobStatus)]

end ClusterInventory.Object.Schema
