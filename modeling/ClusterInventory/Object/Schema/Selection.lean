import ClusterInventory.Object.Schema.Meta

/-! The types by which pods choose the machines that they run on. -/

namespace ClusterInventory.Object.Schema

def nodeSelectorTerm : Schema :=
  let requirements := list (record "NodeSelectorRequirement"
    (texts ["key", "operator"] ++ textLists ["values"]))
  record "NodeSelectorTerm" (each requirements ["matchExpressions", "matchFields"])

def nodeSelector : Schema :=
  record "NodeSelector" [("nodeSelectorTerms", list nodeSelectorTerm)]

def nodeAffinity : Schema :=
  record "NodeAffinity" [
    ("preferredDuringSchedulingIgnoredDuringExecution", list (record "PreferredSchedulingTerm"
      ([("preference", nodeSelectorTerm)] ++ int32s ["weight"]))),
    ("requiredDuringSchedulingIgnoredDuringExecution", nodeSelector)]

/-- A choice of pods, near or far from which another one is to run. -/
def podAffinityTerm : Schema :=
  record "PodAffinityTerm" (each labelSelector ["labelSelector", "namespaceSelector"] ++
    textLists ["matchLabelKeys", "mismatchLabelKeys", "namespaces"] ++ texts ["topologyKey"])

def podAffinity (type : String) : Schema :=
  record type [
    ("preferredDuringSchedulingIgnoredDuringExecution", list (record "WeightedPodAffinityTerm"
      ([("podAffinityTerm", podAffinityTerm)] ++ int32s ["weight"]))),
    ("requiredDuringSchedulingIgnoredDuringExecution", list podAffinityTerm)]

def affinity : Schema :=
  record "Affinity" [("nodeAffinity", nodeAffinity), ("podAffinity", podAffinity "PodAffinity"),
    ("podAntiAffinity", podAffinity "PodAntiAffinity")]

def toleration : Schema :=
  record "Toleration" (texts ["effect", "key", "operator", "value"] ++
    int64s ["tolerationSeconds"])

def topologySpreadConstraint : Schema :=
  record "TopologySpreadConstraint" ([("labelSelector", labelSelector)] ++
    textLists ["matchLabelKeys"] ++ int32s ["maxSkew", "minDomains"] ++
    texts ["nodeAffinityPolicy", "nodeTaintsPolicy", "topologyKey", "whenUnsatisfiable"])

end ClusterInventory.Object.Schema
