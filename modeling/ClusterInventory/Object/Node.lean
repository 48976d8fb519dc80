import ClusterInventory.Object.Meta
import ClusterInventory.Object.Schema.Cluster

/-! Nodes, namespaces and sets of texts as the cluster holds them. -/

namespace ClusterInventory.Object

structure Namespace where
  objectMeta : Meta
  deriving Inhabited

def Namespace.reader : Reader Namespace :=
  Schema.namespace.reader fun j => { objectMeta := .ofObject j }

structure NodeSpec where
  podCidrs : Option (List String) := none
  providerId : Option String := none
  /-- The number of taints. -/
  taints : Option Nat := none
  unschedulable : Option Bool := none
  deriving Inhabited

structure NodeInfo where
  containerRuntimeVersion : String := ""
  kernelVersion : String := ""
  kubeProxyVersion : String := ""
  kubeletVersion : String := ""
  osImage : String := ""
  deriving Inhabited

/-- The observed state of a node. Resource quantities are kept as they are written. -/
structure NodeStatus where
  allocatable : Option (StringMap String) := none
  capacity : Option (StringMap String) := none
  info : Option NodeInfo := none
  deriving Inhabited

structure Node where
  objectMeta : Meta
  spec : Option NodeSpec := none
  status : Option NodeStatus := none
  deriving Inhabited

def NodeSpec.ofJson (j : Json) : NodeSpec :=
  { podCidrs := texts? j "podCIDRs", providerId := text? j "providerID"
    taints := count? j "taints", unschedulable := bool? j "unschedulable" }

def NodeInfo.ofJson (j : Json) : NodeInfo :=
  { containerRuntimeVersion := text j "containerRuntimeVersion"
    kernelVersion := text j "kernelVersion", kubeProxyVersion := text j "kubeProxyVersion"
    kubeletVersion := text j "kubeletVersion", osImage := text j "osImage" }

def NodeStatus.ofJson (j : Json) : NodeStatus :=
  { allocatable := textMap? j "allocatable", capacity := textMap? j "capacity"
    info := part? j "nodeInfo" NodeInfo.ofJson }

def Node.reader : Reader Node :=
  Schema.node.reader fun j =>
    { objectMeta := .ofObject j, spec := part? j "spec" NodeSpec.ofJson
      status := part? j "status" NodeStatus.ofJson }

/-- The cluster's own account of its version. -/
structure VersionInfo where
  buildDate : String := ""
  gitCommit : String := ""
  gitVersion : String := ""
  platform : String := ""
  deriving DecidableEq, Repr, Inhabited

def VersionInfo.reader : Reader VersionInfo :=
  Schema.versionInfo.reader fun j =>
    { buildDate := text j "buildDate", gitCommit := text j "gitCommit"
      gitVersion := text j "gitVersion", platform := text j "platform" }

structure ConfigMap where
  objectMeta : Meta
  data : Option (StringMap String) := none
  deriving Inhabited

def ConfigMap.reader : Reader ConfigMap :=
  Schema.configMap.reader fun j => { objectMeta := .ofObject j, data := textMap? j "data" }

end ClusterInventory.Object
