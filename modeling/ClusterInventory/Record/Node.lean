import ClusterInventory.Record.Meta

/-! Records of the cluster's own parts: namespaces and nodes. -/

namespace ClusterInventory.Record

structure Namespace where
  objectMeta : ObjectMeta
  deriving DecidableEq, Inhabited

namespace Namespace

def toJson (n : Namespace) : Json := n.objectMeta.toJson

def decoder : Decoder Namespace := Decoder.objectRecord do
  return ⟨← ObjectMeta.fields⟩

end Namespace

/-- A machine of the cluster. Processor time is in thousandths, memory in bytes. -/
structure Node where
  objectMeta : ObjectMeta
  role : String
  isControlPlane : Bool
  kubeletVersion : String
  kubeProxyVersion : String
  kernelVersion : String
  osImage : String
  containerRuntimeVersion : String
  criName : String
  criVersion : String
  provider : String
  topologyRegion : String
  topologyZone : String
  cpuCapacityMillis : Int64
  cpuAllocatableMillis : Int64
  memoryCapacityBytes : Int64
  memoryAllocatableBytes : Int64
  podCidrs : List String
  unschedulable : Bool
  /-- The number of taints. -/
  taints : UInt64
  deriving DecidableEq, Inhabited

namespace Node

def toJson (n : Node) : Json :=
  .obj <| n.objectMeta.members ++ [
      ("role", .str n.role), ("is_control_plane", .bool n.isControlPlane),
      ("kubelet_version", .str n.kubeletVersion), ("kube_proxy_version", .str n.kubeProxyVersion),
      ("kernel_version", .str n.kernelVersion), ("os_image", .str n.osImage),
      ("container_runtime_version", .str n.containerRuntimeVersion), ("cri_name", .str n.criName),
      ("cri_version", .str n.criVersion), ("provider", .str n.provider),
      ("topology_region", .str n.topologyRegion), ("topology_zone", .str n.topologyZone),
      ("cpu_capacity_millis", .int n.cpuCapacityMillis.toInt),
      ("cpu_allocatable_millis", .int n.cpuAllocatableMillis.toInt),
      ("memory_capacity_bytes", .int n.memoryCapacityBytes.toInt),
      ("memory_allocatable_bytes", .int n.memoryAllocatableBytes.toInt)] ++
    Json.memberIf (!n.podCidrs.isEmpty) "pod_cidrs" (Json.strings n.podCidrs) ++
    [("unschedulable", .bool n.unschedulable), ("taints", .int n.taints.toNat)]

def fields : Fields Node := do
  let objectMeta ← ObjectMeta.fields
  let role ← Fields.required "role" Decoder.string
  let isControlPlane ← Fields.required "is_control_plane" Decoder.bool
  let kubeletVersion ← Fields.required "kubelet_version" Decoder.string
  let kubeProxyVersion ← Fields.required "kube_proxy_version" Decoder.string
  let kernelVersion ← Fields.required "kernel_version" Decoder.string
  let osImage ← Fields.required "os_image" Decoder.string
  let containerRuntimeVersion ← Fields.required "container_runtime_version" Decoder.string
  let criName ← Fields.required "cri_name" Decoder.string
  let criVersion ← Fields.required "cri_version" Decoder.string
  let provider ← Fields.required "provider" Decoder.string
  let topologyRegion ← Fields.required "topology_region" Decoder.string
  let topologyZone ← Fields.required "topology_zone" Decoder.string
  let cpuCapacityMillis ← Fields.required "cpu_capacity_millis" Decoder.int64
  let cpuAllocatableMillis ← Fields.required "cpu_allocatable_millis" Decoder.int64
  let memoryCapacityBytes ← Fields.required "memory_capacity_bytes" Decoder.int64
  let memoryAllocatableBytes ← Fields.required "memory_allocatable_bytes" Decoder.int64
  let podCidrs ← Fields.list "pod_cidrs" Decoder.string
  let unschedulable ← Fields.required "unschedulable" Decoder.bool
  let taints ← Fields.required "taints" Decoder.uint64
  return {
    objectMeta, role, isControlPlane, kubeletVersion, kubeProxyVersion, kernelVersion, osImage,
    containerRuntimeVersion, criName, criVersion, provider, topologyRegion, topologyZone,
    cpuCapacityMillis, cpuAllocatableMillis, memoryCapacityBytes, memoryAllocatableBytes,
    podCidrs, unschedulable, taints }

def decoder : Decoder Node := Decoder.objectRecord fields

end Node

end ClusterInventory.Record
