import ClusterInventory.Mapping.Meta
import ClusterInventory.Object.Node
import ClusterInventory.Quantity
import ClusterInventory.Record.Node
import ClusterInventory.Text.Split

/-! Records of nodes and namespaces. -/

namespace ClusterInventory

def Record.Namespace.ofObject (n : Object.Namespace) : Attempt Record.Namespace :=
  return { objectMeta := .ofObject n.objectMeta }

namespace Record.Node

/-- The roles that are recorded, in order. -/
def roleNames : List String := ["controlplane", "control-plane", "master", "etcd"]

/-- The role of a node without any role. -/
def workerRole : String := "worker"

/-- The roles that the labels of a node give, with commas between them. -/
def roles (labels : StringMap String) : String :=
  let found := roleNames.filter fun r => labels.contains ("node-role.kubernetes.io/" ++ r)
  if found.isEmpty then workerRole else ",".intercalate found

/-- Name and version of a container runtime, such as `containerd://1.7.2`; a text of another form
is all version. -/
def containerRuntime (s : String) : String × String :=
  match Text.splitOnce s "://" with
  | some (name, version) => (name, Text.dropTrailing '/' version)
  | none => ("", s)

/-- The provider that a provider id, such as `aws:///eu-west-1a/i-0abc`, begins with. -/
def providerOfId (id : String) : String :=
  match Text.splitOnce id "://" with
  | some (scheme, _) => scheme
  | none => id

/-- The first of the labels that is not empty. -/
def firstLabel (labels : StringMap String) (keys : List String) : String :=
  ((keys.filterMap labels.find?).find? fun v => !v.isEmpty).getD ""

def ofObject (o : Object.Node) : Attempt Record.Node := do
  let objectMeta := Record.ObjectMeta.ofObject o.objectMeta
  let spec := o.spec.getD {}
  let status := o.status.getD {}
  let info := status.info.getD {}
  let capacity := status.capacity.getD .empty
  let allocatable := status.allocatable.getD .empty
  let (criName, criVersion) := containerRuntime info.containerRuntimeVersion
  let role := roles objectMeta.labels
  let cpuCapacityMillis ← Quantity.milliValue (capacity.find? "cpu")
  let cpuAllocatableMillis ← Quantity.milliValue (allocatable.find? "cpu")
  let memoryCapacityBytes ← Quantity.value (capacity.find? "memory")
  let memoryAllocatableBytes ← Quantity.value (allocatable.find? "memory")
  return {
    objectMeta, role, isControlPlane := role != workerRole
    kubeletVersion := info.kubeletVersion
    kubeProxyVersion := info.kubeProxyVersion
    kernelVersion := info.kernelVersion
    osImage := info.osImage
    containerRuntimeVersion := info.containerRuntimeVersion
    criName, criVersion
    provider := providerOfId (spec.providerId.getD "")
    topologyRegion := firstLabel objectMeta.labels
      ["topology.kubernetes.io/region", "failure-domain.beta.kubernetes.io/region"]
    topologyZone := firstLabel objectMeta.labels
      ["topology.kubernetes.io/zone", "failure-domain.beta.kubernetes.io/zone"]
    cpuCapacityMillis, cpuAllocatableMillis, memoryCapacityBytes, memoryAllocatableBytes
    podCidrs := spec.podCidrs.getD []
    unschedulable := spec.unschedulable.getD false
    taints := UInt64.ofNat (spec.taints.getD 0) }

end Record.Node

end ClusterInventory
