import ClusterInventory.Api.Listing
import ClusterInventory.Object.Node
import ClusterInventory.Object.Storage
import ClusterInventory.Object.Workload

/-! Where the objects of the well-known kinds are listed. The kinds with the most objects are
listed page by page. -/

namespace ClusterInventory.Api.Listing

def pageSize : Nat := 500

def namespaces : Listing Object.Namespace :=
  { target := "/api/v1/namespaces", item := Object.Namespace.reader }

def nodes : Listing Object.Node := { target := "/api/v1/nodes", item := Object.Node.reader }

def persistentVolumes : Listing Object.PersistentVolume :=
  { target := "/api/v1/persistentvolumes", item := Object.PersistentVolume.reader }

def storageClasses : Listing Object.StorageClass :=
  { target := "/apis/storage.k8s.io/v1/storageclasses", item := Object.StorageClass.reader }

def networkPolicies : Listing Object.NetworkPolicy :=
  { target := "/apis/networking.k8s.io/v1/networkpolicies", item := Object.NetworkPolicy.reader }

def deployments : Listing Object.Replicated :=
  { target := "/apis/apps/v1/deployments", item := Object.Replicated.reader .deployment }

def statefulSets : Listing Object.Replicated :=
  { target := "/apis/apps/v1/statefulsets", item := Object.Replicated.reader .statefulSet }

def replicaSets : Listing Object.Replicated :=
  { target := "/apis/apps/v1/replicasets", item := Object.Replicated.reader .replicaSet }

def daemonSets : Listing Object.Replicated :=
  { target := "/apis/apps/v1/daemonsets", item := Object.Replicated.reader .daemonSet }

def cronJobs : Listing Object.CronJob :=
  { target := "/apis/batch/v1/cronjobs", item := Object.CronJob.reader }

def jobs : Listing Object.Job :=
  { target := "/apis/batch/v1/jobs", limit := some pageSize, item := Object.Job.reader }

def pods : Listing Object.Pod :=
  { target := "/api/v1/pods", limit := some pageSize, item := Object.Pod.reader }

/-- The notes that the operator of a cluster leaves there. -/
def operatorNotes : Listing Object.ConfigMap :=
  { target := "/api/v1/namespaces/netic-metadata-system/configmaps"
    selector := some "netic.dk/owned-by=operator", item := Object.ConfigMap.reader }

end ClusterInventory.Api.Listing
