import ClusterInventory.Object.Meta
import ClusterInventory.Record.Meta

/-! The metadata of a record, from that of its object. The annotation in which `kubectl apply`
keeps its books is never taken over. -/

namespace ClusterInventory

/-- The annotation in which `kubectl apply` keeps the configuration that it applied last. -/
def lastAppliedAnnotation : String := "kubectl.kubernetes.io/last-applied-configuration"

def Record.OwnerRef.ofObject (o : Object.OwnerReference) : Record.OwnerRef :=
  { apiVersion := o.apiVersion, kind := o.kind, name := o.name
    controller := o.controller.getD false }

def Record.ObjectMeta.ofObject (m : Object.Meta) : Record.ObjectMeta :=
  { name := m.shownName
    «namespace» := m.namespace
    labels := m.labels.getD .empty
    annotations := (m.annotations.getD .empty).erase lastAppliedAnnotation
    creationTimestamp := m.creationTimestamp
    ownerReferences := (m.ownerReferences.getD []).map .ofObject }

/-- Some owner is a scheduled job, controlling or not. -/
def Object.Meta.ownedByCronJob (m : Object.Meta) : Bool :=
  (m.ownerReferences.getD []).any fun o => o.kind == "CronJob"

end ClusterInventory
