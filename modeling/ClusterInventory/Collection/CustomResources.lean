import ClusterInventory.Collection.Domain
import ClusterInventory.Mapping.CustomResources

/-! The domain of operators that extend a cluster: which of them are there, and summaries of the
objects of those that are read. -/

namespace ClusterInventory.Collection

open Api (Calls CallError Handle)

variable {σ β : Type}

namespace CustomResources

def domainName : String := "custom_resources"

/-- The records of all objects of a kind; those of an operator that is absent are not asked for. -/
def summarize (h : Handle σ) (present : Bool) (apiVersion kind : String)
    (record : Object.Dynamic → Attempt β) : Calls σ (List β × List CollectError) :=
  if present then do
    return recordsOf domainName s!"{apiVersion}/{kind}" Object.Dynamic.subject record []
      (← h.listKind apiVersion kind)
  else return ([], [])

/-- The summary of Calico's one object. -/
def calico (h : Handle σ) (present : Bool) : Calls σ (Option Record.Calico × List CollectError) :=
  if present then
    match h.catalog.find? "crd.projectcalico.org/v1" "ClusterInformation" with
    | none => return (none, [])
    | some served => do
      match ← h.once fun c => c.get? (served.resource.path none ++ "/default") with
      | .ok found => return (found.map Record.Calico.ofObject, [])
      | .error e =>
        return (none,
          [.ofDomain domainName s!"getting calico cluster information: {e.message}"])
  else return (none, [])

end CustomResources

open CustomResources in
def customResources (h : Handle σ) : Domain σ :=
  .steady domainName fun inv => do
    let r := Record.CustomResources.ofCatalog h.catalog
    let (backups, e₁) ←
      summarize h r.hasVelero "velero.io/v1" "Backup" Record.VeleroBackup.ofObject
    let (schedules, e₂) ←
      summarize h r.hasVelero "velero.io/v1" "Schedule" Record.VeleroSchedule.ofObject
    let (dbInstances, e₃) ←
      summarize h r.hasKciRocks "kci.rocks/v1alpha1" "DbInstance" Record.DbInstance.ofObject
    let (clusters, e₄) ← summarize h r.hasRabbitMq "rabbitmq.com/v1beta1" "RabbitmqCluster"
      Record.RabbitMqCluster.ofObject
    let (calico, e₅) ← calico h r.hasCalico
    return ({ inv with
        customResources := { r with
          velero := { backups, schedules }, kciRocks := { dbInstances }
          rabbitMq := { clusters }, calico } },
      e₁ ++ e₂ ++ e₃ ++ e₄ ++ e₅)

end ClusterInventory.Collection
