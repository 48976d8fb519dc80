import ClusterInventory.Collection.Domain
import ClusterInventory.Collection.Listings
import ClusterInventory.Workloads.Assembly

/-! The domain of workloads: everything that runs in a cluster, each with its root owner. -/

namespace ClusterInventory.Collection

open Api (Calls Handle Listing)

variable {σ α : Type}

/-- The objects of a listing, and an error if it failed. -/
def listObjects (h : Handle σ) (what : String) (l : Listing α) :
    Calls σ (List α × List CollectError) := do
  return objectsOrError Workloads.domainName what (← h.list l)

/-- The cron jobs in their present form or, where there are none, in their earlier one. -/
def listCronJobs (h : Handle σ) : Calls σ (List CronJobObject × List CollectError) := do
  let (present, errors) ← listObjects h "CronJobs/v1" Listing.cronJobs
  if present.isEmpty then
    match h.listing? "batch/v1beta1" "CronJob" with
    | none => return ([], errors)
    | some l =>
      let (earlier, more) ← listObjects h "CronJobs/v1beta1" l
      return (earlier.map .v1beta1, errors ++ more)
  else return (present.map .v1, errors)

/-- Everything that a pass is about. Jobs of cron jobs are left out. -/
def listWorkloads (h : Handle σ) : Calls σ (Workloads.Objects × List CollectError) := do
  let (deployments, e₁) ← listObjects h "Deployments" Listing.deployments
  let (statefulSets, e₂) ← listObjects h "StatefulSets" Listing.statefulSets
  let (replicaSets, e₃) ← listObjects h "ReplicaSets" Listing.replicaSets
  let (daemonSets, e₄) ← listObjects h "DaemonSets" Listing.daemonSets
  let (cronJobs, e₅) ← listCronJobs h
  let (jobs, e₆) ← listObjects h "Jobs" Listing.jobs
  let (pods, e₇) ← listObjects h "Pods" Listing.pods
  return (
    { deployments, statefulSets, replicaSets, daemonSets, cronJobs, pods
      jobs := jobs.filter fun j => !j.objectMeta.ownedByCronJob },
    e₁ ++ e₂ ++ e₃ ++ e₄ ++ e₅ ++ e₆ ++ e₇)

def workloads (h : Handle σ) : Domain σ :=
  .steady Workloads.domainName fun inv => do
    let (objects, listErrors) ← listWorkloads h
    let (records, errors) ← fun world =>
      let (records, errors, session) := Workloads.assemble h.lookup objects world
      some ((records, errors), session.world)
    return ({ inv with workloads := records }, listErrors ++ errors)

end ClusterInventory.Collection
