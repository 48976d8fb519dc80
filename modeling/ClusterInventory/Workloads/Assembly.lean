import ClusterInventory.CollectError
import ClusterInventory.Mapping.Workload
import ClusterInventory.Ownership.Resolver
import Std.Data.HashSet

/-! The list of workloads: every listed object with its root owner, followed by placeholders for
root owners that no listing holds. -/

namespace ClusterInventory.Workloads

open Ownership (Fetcher Session Resolution)

def domainName : String := "workloads"

structure Objects where
  deployments : List Object.Replicated := []
  statefulSets : List Object.Replicated := []
  replicaSets : List Object.Replicated := []
  daemonSets : List Object.Replicated := []
  cronJobs : List CronJobObject := []
  jobs : List Object.Job := []
  pods : List Object.Pod := []
  deriving Inhabited

/-- One listed object: its kind, its metadata, and the attempt to record it. -/
structure Source where
  kind : String
  objectMeta : Object.Meta
  record : Attempt Record.Workload

namespace Source

def subject (s : Source) : String :=
  match s.objectMeta.namespace with
  | some ns => s!"{s.kind} {ns}/{s.objectMeta.shownName}"
  | none => s!"{s.kind} {s.objectMeta.shownName}"

end Source

/-- The listed objects, in the order in which they are recorded. -/
def Objects.sources (o : Objects) : List Source :=
  o.deployments.map (fun d => ⟨"Deployment", d.objectMeta, Record.Workload.ofDeployment d⟩) ++
    o.statefulSets.map (fun d => ⟨"StatefulSet", d.objectMeta, Record.Workload.ofStatefulSet d⟩) ++
    o.replicaSets.map (fun d => ⟨"ReplicaSet", d.objectMeta, Record.Workload.ofReplicaSet d⟩) ++
    o.daemonSets.map (fun d => ⟨"DaemonSet", d.objectMeta, Record.Workload.ofDaemonSet d⟩) ++
    o.cronJobs.map (fun d => ⟨"CronJob", d.objectMeta, d.toWorkload⟩) ++
    o.jobs.map (fun d => ⟨"Job", d.objectMeta, Record.Workload.ofJob d⟩) ++
    o.pods.map (fun d => ⟨"Pod", d.objectMeta, Record.Workload.ofPod d⟩)

structure Contribution where
  records : List Record.Workload := []
  placeholders : List Record.Workload := []
  errors : List CollectError := []
  deriving Inhabited

namespace Contribution

/-- The contribution of a recorded object whose owners have been looked for. -/
def ofResolved (subject : String) (w : Record.Workload) :
    Except Ownership.ResolveError (Option Resolution) → Contribution
  | .ok (some r) =>
    { records := [{ w with rootOwner := some r.root }], placeholders := [r.placeholder] }
  | .ok none => { records := [w] }
  | .error e => { records := [w], errors := [.ofRecord domainName subject e.message] }

end Contribution

variable {σ : Type}

/-- What one object contributes. An object that cannot be recorded is not resolved either. -/
def contribute (fetch : Fetcher σ) (o : Source) (s : Session σ) : Contribution × Session σ :=
  match guarded domainName o.subject o.record with
  | .error e => ({ errors := [e] }, s)
  | .ok w =>
    let (outcome, s) := Ownership.resolve fetch o.objectMeta s
    (.ofResolved o.subject w outcome, s)

/-- What a row of objects contributes, within one session. -/
def contributions (fetch : Fetcher σ) :
    List Source → Session σ → List Contribution × Session σ
  | [], s => ([], s)
  | o :: rest, s =>
    let (c, s) := contribute fetch o s
    let (cs, s) := contributions fetch rest s
    (c :: cs, s)

/-- The placeholders whose identity has not been seen: neither before, nor earlier among them. -/
def unseen (seen : Std.HashSet Record.WorkloadId) :
    List Record.Workload → List Record.Workload
  | [] => []
  | p :: rest =>
    if p.id ∈ seen then unseen seen rest else p :: unseen (seen.insert p.id) rest

/-- The records, followed by those placeholders that stand for none of them. -/
def merge (records placeholders : List Record.Workload) : List Record.Workload :=
  records ++ unseen (.ofList (records.map (·.id))) placeholders

/-- The list of workloads and the errors met on the way. -/
def assemble (fetch : Fetcher σ) (o : Objects) (world : σ) :
    List Record.Workload × List CollectError × Session σ :=
  let (cs, s) := contributions fetch o.sources (.start world)
  (merge (cs.flatMap (·.records)) (cs.flatMap (·.placeholders)), cs.flatMap (·.errors), s)

end ClusterInventory.Workloads
