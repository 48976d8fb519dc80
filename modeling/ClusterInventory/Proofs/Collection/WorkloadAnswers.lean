import ClusterInventory.Proofs.Collection.Domains
import ClusterInventory.Proofs.Workloads.Contributions

/-!
# What the domain of workloads is answered

The answers to the listings, and for each object that is recorded how the search for its root owner
ended. A `Search` says what one object comes to; `contribute_eq` says that this is all that it
contributes.
-/

namespace ClusterInventory

variable {σ : Type}

namespace Workloads

open Collection (Failure recordFailure?)
open Ownership (Fetcher Session Outcome resolve)

/-- A listed object and, where it is recorded, how the search for its root owner ended. -/
structure Search where
  source : Source
  outcome : Option Outcome

namespace Search

/-- What went wrong: the object is not recorded, or its root owner is not found out. -/
def failures (x : Search) : List Failure :=
  (recordFailure? domainName x.source.subject x.source.record).toList ++
    match x.outcome with
    | some (.error e) => [.unresolved x.source.subject e]
    | _ => []

def records (x : Search) : List Record.Workload :=
  match x.source.record, x.outcome with
  | .value w, some (.ok (some r)) => [{ w with rootOwner := some r.root }]
  | .value w, _ => [w]
  | _, _ => []

def placeholders (x : Search) : List Record.Workload :=
  match x.outcome with
  | some (.ok (some r)) => [r.placeholder]
  | _ => []

def contribution (x : Search) : Contribution :=
  { records := x.records, placeholders := x.placeholders
    errors := x.failures.map (·.error) }

end Search

/-- Searches for the root owner of an object, if the object is recorded. -/
def search (fetch : Fetcher σ) (src : Source) (s : Session σ) : Search × Session σ :=
  match src.record with
  | .value _ =>
    let (outcome, s) := resolve fetch src.objectMeta s
    (⟨src, some outcome⟩, s)
  | _ => (⟨src, none⟩, s)

/-- Searches for the root owners of a row of objects, within one session. -/
def searchAll (fetch : Fetcher σ) : List Source → Session σ → List Search × Session σ
  | [], s => ([], s)
  | src :: rest, s =>
    let (x, s) := search fetch src s
    let (xs, s) := searchAll fetch rest s
    (x :: xs, s)

theorem contribute_eq (fetch : Fetcher σ) (src : Source) (s : Session σ) :
    contribute fetch src s = ((search fetch src s).1.contribution, (search fetch src s).2) := by
  cases h : src.record with
  | failed chain =>
    rw [contribute_of_failed h]
    simp [search, Search.contribution, Search.records, Search.placeholders, Search.failures,
      recordFailure?, Failure.error, h]
  | broken b =>
    rw [contribute_of_broken h]
    simp [search, Search.contribution, Search.records, Search.placeholders, Search.failures,
      recordFailure?, Failure.error, h]
  | value w =>
    rw [contribute_of_value h]
    rcases hout : resolve fetch src.objectMeta s with ⟨e | _ | r, s'⟩ <;>
      simp [search, Search.contribution, Search.records, Search.placeholders, Search.failures,
        recordFailure?, Failure.error, Contribution.ofResolved, h, hout]

theorem contributions_eq (fetch : Fetcher σ) (srcs : List Source) (s : Session σ) :
    contributions fetch srcs s =
      ((searchAll fetch srcs s).1.map (·.contribution), (searchAll fetch srcs s).2) := by
  induction srcs generalizing s with
  | nil => rfl
  | cons src srcs ih =>
    rw [contributions_cons, contribute_eq, ih]
    rfl

/-- A pass over objects is made of what their searches come to. -/
theorem assemble_eq (fetch : Fetcher σ) (o : Objects) (world : σ) :
    assemble fetch o world =
      (merge ((searchAll fetch o.sources (.start world)).1.flatMap (·.records))
          ((searchAll fetch o.sources (.start world)).1.flatMap (·.placeholders)),
        ((searchAll fetch o.sources (.start world)).1.flatMap (·.failures)).map (·.error),
        (searchAll fetch o.sources (.start world)).2) := by
  simp only [assemble, contributions_eq, List.flatMap_map, List.map_flatMap]
  rfl

end Workloads

namespace Collection

open Api (CallError Calls Handle Listing)

/-- What is answered when workloads are listed. -/
structure WorkloadListings where
  deployments : Except CallError (List Object.Replicated)
  statefulSets : Except CallError (List Object.Replicated)
  replicaSets : Except CallError (List Object.Replicated)
  daemonSets : Except CallError (List Object.Replicated)
  cronJobs : Except CallError (List Object.CronJob)
  /-- The cron jobs in their earlier form. -/
  earlierCronJobs : Option (Except CallError (List Object.Dynamic))
  jobs : Except CallError (List Object.Job)
  pods : Except CallError (List Object.Pod)

namespace WorkloadListings

/-- Asks for the cron jobs in their earlier form, if there are none in the present one and the
earlier form is served. -/
def askEarlier (h : Handle σ) (present : Except CallError (List Object.CronJob)) :
    Calls σ (Option (Except CallError (List Object.Dynamic))) :=
  askServed h (if (objectsIn present).isEmpty then h.listing? "batch/v1beta1" "CronJob" else none)

def ask (h : Handle σ) : Calls σ WorkloadListings := do
  let deployments ← h.all Listing.deployments
  let statefulSets ← h.all Listing.statefulSets
  let replicaSets ← h.all Listing.replicaSets
  let daemonSets ← h.all Listing.daemonSets
  let cronJobs ← h.all Listing.cronJobs
  let earlierCronJobs ← askEarlier h cronJobs
  let jobs ← h.all Listing.jobs
  let pods ← h.all Listing.pods
  return { deployments, statefulSets, replicaSets, daemonSets, cronJobs, earlierCronJobs, jobs
           pods }

/-- Cron jobs of either form. -/
def cronJobsIn (present : Except CallError (List Object.CronJob))
    (earlier : Option (Except CallError (List Object.Dynamic))) : List CronJobObject :=
  (objectsIn present).map .v1 ++ (earlier.elim [] objectsIn).map .v1beta1

def cronJobFailures (present : Except CallError (List Object.CronJob))
    (earlier : Option (Except CallError (List Object.Dynamic))) : List Failure :=
  listingFailures Workloads.domainName "CronJobs/v1" present ++
    earlier.elim [] (listingFailures Workloads.domainName "CronJobs/v1beta1")

/-- What is to be recorded: everything that was listed, but the jobs of cron jobs. -/
def objects (a : WorkloadListings) : Workloads.Objects :=
  { deployments := objectsIn a.deployments
    statefulSets := objectsIn a.statefulSets
    replicaSets := objectsIn a.replicaSets
    daemonSets := objectsIn a.daemonSets
    cronJobs := cronJobsIn a.cronJobs a.earlierCronJobs
    jobs := (objectsIn a.jobs).filter fun j => !j.objectMeta.ownedByCronJob
    pods := objectsIn a.pods }

def failures (a : WorkloadListings) : List Failure :=
  listingFailures Workloads.domainName "Deployments" a.deployments ++
    listingFailures Workloads.domainName "StatefulSets" a.statefulSets ++
    listingFailures Workloads.domainName "ReplicaSets" a.replicaSets ++
    listingFailures Workloads.domainName "DaemonSets" a.daemonSets ++
    cronJobFailures a.cronJobs a.earlierCronJobs ++
    listingFailures Workloads.domainName "Jobs" a.jobs ++
    listingFailures Workloads.domainName "Pods" a.pods

end WorkloadListings

theorem listObjects_eq {α : Type} (h : Handle σ) (what : String) (l : Listing α) :
    listObjects h what l = h.all l >>= fun a =>
      pure (objectsIn a, (listingFailures Workloads.domainName what a).map (·.error)) := by
  simp only [listObjects, Handle.list_eq, bind_assoc, pure_bind, objectsOrError_eq]

theorem listCronJobs_eq (h : Handle σ) :
    listCronJobs h = do
      let present ← h.all Listing.cronJobs
      let earlier ← WorkloadListings.askEarlier h present
      return (WorkloadListings.cronJobsIn present earlier,
        (WorkloadListings.cronJobFailures present earlier).map (·.error)) := by
  simp only [listCronJobs, listObjects_eq, bind_assoc, pure_bind]
  congr 1
  funext present
  unfold WorkloadListings.askEarlier WorkloadListings.cronJobsIn WorkloadListings.cronJobFailures
  cases hobjects : objectsIn present with
  | cons o rest => simp [askServed]
  | nil =>
    cases h.listing? "batch/v1beta1" "CronJob" with
    | none => simp [askServed]
    | some l => simp [askServed]

theorem listWorkloads_eq (h : Handle σ) :
    listWorkloads h = WorkloadListings.ask h >>= fun a =>
      pure (a.objects, a.failures.map (·.error)) := by
  simp only [listWorkloads, listObjects_eq, listCronJobs_eq, WorkloadListings.ask,
    WorkloadListings.objects, WorkloadListings.failures, bind_assoc, pure_bind, List.map_append]

structure WorkloadAnswers where
  listings : WorkloadListings
  searches : List Workloads.Search

namespace WorkloadAnswers

/-- Lists everything and then searches for the root owners, all in one session. -/
def ask (h : Handle σ) : Calls σ WorkloadAnswers := do
  let listings ← WorkloadListings.ask h
  let searches ← fun world =>
    let (searches, s) := Workloads.searchAll h.lookup listings.objects.sources (.start world)
    some (searches, s.world)
  return { listings, searches }

def failures (a : WorkloadAnswers) : List Failure :=
  a.listings.failures ++ a.searches.flatMap (·.failures)

def records (a : WorkloadAnswers) : List Record.Workload :=
  Workloads.merge (a.searches.flatMap (·.records)) (a.searches.flatMap (·.placeholders))

end WorkloadAnswers

theorem collect_workloads (h : Handle σ) (inv : Inventory) :
    (workloads h).collect inv = WorkloadAnswers.ask h >>= fun a =>
      pure ({ inv with workloads := a.records }, .ok (a.failures.map (·.error))) := by
  simp only [workloads, Domain.steady, listWorkloads_eq, WorkloadAnswers.ask, bind_assoc,
    pure_bind, Workloads.assemble_eq, WorkloadAnswers.failures, List.map_append]
  rfl

end Collection

end ClusterInventory
