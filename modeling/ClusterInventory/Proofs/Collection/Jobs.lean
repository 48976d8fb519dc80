import ClusterInventory.Proofs.Collection.WorkloadAnswers
import ClusterInventory.Proofs.Workloads.Namesakes

/-!
# What becomes of listed jobs

Jobs of scheduled jobs are left out of a pass, on the word of an owner reference: its kind alone
counts. Whether anything in the list of workloads stands for such a job depends on other answers.
`jobs_of_collect` says for every listed job what becomes of it.
-/

namespace ClusterInventory

open Api (Calls Handle Listing)
open Record (Workload)

namespace Workloads

open Ownership (Fetcher Session)

def cronJobSource (c : CronJobObject) : Source := ⟨"CronJob", c.objectMeta, c.toWorkload⟩

def jobSource (j : Object.Job) : Source := ⟨"Job", j.objectMeta, Workload.ofJob j⟩

variable {σ : Type} {o : Objects} {src : Source} {x : Search} {w v : Workload}

theorem filter_cronJob_sources (o : Objects) :
    o.sources.filter (·.kind = "CronJob") = o.cronJobs.map cronJobSource := by
  simp [Objects.sources, List.filter_map, Function.comp_def, cronJobSource]

theorem filter_job_sources (o : Objects) :
    o.sources.filter (·.kind = "Job") = o.jobs.map jobSource := by
  simp [Objects.sources, List.filter_map, Function.comp_def, jobSource]

theorem mem_cronJob_sources_iff :
    src ∈ o.sources ∧ src.kind = "CronJob" ↔ ∃ c ∈ o.cronJobs, cronJobSource c = src := by
  rw [← List.mem_map, ← filter_cronJob_sources, List.mem_filter, decide_eq_true_eq]

theorem mem_job_sources_iff :
    src ∈ o.sources ∧ src.kind = "Job" ↔ ∃ j ∈ o.jobs, jobSource j = src := by
  rw [← List.mem_map, ← filter_job_sources, List.mem_filter, decide_eq_true_eq]

/-! ## What a search leaves in the list -/

theorem sources_searchAll (fetch : Fetcher σ) (srcs : List Source) (s : Session σ) :
    (searchAll fetch srcs s).1.map (·.source) = srcs := by
  induction srcs generalizing s with
  | nil => rfl
  | cons src srcs ih =>
    have hsrc : (search fetch src s).1.source = src := by
      unfold search
      split <;> rfl
    rw [searchAll, List.map_cons, ih, hsrc]

namespace Search

theorem records_of_value (h : x.source.record = .value w) :
    ∃ root, x.records = [{ w with rootOwner := root }] := by
  unfold records
  rw [h]
  rcases x.outcome with _ | e | _ | res
  · exact ⟨_, rfl⟩
  · exact ⟨_, rfl⟩
  · exact ⟨_, rfl⟩
  · exact ⟨_, rfl⟩

theorem exists_of_mem_records (h : w ∈ x.records) :
    ∃ v, x.source.record = .value v ∧ w.id = v.id := by
  cases hrec : x.source.record with
  | value v =>
    obtain ⟨root, hrecords⟩ := records_of_value hrec
    rw [hrecords] at h
    cases List.mem_singleton.1 h
    exact ⟨v, rfl, rfl⟩
  | failed chain => simp [records, hrec] at h
  | broken b => simp [records, hrec] at h

theorem mem_placeholders_iff :
    w ∈ x.placeholders ↔ ∃ res, x.outcome = some (.ok (some res)) ∧ w = res.placeholder := by
  unfold placeholders
  rcases x.outcome with _ | e | _ | res <;> simp

theorem mem_failures_of_record {f : Collection.Failure}
    (h : Collection.recordFailure? domainName x.source.subject x.source.record = some f) :
    f ∈ x.failures := by
  rw [failures, h]
  exact .head _

end Search

/-- An address of the kind names the record of a scheduled job by group, namespace and name. -/
theorem names_cronJob_iff {c : CronJobObject} (h : c.toWorkload = .value v) {r : Api.ObjectRef}
    (hr : r.kind = "CronJob") :
    Names r v ↔ (spokenId r).group = "batch" ∧ c.objectMeta.fullName = (r.namespace, r.name) := by
  have hrec := CronJobObject.records_toWorkload h
  have hid : v.id = ⟨"batch", c.version, "CronJob", c.objectMeta.namespace,
      c.objectMeta.shownName⟩ := by
    rw [Workload.id, hrec.typeMeta_eq, hrec.objectMeta_eq]
    rfl
  have hspoken : spokenId r = ⟨(spokenId r).group, (spokenId r).version, "CronJob", r.namespace,
      r.name⟩ := by
    rw [← hr]
    rfl
  rw [Names, hid, hspoken]
  simp only [Record.WorkloadId.withVersion, Record.WorkloadId.mk.injEq, Object.Meta.fullName,
    Prod.mk.injEq, true_and]
  constructor
  · rintro ⟨hgroup, hnamespace, hname⟩
    exact ⟨hgroup, hnamespace.symm, hname.symm⟩
  · rintro ⟨hgroup, hnamespace, hname⟩
    exact ⟨hgroup, hnamespace.symm, hname.symm⟩

end Workloads

namespace Collection

open Workloads (Names jobSource spokenId)

variable {σ : Type} {h : Handle σ} {a : WorkloadAnswers} {world world' : σ} {job : Object.Job}
  {r : Api.ObjectRef}

/-- The owners of an object that are scheduled jobs by their kind, controlling or not. -/
def cronJobOwners (m : Object.Meta) : List Api.ObjectRef :=
  ((m.ownerReferences.getD []).filter (·.kind == "CronJob")).map (Ownership.refOf m.namespace)

/-- The job has a record, with a root owner or without one. -/
def RecordedIn (job : Object.Job) (ws : List Workload) : Prop :=
  ∃ w root, Workload.ofJob job = .value w ∧ { w with rootOwner := root } ∈ ws

/-- A scheduled job that owns the job is in the list, under any version. -/
def RepresentedIn (job : Object.Job) (ws : List Workload) : Prop :=
  ∃ r ∈ cronJobOwners job.objectMeta, ∃ w ∈ ws, Names r w

theorem kind_of_mem_cronJobOwners {m : Object.Meta} (hr : r ∈ cronJobOwners m) :
    r.kind = "CronJob" := by
  obtain ⟨o, ho, rfl⟩ := List.mem_map.1 hr
  exact eq_of_beq (List.mem_filter.1 ho).2

theorem ownedByCronJob_iff (m : Object.Meta) : m.ownedByCronJob = true ↔ cronJobOwners m ≠ [] := by
  rw [Object.Meta.ownedByCronJob, cronJobOwners, Ne, List.map_eq_nil_iff, List.filter_eq_nil_iff,
    List.any_eq_true]
  simp only [not_forall, not_not, exists_prop]

namespace WorkloadAnswers

/-- A search is made for every object that is to be recorded, in their order. -/
theorem sources_of_ask (hask : ask h world = some (a, world')) :
    a.searches.map (·.source) = a.listings.objects.sources := by
  obtain ⟨listings, world₁, -, hrest⟩ := Calls.bind_eq_some.1 hask
  obtain ⟨searches, world₂, hsearch, hpure⟩ := Calls.bind_eq_some.1 hrest
  obtain ⟨rfl, rfl⟩ := Calls.pure_eq_some.1 hpure
  cases hsearch
  exact Workloads.sources_searchAll h.lookup listings.objects.sources (.start world₁)

theorem exists_search (hask : ask h world = some (a, world')) {src : Workloads.Source}
    (hsrc : src ∈ a.listings.objects.sources) : ∃ x ∈ a.searches, x.source = src := by
  rw [← sources_of_ask hask] at hsrc
  exact List.mem_map.1 hsrc

theorem source_mem (hask : ask h world = some (a, world')) {x : Workloads.Search}
    (hx : x ∈ a.searches) : x.source ∈ a.listings.objects.sources := by
  rw [← sources_of_ask hask]
  exact List.mem_map.2 ⟨x, hx, rfl⟩

/-- Whatever a search records is in the list. -/
theorem mem_records {x : Workloads.Search} (hx : x ∈ a.searches) {w : Workload}
    (hw : w ∈ x.records) : w ∈ a.records :=
  List.mem_append_left _ (List.mem_flatMap.2 ⟨x, hx, hw⟩)

/-- An address names something in the list exactly when it names a record or a root owner. -/
theorem exists_names_iff :
    (∃ w ∈ a.records, Names r w) ↔
      (∃ x ∈ a.searches, ∃ w ∈ x.records, Names r w) ∨
        ∃ x ∈ a.searches, ∃ w ∈ x.placeholders, Names r w := by
  constructor
  · rintro ⟨w, hw, hnames⟩
    rcases Workloads.mem_of_mem_merge hw with hw | hw
    · obtain ⟨x, hx, hw⟩ := List.mem_flatMap.1 hw
      exact .inl ⟨x, hx, w, hw, hnames⟩
    · obtain ⟨x, hx, hw⟩ := List.mem_flatMap.1 hw
      exact .inr ⟨x, hx, w, hw, hnames⟩
  · rintro (⟨x, hx, w, hw, hnames⟩ | ⟨x, hx, p, hp, hnames⟩)
    · exact ⟨w, mem_records hx hw, hnames⟩
    · -- the placeholder itself may have been left out for an entry of its identity
      have hid : p.id ∈ Workloads.ids a.records := Workloads.mem_ids_merge_iff.2
        (.inr (List.mem_map.2 ⟨p, List.mem_flatMap.2 ⟨x, hx, hp⟩, rfl⟩))
      obtain ⟨w, hw, heq⟩ := List.mem_map.1 hid
      refine ⟨w, hw, ?_⟩
      rw [Names, heq]
      exact hnames

end WorkloadAnswers

/-- Some search records a scheduled job that the address names exactly when such a job was listed
and its mapper made a record of it. -/
theorem exists_cronJob_record_iff (hask : WorkloadAnswers.ask h world = some (a, world'))
    (hr : r.kind = "CronJob") :
    (∃ x ∈ a.searches, ∃ w ∈ x.records, Names r w) ↔
      (spokenId r).group = "batch" ∧
        ∃ c ∈ a.listings.objects.cronJobs, (∃ v, c.toWorkload = .value v) ∧
          c.objectMeta.fullName = (r.namespace, r.name) := by
  constructor
  · rintro ⟨x, hx, w, hw, hnames⟩
    obtain ⟨v, hv, hid⟩ := Workloads.Search.exists_of_mem_records hw
    have hsource := WorkloadAnswers.source_mem hask hx
    have hnamesv : Names r v := by
      rw [Names, ← hid]
      exact hnames
    -- what is recorded is of the kind of its listing, so it comes from that of scheduled jobs
    have hkind : x.source.kind = "CronJob" := by
      obtain ⟨_, _, hrec⟩ := Workloads.faithful_of_mem_sources hsource v hv
      have hsame : r.kind = v.typeMeta.kind := congrArg (·.kind) hnamesv
      rw [hrec.typeMeta_eq] at hsame
      exact hsame.symm.trans hr
    obtain ⟨c, hc, hcsource⟩ := Workloads.mem_cronJob_sources_iff.1 ⟨hsource, hkind⟩
    rw [← hcsource] at hv
    obtain ⟨hgroup, hname⟩ := (Workloads.names_cronJob_iff hv hr).1 hnamesv
    exact ⟨hgroup, c, hc, ⟨v, hv⟩, hname⟩
  · rintro ⟨hgroup, c, hc, ⟨v, hv⟩, hname⟩
    have hsource := (Workloads.mem_cronJob_sources_iff.2 ⟨c, hc, rfl⟩).1
    obtain ⟨x, hx, hxsource⟩ := WorkloadAnswers.exists_search hask hsource
    have hxrecord : x.source.record = .value v := by
      rw [hxsource]
      exact hv
    obtain ⟨root, hrecords⟩ := Workloads.Search.records_of_value hxrecord
    refine ⟨x, hx, { v with rootOwner := root }, ?_, ?_⟩
    · rw [hrecords]
      exact .head _
    · exact (Workloads.names_cronJob_iff hv hr).2 ⟨hgroup, hname⟩

/-- A job that no scheduled job owns is recorded, or it is told why not. -/
theorem recordedIn_of_not_owned (hask : WorkloadAnswers.ask h world = some (a, world'))
    {jobs : List Object.Job} (hjobs : a.listings.jobs = .ok jobs) (hjob : job ∈ jobs)
    (howners : cronJobOwners job.objectMeta = []) :
    RecordedIn job a.records ∨ ∃ f ∈ a.failures,
      recordFailure? Workloads.domainName (jobSource job).subject (Workload.ofJob job) =
        some f := by
  have hkept : job ∈ a.listings.objects.jobs := by
    have hnot : job.objectMeta.ownedByCronJob = false := by
      rw [← Bool.not_eq_true, ownedByCronJob_iff, howners]
      exact fun hne => hne rfl
    simp [WorkloadListings.objects, hjobs, objectsIn, hjob, hnot]
  have hsource := (Workloads.mem_job_sources_iff.2 ⟨job, hkept, rfl⟩).1
  obtain ⟨x, hx, hxsource⟩ := WorkloadAnswers.exists_search hask hsource
  have htold : ∀ f, recordFailure? Workloads.domainName (jobSource job).subject
      (Workload.ofJob job) = some f → f ∈ a.failures := by
    intro f hf
    have hmem : f ∈ x.failures := Workloads.Search.mem_failures_of_record (by rwa [hxsource])
    exact List.mem_append_right _ (List.mem_flatMap.2 ⟨x, hx, hmem⟩)
  cases hrec : Workload.ofJob job with
  | value w =>
    have hxrecord : x.source.record = .value w := by
      rw [hxsource]
      exact hrec
    obtain ⟨root, hrecords⟩ := Workloads.Search.records_of_value hxrecord
    refine .inl ⟨w, root, hrec, WorkloadAnswers.mem_records hx ?_⟩
    rw [hrecords]
    exact .head _
  | failed chain =>
    rw [hrec] at htold
    exact .inr ⟨_, htold _ rfl, rfl⟩
  | broken b =>
    rw [hrec] at htold
    exact .inr ⟨_, htold _ rfl, rfl⟩

/-- A job with such an owner is left out of the pass. -/
theorem source_ne_of_owned (hask : WorkloadAnswers.ask h world = some (a, world'))
    (howners : cronJobOwners job.objectMeta ≠ []) {x : Workloads.Search} (hx : x ∈ a.searches) :
    x.source ≠ jobSource job := by
  intro hsource
  have hmem := WorkloadAnswers.source_mem hask hx
  rw [hsource] at hmem
  obtain ⟨kept, hkept, heq⟩ := Workloads.mem_job_sources_iff.1 ⟨hmem, rfl⟩
  have hmeta : kept.objectMeta = job.objectMeta := congrArg (·.objectMeta) heq
  have hnot := (List.mem_filter.1 hkept).2
  rw [hmeta, (ownedByCronJob_iff job.objectMeta).2 howners] at hnot
  cases hnot

/-- What becomes of every job that is listed when the domain of workloads is collected.

* One without an owner of the kind of scheduled jobs is recorded, or an error says why not.
* One with such an owner is left out.
* A scheduled job that owns it is in the list exactly when such an owner, taken by its address, is
  one of the group `batch` that was listed and recorded, or is the root owner of something that was
  recorded. Nothing else keeps a job that is left out from being lost: neither that its owner is of
  another group nor that it is gone. -/
theorem jobs_of_collect (h : Handle σ) {inv inv' : Inventory} {world world' : σ}
    {outcome : Except Breakdown (List CollectError)}
    (hcollect : (workloads h).collect inv world = some ((inv', outcome), world')) :
    ∃ a, WorkloadAnswers.ask h world = some (a, world') ∧
      outcome = .ok (a.failures.map (·.error)) ∧
      ∀ jobs, a.listings.jobs = .ok jobs → ∀ job ∈ jobs,
        (cronJobOwners job.objectMeta = [] → RecordedIn job inv'.workloads ∨
          ∃ f ∈ a.failures, recordFailure? Workloads.domainName (jobSource job).subject
            (Workload.ofJob job) = some f) ∧
        (cronJobOwners job.objectMeta ≠ [] → ∀ x ∈ a.searches, x.source ≠ jobSource job) ∧
        (RepresentedIn job inv'.workloads ↔ ∃ r ∈ cronJobOwners job.objectMeta,
          ((spokenId r).group = "batch" ∧
            ∃ c ∈ a.listings.objects.cronJobs, (∃ v, c.toWorkload = .value v) ∧
              c.objectMeta.fullName = (r.namespace, r.name)) ∨
          ∃ x ∈ a.searches, ∃ res, x.outcome = some (.ok (some res)) ∧
            Names r res.placeholder) := by
  rw [collect_workloads] at hcollect
  obtain ⟨a, world₁, hask, hpure⟩ := Calls.bind_eq_some.1 hcollect
  obtain ⟨hresult, rfl⟩ := Calls.pure_eq_some.1 hpure
  cases hresult
  refine ⟨a, hask, rfl, ?_⟩
  intro jobs hjobs job hjob
  refine ⟨recordedIn_of_not_owned hask hjobs hjob, fun howners x => source_ne_of_owned hask howners,
    ?_⟩
  unfold RepresentedIn
  refine exists_congr fun r => and_congr_right fun hr => ?_
  rw [WorkloadAnswers.exists_names_iff,
    exists_cronJob_record_iff hask (kind_of_mem_cronJobOwners hr)]
  refine or_congr_right (exists_congr fun x => and_congr_right fun _ => ?_)
  constructor
  · rintro ⟨p, hp, hnames⟩
    obtain ⟨res, hres, rfl⟩ := Workloads.Search.mem_placeholders_iff.1 hp
    exact ⟨res, hres, hnames⟩
  · rintro ⟨res, hres, hnames⟩
    exact ⟨_, Workloads.Search.mem_placeholders_iff.2 ⟨res, hres, rfl⟩, hnames⟩

/-- A cluster that serves two jobs and nothing else. The second one is owned by an object of the
kind of scheduled jobs that is of another group. -/
def jobsServer : Api.Server Unit := fun q world =>
  (.answer 200 <|
    if q.path = "/apis/batch/v1/jobs" then
      "\x7b\"metadata\":\x7b\x7d,\"items\":[" ++
        "\x7b\"metadata\":\x7b\"name\":\"adhoc\",\"namespace\":\"ops\"\x7d\x7d," ++
        "\x7b\"metadata\":\x7b\"name\":\"nightly-1\",\"namespace\":\"ops\",\"ownerReferences\":[" ++
        "\x7b\"apiVersion\":\"example.com/v1\",\"kind\":\"CronJob\",\"name\":\"nightly\"," ++
        "\"uid\":\"u1\",\"controller\":true\x7d]\x7d\x7d]\x7d"
    else "\x7b\"metadata\":\x7b\x7d,\"items\":[]\x7d", world)

def jobsHandle : Handle Unit where
  server := jobsServer
  timeout := .ofSeconds 30
  catalog := .empty
  pages := 1

def adhocMeta : Object.Meta := { name := some "adhoc", «namespace» := some "ops" }

def ownedMeta : Object.Meta where
  name := some "nightly-1"
  «namespace» := some "ops"
  ownerReferences := some
    [{ apiVersion := "example.com/v1", kind := "CronJob", name := "nightly", uid := "u1"
       controller := some true }]

/-- The one page of a listing there is empty. -/
def emptyThere {α : Type} (l : Listing α) : Bool :=
  match l.page jobsHandle.toConnection none () with
  | (.ok p, ()) => p.items.isEmpty && p.next?.isNone
  | _ => false

theorem all_of_emptyThere {α : Type} {l : Listing α} (h : emptyThere l = true) :
    jobsHandle.all l () = some (.ok [], ()) := by
  unfold emptyThere at h
  split at h
  · next p hpage =>
    obtain ⟨hitems, hlast⟩ := Bool.and_eq_true_iff.1 h
    rw [Handle.all_of_page Nat.one_pos hpage (Option.isNone_iff_eq_none.1 hlast),
      List.isEmpty_iff.1 hitems]
  · cases h

/-- The two jobs are read as they are served. -/
theorem all_jobs_jobsHandle : ∃ adhoc owned : Object.Job,
    jobsHandle.all Listing.jobs () = some (.ok [adhoc, owned], ()) ∧
      adhoc.objectMeta = adhocMeta ∧ owned.objectMeta = ownedMeta ∧
      ∃ w, Workload.ofJob adhoc = .value w := by
  obtain ⟨jobs, hall, hjobs⟩ : ∃ jobs, jobsHandle.all Listing.jobs () = some (.ok jobs, ()) ∧
      jobs.map (fun (j : Object.Job) => (j.objectMeta, (recorded? (Workload.ofJob j)).isSome)) =
        [(adhocMeta, true), (ownedMeta, true)] :=
    Handle.exists_all_of_items (c := jobsHandle.toConnection) (by decide +kernel) rfl Nat.one_pos
  obtain ⟨adhoc, rest, rfl, hadhoc, hrest⟩ := List.map_eq_cons_iff.1 hjobs
  obtain ⟨owned, rest, rfl, howned, hnil⟩ := List.map_eq_cons_iff.1 hrest
  obtain rfl := List.map_eq_nil_iff.1 hnil
  obtain ⟨hadhoc, hrecorded⟩ := Prod.mk.inj hadhoc
  refine ⟨adhoc, owned, hall, hadhoc, (Prod.mk.inj howned).1, ?_⟩
  cases hrec : Workload.ofJob adhoc with
  | value w => exact ⟨w, rfl⟩
  | failed chain =>
    rw [hrec] at hrecorded
    cases hrecorded
  | broken b =>
    rw [hrec] at hrecorded
    cases hrecorded

/-- The listings of that cluster. -/
def twoJobs (adhoc owned : Object.Job) : WorkloadListings :=
  { deployments := .ok [], statefulSets := .ok [], replicaSets := .ok [], daemonSets := .ok []
    cronJobs := .ok [], earlierCronJobs := none, jobs := .ok [adhoc, owned], pods := .ok [] }

/-- What the cluster of two jobs answers: nothing fails, and of the two jobs only the one without an
owner takes part in the pass. -/
theorem ask_jobsHandle : ∃ (adhoc owned : Object.Job) (w : Workload) (a : WorkloadAnswers),
    WorkloadAnswers.ask jobsHandle () = some (a, ()) ∧ a.listings.jobs = .ok [adhoc, owned] ∧
      adhoc.objectMeta = adhocMeta ∧ owned.objectMeta = ownedMeta ∧
      Workload.ofJob adhoc = .value w ∧ a.listings.objects.cronJobs = [] ∧
      a.listings.failures = [] ∧ a.searches = [⟨jobSource adhoc, some (.ok none)⟩] := by
  obtain ⟨adhoc, owned, hjobs, hadhoc, howned, w, hw⟩ := all_jobs_jobsHandle
  have hearlier : WorkloadListings.askEarlier jobsHandle (.ok []) () = some (none, ()) := by
    have hnone : jobsHandle.listing? "batch/v1beta1" "CronJob" = none := by
      simp [Handle.listing?, Api.Catalog.find?, jobsHandle, Api.Catalog.empty]
    simp only [WorkloadListings.askEarlier, hnone, ite_self]
    rfl
  have hlistings : WorkloadListings.ask jobsHandle () = some (twoJobs adhoc owned, ()) :=
    Calls.bind_eq_some.2 ⟨_, (), all_of_emptyThere (by decide +kernel),
      Calls.bind_eq_some.2 ⟨_, (), all_of_emptyThere (by decide +kernel),
      Calls.bind_eq_some.2 ⟨_, (), all_of_emptyThere (by decide +kernel),
      Calls.bind_eq_some.2 ⟨_, (), all_of_emptyThere (by decide +kernel),
      Calls.bind_eq_some.2 ⟨_, (), all_of_emptyThere (by decide +kernel),
      Calls.bind_eq_some.2 ⟨_, (), hearlier,
      Calls.bind_eq_some.2 ⟨_, (), hjobs,
      Calls.bind_eq_some.2 ⟨_, (), all_of_emptyThere (by decide +kernel), rfl⟩⟩⟩⟩⟩⟩⟩⟩
  have hsources : (twoJobs adhoc owned).objects.sources = [jobSource adhoc] := by
    have hfree : adhoc.objectMeta.ownedByCronJob = false := by rw [hadhoc]; rfl
    have hheld : owned.objectMeta.ownedByCronJob = true := by rw [howned]; rfl
    simp [twoJobs, WorkloadListings.objects, WorkloadListings.cronJobsIn, objectsIn,
      Workloads.Objects.sources, hfree, hheld, jobSource]
  have hsearch : Workloads.searchAll jobsHandle.lookup [jobSource adhoc] (.start ()) =
      ([⟨jobSource adhoc, some (.ok none)⟩], .start ()) := by
    have hcontroller : (jobSource adhoc).objectMeta.controller? = none := by
      show adhoc.objectMeta.controller? = none
      rw [hadhoc]
      rfl
    have hrecord : (jobSource adhoc).record = .value w := hw
    simp only [Workloads.searchAll, Workloads.search, hrecord, Ownership.resolve, hcontroller]
  refine ⟨adhoc, owned, w, ⟨twoJobs adhoc owned, _⟩, Calls.bind_eq_some.2 ⟨_, (), hlistings,
    Calls.bind_eq_some.2 ⟨_, (), ?_, rfl⟩⟩, rfl, hadhoc, howned, hw, rfl, rfl, rfl⟩
  rw [hsources, hsearch]

/-- What is collected there counts as a success and holds the first job alone. -/
theorem collect_jobsHandle {a : WorkloadAnswers} {w : Workload} {adhoc : Object.Job}
    (hask : WorkloadAnswers.ask jobsHandle () = some (a, ()))
    (hsearches : a.searches = [⟨jobSource adhoc, some (.ok none)⟩])
    (hlistings : a.listings.failures = []) (hw : Workload.ofJob adhoc = .value w) :
    (workloads jobsHandle).collect {} () = some (({ workloads := [w] }, .ok []), ()) := by
  have hrecord : (jobSource adhoc).record = .value w := hw
  have hrecords : a.records = [w] := by
    simp [WorkloadAnswers.records, hsearches, Workloads.Search.records, hrecord,
      Workloads.Search.placeholders, Workloads.merge, Workloads.unseen]
  have hfailures : a.failures = [] := by
    simp [WorkloadAnswers.failures, hlistings, hsearches, Workloads.Search.failures, hrecord,
      recordFailure?]
  rw [collect_workloads, Calls.bind_of_eq_some hask, hrecords, hfailures]
  rfl

/-- The first job is recorded; for the second one nothing is in the list. -/
theorem jobs_of_collect_jobsHandle : ∃ (adhoc owned : Object.Job) (inv' : Inventory),
    (workloads jobsHandle).collect {} () = some ((inv', .ok []), ()) ∧
      adhoc.objectMeta = adhocMeta ∧ owned.objectMeta = ownedMeta ∧
      RecordedIn adhoc inv'.workloads ∧ ¬RepresentedIn owned inv'.workloads := by
  obtain ⟨adhoc, owned, w, a, hask, hjobs, hadhoc, howned, hw, hcronJobs, hlistings, hsearches⟩ :=
    ask_jobsHandle
  have hcollect := collect_jobsHandle hask hsearches hlistings hw
  obtain ⟨a', hask', -, hall⟩ := jobs_of_collect jobsHandle hcollect
  cases hask.symm.trans hask'
  refine ⟨adhoc, owned, _, hcollect, hadhoc, howned, ?_, ?_⟩
  · rcases (hall _ hjobs adhoc (.head _)).1 (by rw [hadhoc]; rfl) with hrecorded | ⟨f, -, hf⟩
    · exact hrecorded
    · rw [hw] at hf
      cases hf
  · rw [(hall _ hjobs owned (.tail _ (.head _))).2.2]
    rintro ⟨r, -, ⟨-, c, hc, -⟩ | ⟨x, hx, res, hres, -⟩⟩
    · rw [hcronJobs] at hc
      cases hc
    · rw [hsearches] at hx
      cases List.mem_singleton.1 hx
      cases hres

/-- All listings succeed and no error is told, yet the second job is neither recorded nor
represented. -/
theorem nightly_job_lost : ∃ (adhoc owned : Object.Job) (a : WorkloadAnswers) (inv' : Inventory),
    WorkloadAnswers.ask jobsHandle () = some (a, ()) ∧ a.listings.failures = [] ∧
      a.listings.jobs = .ok [adhoc, owned] ∧
      (workloads jobsHandle).collect {} () = some ((inv', .ok []), ()) ∧
      ¬RecordedIn owned inv'.workloads ∧ ¬RepresentedIn owned inv'.workloads := by
  obtain ⟨adhoc, owned, w, a, hask, hjobs, hadhoc, howned, hw, -, hlistings, hsearches⟩ :=
    ask_jobsHandle
  have hrec := Workload.records_ofJob hw
  refine ⟨adhoc, owned, a, _, hask, hlistings, hjobs,
    collect_jobsHandle hask hsearches hlistings hw, ?_, ?_⟩
  · rintro ⟨w', root, hw', hmem⟩
    have hname : w'.objectMeta.name = w.objectMeta.name :=
      congrArg (·.objectMeta.name) (List.mem_singleton.1 hmem)
    rw [(Workload.records_ofJob hw').objectMeta_eq, hrec.objectMeta_eq, hadhoc, howned] at hname
    exact absurd hname (by decide)
  · rintro ⟨r, hr, w', hw', hnames⟩
    have hkind : r.kind = w'.typeMeta.kind := congrArg (·.kind) hnames
    rw [kind_of_mem_cronJobOwners hr, List.mem_singleton.1 hw', hrec.typeMeta_eq] at hkind
    exact absurd hkind (by decide)

end Collection

end ClusterInventory
