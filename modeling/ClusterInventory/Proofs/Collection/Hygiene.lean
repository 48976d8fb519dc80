import ClusterInventory.Proofs.Collection.Failures
import ClusterInventory.Proofs.Collection.Jobs
import ClusterInventory.Proofs.Collection.Versions
import ClusterInventory.Proofs.Ownership.Provenance
import ClusterInventory.Proofs.Record.Hygiene

/-!
# What published records have of their objects

`Inventory.DrawnFrom` ties the records of a snapshot to the objects among the answers of a cycle:
each keeps the labels and annotations of one, but for the annotation of `kubectl apply`, and each
workload and root owner names its group. What a cycle over a live cluster collects is so
(`drawnFrom_inventory`), and a snapshot that is published again for want of a cluster still is
(`records_of_runs`).
-/

namespace ClusterInventory

open Api (Calls Connection Handle ObjectRef)
open Ownership (Fetcher Session)
open Record (GroupNamed ObjectMeta RootOwner Workload)

variable {σ α β : Type}

/-- The metadata of all records of a snapshot that have any. -/
def Inventory.objectMetas (inv : Inventory) : List ObjectMeta :=
  inv.namespaces.map (·.objectMeta) ++ inv.nodes.map (·.objectMeta) ++
    inv.storage.persistentVolumes.map (·.objectMeta) ++
    inv.storage.storageClasses.map (·.objectMeta) ++ inv.networkPolicies.map (·.objectMeta) ++
    inv.customResources.kciRocks.dbInstances.map (·.objectMeta) ++
    inv.customResources.rabbitMq.clusters.map (·.objectMeta) ++ inv.workloads.map (·.objectMeta)

/-! ## Workloads -/

namespace Workloads

/-- The root owner is the object that was found at this address. -/
structure RootFor (r : ObjectRef) (found : Object.Meta) (root : RootOwner) : Prop where
  kind : root.kind = r.kind
  apiGroup : GroupNamed root.apiGroup (Api.splitApiVersion r.apiVersion).1
  name : root.name = found.shownName
  «namespace» : root.namespace = found.namespace

/-- The workload stands for the object that was found at this address. -/
structure StandsFor (r : ObjectRef) (found : Object.Meta) (w : Workload) : Prop where
  objectMeta : w.objectMeta.Keeps found
  typeMeta : w.typeMeta.Names (Api.splitApiVersion r.apiVersion).1 r.kind
  rootOwner : w.rootOwner = none

theorem rootFor_rootAt (r : ObjectRef) (found : Object.Meta) :
    RootFor r found (Ownership.rootAt r found).root :=
  ⟨rfl, Record.groupNamed_recordedGroup _, rfl, rfl⟩

theorem standsFor_rootAt (r : ObjectRef) (found : Object.Meta) :
    StandsFor r found (Ownership.rootAt r found).placeholder :=
  ⟨.ofObject found, ⟨rfl, Record.groupNamed_recordedGroup _, rfl⟩, rfl⟩

/-- The workload is the record of a listed object, and its root owner, if it has one, is an object
that a look-up has found since `world`. -/
structure RecordOf (fetch : Fetcher σ) (world : σ) (src : Source) (w : Workload) : Prop where
  objectMeta : w.objectMeta.Keeps src.objectMeta
  typeMeta : ∃ group, (group, src.kind) ∈ listedAs ∧ w.typeMeta.Names group src.kind
  rootOwner : ∀ root, w.rootOwner = some root →
    ∃ r found, fetch.Gives world r found ∧ RootFor r found.objectMeta root

variable {fetch : Fetcher σ} {world : σ}

/-- If a search comes to a root owner, that is an object that a look-up has found. -/
def Search.RootGiven (fetch : Fetcher σ) (world : σ) (x : Search) : Prop :=
  ∀ res, x.outcome = some (.ok (some res)) →
    ∃ r found, fetch.Gives world r found ∧ res = Ownership.rootAt r found.objectMeta

theorem search_since {s : Session σ} (hs : s.Since fetch world) (src : Source) :
    (search fetch src s).1.RootGiven fetch world ∧ (search fetch src s).2.Since fetch world := by
  unfold search
  split
  · refine ⟨fun res hres => ?_, hs.resolve src.objectMeta⟩
    exact Ownership.exists_gives_of_resolve hs (Option.some.inj hres)
  · exact ⟨fun res hres => (by cases hres), hs⟩

theorem searchAll_since {srcs : List Source} {s : Session σ} (hs : s.Since fetch world) :
    ∀ x ∈ (searchAll fetch srcs s).1, x.RootGiven fetch world := by
  induction srcs generalizing s with
  | nil => intro x hx; cases hx
  | cons src srcs ih =>
    obtain ⟨hroot, hs'⟩ := search_since hs src
    exact List.forall_mem_cons.2 ⟨hroot, ih hs'⟩

namespace Search

variable {x : Search} {o : Objects} {w : Workload}

theorem recordOf_of_mem_records (hx : x.source ∈ o.sources) (hroot : x.RootGiven fetch world)
    (hw : w ∈ x.records) : RecordOf fetch world x.source w := by
  cases hrec : x.source.record with
  | failed chain => simp [records, hrec] at hw
  | broken b => simp [records, hrec] at hw
  | value v =>
    obtain ⟨group, version, hlisted, hv⟩ := exists_group_of_mem_sources hx hrec
    have hmeta : v.objectMeta.Keeps x.source.objectMeta := by
      rw [hv.objectMeta_eq]
      exact .ofObject _
    have htype : v.typeMeta.Names group x.source.kind := by
      rw [hv.typeMeta_eq]
      exact .ofKind ..
    rcases hout : x.outcome with _ | e | _ | res
    case some.ok.some =>
      obtain ⟨r, found, hgives, rfl⟩ := hroot res hout
      simp only [records, hrec, hout, List.mem_singleton] at hw
      rw [hw]
      refine ⟨hmeta, ⟨group, hlisted, htype⟩, fun root hr => ⟨r, found, hgives, ?_⟩⟩
      cases hr
      exact rootFor_rootAt ..
    -- without a root owner the record is what the mapper made
    all_goals
      simp only [records, hrec, hout, List.mem_singleton] at hw
      rw [hw]
      refine ⟨hmeta, ⟨group, hlisted, htype⟩, fun root hr => ?_⟩
      rw [hv.rootOwner_eq] at hr
      cases hr

theorem exists_standsFor_of_mem_placeholders (hroot : x.RootGiven fetch world)
    (hw : w ∈ x.placeholders) :
    ∃ r found, fetch.Gives world r found ∧ StandsFor r found.objectMeta w := by
  obtain ⟨res, hres, rfl⟩ := mem_placeholders_iff.1 hw
  obtain ⟨r, found, hgives, rfl⟩ := hroot res hres
  exact ⟨r, found, hgives, standsFor_rootAt ..⟩

end Search

end Workloads

namespace Collection

open Workloads (RecordOf StandsFor)

/-! ## Snapshots -/

/-- Every record keeps the metadata of some object. -/
def Draws (records : List ObjectMeta) (objects : List Object.Meta) : Prop :=
  ∀ r ∈ records, ∃ m ∈ objects, r.Keeps m

theorem Kind.draws (k : Kind α β) {recordMeta : β → ObjectMeta} {objectMeta : α → Object.Meta}
    (hk : ∀ o b, k.record o = .value b → (recordMeta b).Keeps (objectMeta o))
    (answer : Except Api.CallError (List α)) :
    Draws ((k.records answer).map recordMeta) ((objectsIn answer).map objectMeta) := by
  intro r hr
  obtain ⟨b, hb, rfl⟩ := List.mem_map.1 hr
  obtain ⟨o, ho, hrecorded⟩ := List.mem_filterMap.1 hb
  refine ⟨objectMeta o, List.mem_map_of_mem ho, hk o b ?_⟩
  cases hrec : k.record o with
  | value b' =>
    rw [hrec] at hrecorded
    cases hrecorded
    rfl
  | failed chain =>
    rw [hrec] at hrecorded
    cases hrecorded
  | broken breakdown =>
    rw [hrec] at hrecorded
    cases hrecorded

/-- The same where the objects need not have been asked for. -/
theorem Kind.draws_elim (k : Kind α β) {recordMeta : β → ObjectMeta} {objectMeta : α → Object.Meta}
    (hk : ∀ o b, k.record o = .value b → (recordMeta b).Keeps (objectMeta o))
    (answer : Option (Except Api.CallError (List α))) :
    Draws ((answer.elim [] k.records).map recordMeta)
      ((answer.elim [] objectsIn).map objectMeta) := by
  cases answer with
  | none => intro r hr; cases hr
  | some answer => exact k.draws hk answer

/-- The records of a snapshot are those of objects among the answers of a cycle. Where no listing
holds the root owner of a workload, a look-up has found it, after all listings of workloads had come
to an end in the world `listed`. -/
structure DrawnFrom (fetch : Fetcher σ) (listed : σ) (a : Answers) (inv : Inventory) : Prop where
  namespaces : Draws (inv.namespaces.map (·.objectMeta))
    ((objectsIn a.namespaces).map (·.objectMeta))
  nodes : Draws (inv.nodes.map (·.objectMeta)) ((objectsIn a.nodes).map (·.objectMeta))
  persistentVolumes : Draws (inv.storage.persistentVolumes.map (·.objectMeta))
    ((objectsIn a.storage.persistentVolumes).map (·.objectMeta))
  storageClasses : Draws (inv.storage.storageClasses.map (·.objectMeta))
    ((objectsIn a.storage.storageClasses).map (·.objectMeta))
  networkPolicies : Draws (inv.networkPolicies.map (·.objectMeta))
    ((objectsIn a.networkPolicies).map (·.objectMeta))
  dbInstances : Draws (inv.customResources.kciRocks.dbInstances.map (·.objectMeta))
    ((a.operators.dbInstances.elim [] objectsIn).map (·.objectMeta))
  rabbitMqClusters : Draws (inv.customResources.rabbitMq.clusters.map (·.objectMeta))
    ((a.operators.rabbitMqClusters.elim [] objectsIn).map (·.objectMeta))
  workloads : ∀ w ∈ inv.workloads,
    (∃ src ∈ a.workloads.listings.objects.sources, RecordOf fetch listed src w) ∨
      ∃ r found, fetch.Gives listed r found ∧ StandsFor r found.objectMeta w

theorem workloads_of_ask {h : Handle σ} {a : WorkloadAnswers} {before world' : σ}
    (hask : WorkloadAnswers.ask h before = some (a, world')) :
    ∃ listed, WorkloadListings.ask h before = some (a.listings, listed) ∧ ∀ w ∈ a.records,
      (∃ src ∈ a.listings.objects.sources, RecordOf h.lookup listed src w) ∨
        ∃ r found, Fetcher.Gives h.lookup listed r found ∧ StandsFor r found.objectMeta w := by
  obtain ⟨listings, listed, hlistings, hrest⟩ := Calls.bind_eq_some.1 hask
  obtain ⟨searches, _, hsearch, hpure⟩ := Calls.bind_eq_some.1 hrest
  have hgiven : ∀ x ∈ searches, x.RootGiven h.lookup listed := by
    cases hsearch
    exact Workloads.searchAll_since (.start h.lookup listed)
  have hsource : ∀ x ∈ a.searches, x.source ∈ a.listings.objects.sources :=
    fun x hx => WorkloadAnswers.source_mem hask hx
  obtain ⟨rfl, -⟩ := Calls.pure_eq_some.1 hpure
  refine ⟨listed, hlistings, fun w hw => ?_⟩
  rcases Workloads.mem_of_mem_merge hw with hw | hw
  · obtain ⟨x, hx, hw⟩ := List.mem_flatMap.1 hw
    exact .inl ⟨x.source, hsource x hx,
      Workloads.Search.recordOf_of_mem_records (hsource x hx) (hgiven x hx) hw⟩
  · obtain ⟨x, hx, hw⟩ := List.mem_flatMap.1 hw
    exact .inr (Workloads.Search.exists_standsFor_of_mem_placeholders (hgiven x hx) hw)

/-- What follows from the answers of a cycle is drawn from them. -/
theorem drawnFrom_inventory {h : Handle σ} {a : Answers} {world world' : σ}
    (hask : Answers.ask h world = some (a, world')) (clientVersion : String) (now : Instant) :
    ∃ before listed, WorkloadAnswers.ask h before = some (a.workloads, world') ∧
      WorkloadListings.ask h before = some (a.workloads.listings, listed) ∧
      DrawnFrom h.lookup listed a (a.inventory h.catalog clientVersion now) := by
  obtain ⟨facts, _, -, hask⟩ := Calls.bind_eq_some.1 hask
  obtain ⟨namespaces, _, -, hask⟩ := Calls.bind_eq_some.1 hask
  obtain ⟨nodes, _, -, hask⟩ := Calls.bind_eq_some.1 hask
  obtain ⟨storage, _, -, hask⟩ := Calls.bind_eq_some.1 hask
  obtain ⟨networkPolicies, _, -, hask⟩ := Calls.bind_eq_some.1 hask
  obtain ⟨operators, before, -, hask⟩ := Calls.bind_eq_some.1 hask
  obtain ⟨workloads, _, hworkloads, hpure⟩ := Calls.bind_eq_some.1 hask
  obtain ⟨rfl, rfl⟩ := Calls.pure_eq_some.1 hpure
  obtain ⟨listed, hlistings, hrecords⟩ := workloads_of_ask hworkloads
  refine ⟨before, listed, hworkloads, hlistings, ?_⟩
  constructor
  case namespaces => exact Kind.namespaces.draws (fun _ _ => Record.Namespace.keeps_of_ofObject) _
  case nodes => exact Kind.nodes.draws (fun _ _ => Record.Node.keeps_of_ofObject) _
  case persistentVolumes =>
    exact Kind.persistentVolumes.draws (fun _ _ => Record.PersistentVolume.keeps_of_ofObject) _
  case storageClasses =>
    exact Kind.storageClasses.draws (fun _ _ => Record.StorageClass.keeps_of_ofObject) _
  case networkPolicies =>
    exact Kind.networkPolicies.draws (fun _ _ => Record.NetworkPolicy.keeps_of_ofObject) _
  case dbInstances =>
    exact Kind.dbInstances.draws_elim (fun _ _ => Record.DbInstance.keeps_of_ofObject) _
  case rabbitMqClusters =>
    exact Kind.rabbitMqClusters.draws_elim (fun _ _ => Record.RabbitMqCluster.keeps_of_ofObject) _
  case workloads => exact hrecords

/-! ## Runs -/

/-- Whatever the orchestrator takes hold of has the domains of a live cluster. -/
def Orchestrator.CollectsLive (o : Orchestrator σ) : Prop :=
  ∀ world domains world₁, o.acquire world = some (.value domains, world₁) →
    ∃ h : Handle σ, domains = liveDomains h

theorem collectsLive_acquireLive (found : Except (List String) (Connection σ)) (pages : Nat)
    (publisher : Option (Inventory → Calls σ (Attempt Unit))) (clientVersion : String) :
    Orchestrator.CollectsLive { acquire := acquireLive found pages, publisher, clientVersion } := by
  intro world domains world₁ h
  obtain ⟨_, handle, -, -, hdomains⟩ := exists_handle_of_acquireLive h
  exact ⟨handle, hdomains⟩

/-- The last cycle that reached the cluster, if there is one. The cycles are given last first. -/
def lastReached : List (CycleReport σ) → Option (CycleReport σ)
  | [] => none
  | r :: past =>
    match r.acquired with
    | .ok _ => some r
    | .error _ => lastReached past

/-- The snapshot is drawn from the answers that the cycle was given. -/
def CycleReport.Yields (q : CycleReport σ) (inv : Inventory) : Prop :=
  ∃ (h : Handle σ) (a : Answers) (before listed world' : σ),
    q.acquired = .ok (liveDomains h) ∧ Answers.ask h q.world = some (a, world') ∧
    WorkloadAnswers.ask h before = some (a.workloads, world') ∧
    WorkloadListings.ask h before = some (a.workloads.listings, listed) ∧
    DrawnFrom h.lookup listed a inv

/-- Failing keeps the records of the last cycle that reached the cluster, and there are none before
the first one. -/
theorem Orchestrator.Runs.drawn {o : Orchestrator σ} (hlive : o.CollectsLive)
    {history : List (CycleReport σ)} {store : SnapshotStore} (h : o.Runs history store) :
    (lastReached history = none → store.current.objectMetas = []) ∧
      ∀ q, lastReached history = some q → q.Yields store.current := by
  induction h with
  | fresh => exact ⟨fun _ => rfl, fun q hq => (by cases hq)⟩
  | collected _ hacquire _ hcycle _ =>
    obtain ⟨handle, rfl⟩ := hlive _ _ _ hacquire
    obtain ⟨inv, world₂, _, hcollect, _, rfl, _⟩ := (runCycle_of_value hacquire).1 hcycle
    rw [collectAll_liveDomains] at hcollect
    obtain ⟨a, _, hask, hinv⟩ := Calls.bind_eq_some.1 hcollect
    obtain ⟨rfl, rfl⟩ := Calls.pure_eq_some.1 hinv
    refine ⟨fun hnone => (by cases hnone), fun q hq => ?_⟩
    cases hq
    obtain ⟨before, listed, hworkloads, hlistings, hdrawn⟩ :=
      drawnFrom_inventory hask o.clientVersion _
    exact ⟨handle, a, before, listed, _, rfl, hask, hworkloads, hlistings, hdrawn⟩
  | failed _ hacquire hcycle ih =>
    rw [runCycle_of_failed hacquire, failedSnapshot_eq] at hcycle
    cases hcycle
    refine ⟨ih.1, fun q hq => ?_⟩
    obtain ⟨handle, a, before, listed, world', hacquired, hask, hworkloads, hlistings, hdrawn⟩ :=
      ih.2 q hq
    exact ⟨handle, a, before, listed, world', hacquired, hask, hworkloads, hlistings,
      { hdrawn with }⟩

namespace DrawnFrom

variable {fetch : Fetcher σ} {listed : σ} {a : Answers} {inv : Inventory}

theorem lastApplied (h : DrawnFrom fetch listed a inv) {m : ObjectMeta} (hm : m ∈ inv.objectMetas) :
    m.annotations.find? lastAppliedAnnotation = none := by
  have hdraws {records : List ObjectMeta} {objects : List Object.Meta} (hd : Draws records objects)
      (hm : m ∈ records) : m.annotations.find? lastAppliedAnnotation = none := by
    obtain ⟨_, _, hkeeps⟩ := hd m hm
    exact hkeeps.lastApplied
  simp only [Inventory.objectMetas, List.mem_append] at hm
  rcases hm with ((((((hm | hm) | hm) | hm) | hm) | hm) | hm) | hm
  · exact hdraws h.namespaces hm
  · exact hdraws h.nodes hm
  · exact hdraws h.persistentVolumes hm
  · exact hdraws h.storageClasses hm
  · exact hdraws h.networkPolicies hm
  · exact hdraws h.dbInstances hm
  · exact hdraws h.rabbitMqClusters hm
  · obtain ⟨w, hw, rfl⟩ := List.mem_map.1 hm
    rcases h.workloads w hw with ⟨_, _, hw⟩ | ⟨_, _, _, hw⟩
    · exact hw.objectMeta.lastApplied
    · exact hw.objectMeta.lastApplied

/-- Every workload names its group and has its kind in lower case, and so does every root owner
name its group. -/
theorem names (h : DrawnFrom fetch listed a inv) {w : Workload} (hw : w ∈ inv.workloads) :
    w.typeMeta.apiGroup ≠ "" ∧ w.typeMeta.resourceType = Text.toLower w.typeMeta.kind ∧
      ∀ root, w.rootOwner = some root → root.apiGroup ≠ "" := by
  rcases h.workloads w hw with ⟨src, _, hrec⟩ | ⟨r, found, _, hstands⟩
  · obtain ⟨group, _, hnames⟩ := hrec.typeMeta
    refine ⟨hnames.apiGroup.ne_empty, by rw [hnames.resourceType, hnames.kind_eq], ?_⟩
    intro root hroot
    obtain ⟨_, _, _, hfor⟩ := hrec.rootOwner root hroot
    exact hfor.apiGroup.ne_empty
  · have hnames := hstands.typeMeta
    refine ⟨hnames.apiGroup.ne_empty, by rw [hnames.resourceType, hnames.kind_eq], ?_⟩
    intro root hroot
    rw [hstands.rootOwner] at hroot
    cases hroot

end DrawnFrom

/-- What the records of a run over live clusters have of their objects, for each of its cycles and
all that were taken before it.

* No record that has metadata has the annotation in which `kubectl apply` keeps its books.
* Every workload and every root owner names a group, and every workload has its kind in lower case.
* The records are drawn from the answers of the last cycle that reached the cluster: each has the
  labels and all other annotations of an object that was listed then or, for a root owner that is
  not listed, of one that was looked up; and its group is that of the listing or of the address,
  with `core` for the unnamed one. As long as no cycle has reached the cluster, there are no
  records. -/
theorem records_of_runs (o : Orchestrator σ) (hlive : o.CollectsLive)
    {later past : List (CycleReport σ)} {r : CycleReport σ} {store : SnapshotStore}
    (h : o.Runs (later ++ r :: past) store) :
    (∀ m ∈ r.published.objectMetas,
      m.annotations.find? "kubectl.kubernetes.io/last-applied-configuration" = none) ∧
    (∀ w ∈ r.published.workloads, w.typeMeta.apiGroup ≠ "" ∧
      w.typeMeta.resourceType = Text.toLower w.typeMeta.kind ∧
      ∀ root, w.rootOwner = some root → root.apiGroup ≠ "") ∧
    (lastReached (r :: past) = none → r.published.objectMetas = []) ∧
    ∀ q, lastReached (r :: past) = some q → q.Yields r.published := by
  obtain ⟨before, hrun⟩ := h.of_append
  have hpublished := hrun.current
  obtain ⟨hnone, hsome⟩ := hrun.drawn hlive
  rw [hpublished] at hnone hsome
  cases hreached : lastReached (r :: past) with
  | none =>
    have hempty := hnone hreached
    have hworkloads : r.published.workloads = [] := by
      simp only [Inventory.objectMetas, List.append_eq_nil_iff, List.map_eq_nil_iff] at hempty
      exact hempty.2
    rw [hempty, hworkloads]
    exact ⟨fun m hm => (by cases hm), fun w hw => (by cases hw), fun _ => rfl,
      fun q hq => (by cases hq)⟩
  | some q =>
    obtain ⟨_, _, _, _, _, _, _, _, _, hdrawn⟩ := hsome q hreached
    exact ⟨fun m hm => hdrawn.lastApplied hm, fun w hw => hdrawn.names hw,
      fun hn => (by cases hn), fun q' hq' => hsome q' (hreached.trans hq')⟩

/-- A run over a cluster with one namespace, which `kubectl apply` has made: the one record keeps
the label and the other annotation. -/
theorem records_of_runs_applied :
    let o : Orchestrator Unit :=
      { acquire := acquireLive (.ok appliedConnection) 1, clientVersion := "0.1.0" }
    ∃ (r : CycleReport Unit) (store : SnapshotStore), o.CollectsLive ∧ o.Runs [r] store ∧
      ∃ m : ObjectMeta, r.published.objectMetas = [m] ∧
        m.annotations.find? "kubectl.kubernetes.io/last-applied-configuration" = none ∧
        m.annotations.find? "note" = some "kept" ∧ m.labels.find? "team" = some "web" := by
  intro o
  obtain ⟨catalog, hdiscover, hkinds, hplurals⟩ : ∃ catalog,
      appliedConnection.discover.run () = (.ok catalog, ()) ∧
        catalog.byKind.isEmpty = true ∧ catalog.plurals.isEmpty = true :=
    exists_catalog_of_nothing (by decide +kernel)
  have hacquire : o.acquire () =
      some (.value (liveDomains ⟨appliedConnection, catalog, 1⟩), ()) := by
    simp only [o, acquireLive, Handle.acquire, hdiscover]
    rfl
  obtain ⟨a, ha, hempty⟩ : ∃ a : Answers,
      Answers.ask ⟨appliedConnection, catalog, 1⟩ () = some (a, ()) ∧
        (a.inventory catalog "0.1.0" .epoch).objectMetas = [.ofObject appliedMeta] :=
    ⟨_, ask_applied hkinds hplurals, rfl⟩
  have hcollect : collectAll (liveDomains ⟨appliedConnection, catalog, 1⟩) (.start "0.1.0" .epoch)
      () = some (a.inventory catalog "0.1.0" .epoch, ()) := by
    rw [collectAll_liveDomains, Calls.bind_of_eq_some ha]
    rfl
  have hcycle : o.runCycle .epoch {} () = some ((_, _), ()) :=
    (Orchestrator.runCycle_of_value hacquire).2 ⟨_, (), .ok none, hcollect, rfl, rfl, rfl⟩
  have hlive : o.CollectsLive := collectsLive_acquireLive _ _ none "0.1.0"
  have hrun := Orchestrator.Runs.collected .fresh hacquire
    (fun d hd => writesRecords_of_mem_liveDomains _ hd) hcycle
  obtain ⟨hclean, -⟩ := records_of_runs o hlive (show o.Runs ([] ++ _ :: []) _ from hrun)
  refine ⟨_, _, hlive, hrun, .ofObject appliedMeta, hempty, ?_, by decide, by decide⟩
  refine hclean _ ?_
  rw [SnapshotStore.publish_current, hempty]
  exact List.mem_singleton_self _

end Collection

end ClusterInventory
