import ClusterInventory.Proofs.Collection.WorkloadAnswers

/-!
# No failure is swallowed

`Answers` are all the answers that a cycle over a live cluster is given, from asking for the version
to the searches for root owners. The snapshot that the cycle publishes follows from them
(`runCycle_live_iff`): its errors are the failures among the answers, one for each, and each of its
lists is that of the answer to its own listing.
-/

namespace ClusterInventory.Collection

open Api (CallError Calls Connection Handle Listing)

variable {σ : Type}

structure Answers where
  facts : FactAnswers
  namespaces : Except CallError (List Object.Namespace)
  nodes : Except CallError (List Object.Node)
  storage : StorageAnswers
  networkPolicies : Except CallError (List Object.NetworkPolicy)
  operators : OperatorAnswers
  workloads : WorkloadAnswers

namespace Answers

/-- Asks for everything, domain by domain. -/
def ask (h : Handle σ) : Calls σ Answers := do
  let facts ← FactAnswers.ask h
  let namespaces ← h.all Listing.namespaces
  let nodes ← h.all Listing.nodes
  let storage ← StorageAnswers.ask h
  let networkPolicies ← h.all Listing.networkPolicies
  let operators ← OperatorAnswers.ask h
  let workloads ← WorkloadAnswers.ask h
  return { facts, namespaces, nodes, storage, networkPolicies, operators, workloads }

/-- Everything that went wrong. -/
def failures (a : Answers) : List Failure :=
  a.facts.failures ++ Kind.namespaces.failures a.namespaces ++ Kind.nodes.failures a.nodes ++
    a.storage.failures ++ Kind.networkPolicies.failures a.networkPolicies ++
    a.operators.failures ++ a.workloads.failures

/-- The snapshot that follows from the answers of a cluster with this catalog. -/
def inventory (a : Answers) (catalog : Api.Catalog) (clientVersion : String) (now : Instant) :
    Inventory :=
  { version := inventoryVersion
    clientVersion
    collectedAt := now
    collectionSucceeded := a.failures.isEmpty
    collectionErrors := a.failures.map (·.error.text)
    cluster := a.facts.record
    namespaces := Kind.namespaces.records a.namespaces
    nodes := Kind.nodes.records a.nodes
    storage := a.storage.record
    networkPolicies := Kind.networkPolicies.records a.networkPolicies
    customResources := a.operators.record catalog
    workloads := a.workloads.records }

end Answers

/-- What a domain asks for is all that the domains after it see of its calls. -/
theorem collectAll_cons_of_collect {α : Type} {d : Domain σ} {inv : Inventory} {ask : Calls σ α}
    {written : α → Inventory} {failures : α → List Failure}
    (h : d.collect inv = ask >>= fun a => pure (written a, .ok ((failures a).map (·.error))))
    (rest : List (Domain σ)) :
    collectAll (d :: rest) inv =
      ask >>= fun a => collectAll rest ((written a).withErrors ((failures a).map (·.error))) := by
  simp only [collectAll, Domain.collectInto, h, bind_assoc, pure_bind, Domain.errorsOf,
    Inventory.foldl_recordError]

/-- The domains of a live cluster ask for what `Answers.ask` asks for, and come to the snapshot
that follows from the answers. -/
theorem collectAll_liveDomains (h : Handle σ) (clientVersion : String) (now : Instant) :
    collectAll (liveDomains h) (.start clientVersion now) =
      Answers.ask h >>= fun a => pure (a.inventory h.catalog clientVersion now) := by
  simp only [Answers.ask, bind_assoc, pure_bind]
  rw [liveDomains, collectAll_cons_of_collect (collect_clusterFacts h rfl)]
  refine congrArg _ (funext fun facts => ?_)
  rw [collectAll_cons_of_collect (collect_namespaces h rfl)]
  refine congrArg _ (funext fun namespaces => ?_)
  rw [collectAll_cons_of_collect (collect_nodes h rfl)]
  refine congrArg _ (funext fun nodes => ?_)
  rw [collectAll_cons_of_collect (collect_storage h rfl)]
  refine congrArg _ (funext fun storage => ?_)
  rw [collectAll_cons_of_collect (collect_networkPolicies h rfl)]
  refine congrArg _ (funext fun networkPolicies => ?_)
  rw [collectAll_cons_of_collect (collect_customResources h _)]
  refine congrArg _ (funext fun operators => ?_)
  rw [collectAll_cons_of_collect (collect_workloads h _)]
  refine congrArg _ (funext fun workloads => ?_)
  refine congrArg pure ?_
  have hsucceeded (es es' : List Failure) : (es ++ es').isEmpty = (es.isEmpty && es'.isEmpty) := by
    cases es <;> rfl
  simp [Inventory.withErrors, Inventory.start, Answers.inventory, Answers.failures,
    Function.comp_def, hsucceeded, Bool.and_assoc]

/-- A live cluster that was taken hold of was found, and its catalog was discovered. -/
theorem exists_handle_of_acquireLive {found : Except (List String) (Connection σ)} {pages : Nat}
    {world world₁ : σ} {domains : List (Domain σ)}
    (h : acquireLive found pages world = some (.value domains, world₁)) :
    ∃ c handle, found = .ok c ∧ Handle.acquire c pages world = (.ok handle, world₁) ∧
      domains = liveDomains handle := by
  cases found with
  | error causes => cases h
  | ok c =>
    simp only [acquireLive] at h
    split at h
    · cases h
    · rcases hacquire : Handle.acquire c pages world with ⟨e | handle, world'⟩
      · rw [hacquire] at h
        cases h
      · rw [hacquire] at h
        cases h
        exact ⟨c, handle, rfl, hacquire, rfl⟩

/-- A cycle over a live cluster that was taken hold of publishes the snapshot that follows from the
answers.

* The cycle asks for what `Answers.ask` asks for, and comes to an end exactly when that does and
  the snapshot can be handed on.
* The errors of the snapshot are the failures among the answers, one for each, and it counts as a
  success exactly when there is none.
* A listing that ends in an error gives no objects, and is one failure, unless the error says that
  nothing is there. Every other list of the snapshot is that of its own answer all the same. -/
theorem runCycle_live_iff (found : Except (List String) (Connection σ)) (pages : Nat)
    (publisher : Option (Inventory → Calls σ (Attempt Unit))) (clientVersion : String)
    (now : Instant) (store : SnapshotStore) {world world₁ : σ} {domains : List (Domain σ)}
    (h : acquireLive found pages world = some (.value domains, world₁)) :
    let o : Orchestrator σ := { acquire := acquireLive found pages, publisher, clientVersion }
    ∃ c handle, found = .ok c ∧ Handle.acquire c pages world = (.ok handle, world₁) ∧
      domains = liveDomains handle ∧
      (∀ outcome store' world', o.runCycle now store world = some ((outcome, store'), world') ↔
        ∃ a world₂ delivered, Answers.ask handle world₁ = some (a, world₂) ∧
          o.deliver (a.inventory handle.catalog clientVersion now) world₂ =
            some (delivered, world') ∧
          store' = store.publish (a.inventory handle.catalog clientVersion now) ∧
          outcome = delivered.map fun delivered =>
            .collected a.failures.isEmpty a.failures.length delivered) ∧
      (∀ a : Answers, ∀ inv, inv = a.inventory handle.catalog clientVersion now →
        inv.collectionErrors = a.failures.map (·.error.text) ∧
          (inv.collectionSucceeded = true ↔ a.failures = [])) ∧
      (∀ (α : Type) (domain what : String) (e : CallError),
        objectsIn (.error e : Except CallError (List α)) = [] ∧
          listingFailures domain what (.error e : Except CallError (List α)) =
            if e.isNotFound then [] else [.listing domain what e]) := by
  intro o
  obtain ⟨c, handle, hfound, hacquire, rfl⟩ := exists_handle_of_acquireLive h
  refine ⟨c, handle, hfound, hacquire, rfl, fun outcome store' world' => ?_, ?_,
    fun α domain what e => ⟨rfl, listingFailures_error domain what e⟩⟩
  · rw [Orchestrator.runCycle_of_value h, collectAll_liveDomains]
    constructor
    · rintro ⟨inv, world₂, delivered, hcollect, hdeliver, hstore, houtcome⟩
      obtain ⟨a, world₃, hask, hinv⟩ := Calls.bind_eq_some.1 hcollect
      obtain ⟨rfl, rfl⟩ := Calls.pure_eq_some.1 hinv
      exact ⟨a, world₃, delivered, hask, hdeliver, hstore, by
        simpa [Answers.inventory] using houtcome⟩
    · rintro ⟨a, world₂, delivered, hask, hdeliver, hstore, houtcome⟩
      exact ⟨_, world₂, delivered, Calls.bind_eq_some.2 ⟨a, world₂, hask, rfl⟩, hdeliver, hstore, by
        simpa [Answers.inventory] using houtcome⟩
  · rintro a inv rfl
    exact ⟨rfl, List.isEmpty_iff⟩

/-- A cluster that serves nothing but the answers of discovery. Its nodes are not listed in time,
and nothing else is there. -/
def bareServer : Api.Server Unit := fun q world =>
  (match q.path with
    | "/apis" => .answer 200 "\x7b\"groups\":[]\x7d"
    | "/api" => .answer 200 "\x7b\"versions\":[\"v1\"]\x7d"
    | "/api/v1" => .answer 200 "\x7b\"groupVersion\":\"v1\",\"resources\":[]\x7d"
    | "/api/v1/nodes" => .silence
    | _ => .answer 404 "", world)

def bareConnection : Connection Unit := { server := bareServer, timeout := .ofSeconds 30 }

def late : CallError := .timeout (.ofSeconds 30)

def notThere : CallError := .status (.ofAnswer 404 "")

/-- The first page of a listing is the error `e`. -/
def refuses {α : Type} (c : Connection Unit) (l : Listing α) (e : CallError) : Bool :=
  match l.page c none () with
  | (.error e', ()) => e' == e
  | _ => false

section Refusals

variable {c : Connection Unit} {α : Type} {l : Listing α} {e : CallError}

theorem page_of_refuses (h : refuses c l e = true) : l.page c none () = (.error e, ()) := by
  unfold refuses at h
  split at h
  · next e' heq => rw [heq, eq_of_beq h]
  · cases h

theorem all_of_refuses (h : refuses c l e = true) (catalog : Api.Catalog) :
    (⟨c, catalog, 1⟩ : Handle Unit).all l () = some (.error e, ()) := by
  simp only [Handle.all, Listing.all, Listing.after, page_of_refuses h]

/-- Of all that a cycle asks for, only namespaces and nodes may be there. -/
structure ServesNoMore (c : Connection Unit) : Prop where
  version : c.call { path := "/version" } Object.VersionInfo.reader.decoder () =
    (.error notThere, ())
  operatorNotes : refuses c Listing.operatorNotes notThere = true
  persistentVolumes : refuses c Listing.persistentVolumes notThere = true
  storageClasses : refuses c Listing.storageClasses notThere = true
  networkPolicies : refuses c Listing.networkPolicies notThere = true
  deployments : refuses c Listing.deployments notThere = true
  statefulSets : refuses c Listing.statefulSets notThere = true
  replicaSets : refuses c Listing.replicaSets notThere = true
  daemonSets : refuses c Listing.daemonSets notThere = true
  cronJobs : refuses c Listing.cronJobs notThere = true
  jobs : refuses c Listing.jobs notThere = true
  pods : refuses c Listing.pods notThere = true

end Refusals

/-- What the bare cluster answers. -/
def bareAnswers : Answers :=
  { facts := { version := .error notThere, nodes := none, notes := .error notThere }
    namespaces := .error notThere
    nodes := .error late
    storage := { persistentVolumes := .error notThere, storageClasses := .error notThere }
    networkPolicies := .error notThere
    operators :=
      { backups := none, schedules := none, dbInstances := none, rabbitMqClusters := none
        calico := none }
    workloads :=
      { listings :=
          { deployments := .error notThere, statefulSets := .error notThere
            replicaSets := .error notThere, daemonSets := .error notThere
            cronJobs := .error notThere, earlierCronJobs := none, jobs := .error notThere
            pods := .error notThere }
        searches := [] } }

/-- A cluster whose catalog has nothing. -/
theorem exists_catalog_of_nothing {c : Connection Unit}
    (h : (c.discover.run ()).1.toOption.map (fun k => k.byKind.isEmpty && k.plurals.isEmpty) =
      some true) :
    ∃ catalog, c.discover.run () = (.ok catalog, ()) ∧
      catalog.byKind.isEmpty = true ∧ catalog.plurals.isEmpty = true := by
  obtain ⟨catalog, hrun, hempty⟩ := Api.exists_ok_of_map h
  exact ⟨catalog, Prod.ext hrun rfl, Bool.and_eq_true_iff.1 hempty⟩

theorem discover_bare : ∃ catalog, bareConnection.discover.run () = (.ok catalog, ()) ∧
    catalog.byKind.isEmpty = true ∧ catalog.plurals.isEmpty = true :=
  exists_catalog_of_nothing (by decide +kernel)

/-- What a cluster answers that has namespaces and nodes at most, and a catalog of nothing. -/
theorem ask_of_servesNoMore {c : Connection Unit} (hc : ServesNoMore c) {catalog : Api.Catalog}
    (hkinds : catalog.byKind.isEmpty = true) (hplurals : catalog.plurals.isEmpty = true)
    {namespaces : Except CallError (List Object.Namespace)}
    {nodes : Except CallError (List Object.Node)}
    (hnamespaces : (⟨c, catalog, 1⟩ : Handle Unit).all Listing.namespaces () =
      some (namespaces, ()))
    (hnodes : (⟨c, catalog, 1⟩ : Handle Unit).all Listing.nodes () = some (nodes, ())) :
    Answers.ask ⟨c, catalog, 1⟩ () = some ({ bareAnswers with namespaces, nodes }, ()) := by
  have hhas (key : String) : catalog.has key = false :=
    Std.HashSet.isEmpty_iff_forall_contains.1 hplurals key
  have hlisting (apiVersion kind : String) :
      Handle.listing? (⟨c, catalog, 1⟩ : Handle Unit) apiVersion kind = none := by
    have hnone := Std.HashMap.getElem?_eq_none
      (Std.HashMap.isEmpty_iff_forall_not_mem.1 hkinds
        ((Api.splitApiVersion apiVersion).1, (Api.splitApiVersion apiVersion).2, kind))
    simp only [Handle.listing?, Api.Catalog.find?, hnone, Option.map_none]
  have hall {α : Type} {l : Listing α} {e : CallError} (h : refuses c l e = true) :=
    all_of_refuses h catalog
  have hfacts : FactAnswers.ask ⟨c, catalog, 1⟩ () = some (bareAnswers.facts, ()) :=
    Calls.bind_eq_some.2 ⟨.error notThere, (), congrArg some hc.version,
      Calls.bind_eq_some.2 ⟨none, (), rfl,
      Calls.bind_eq_some.2
        ⟨.error notThere, (), congrArg some (page_of_refuses hc.operatorNotes), rfl⟩⟩⟩
  have hstorage : StorageAnswers.ask ⟨c, catalog, 1⟩ () = some (bareAnswers.storage, ()) :=
    Calls.bind_eq_some.2 ⟨_, (), hall hc.persistentVolumes,
      Calls.bind_eq_some.2 ⟨_, (), hall hc.storageClasses, rfl⟩⟩
  have hoperators : OperatorAnswers.ask ⟨c, catalog, 1⟩ () = some (bareAnswers.operators, ()) := by
    simp only [OperatorAnswers.ask, OperatorAnswers.askKind, OperatorAnswers.askCalico,
      Record.CustomResources.ofCatalog, hhas]
    rfl
  have hlistings : WorkloadListings.ask ⟨c, catalog, 1⟩ () =
      some (bareAnswers.workloads.listings, ()) := by
    have hearlier : WorkloadListings.askEarlier ⟨c, catalog, 1⟩ (.error notThere) () =
        some (none, ()) := by
      simp only [WorkloadListings.askEarlier, hlisting, ite_self]
      rfl
    exact Calls.bind_eq_some.2 ⟨_, (), hall hc.deployments,
      Calls.bind_eq_some.2 ⟨_, (), hall hc.statefulSets,
      Calls.bind_eq_some.2 ⟨_, (), hall hc.replicaSets,
      Calls.bind_eq_some.2 ⟨_, (), hall hc.daemonSets,
      Calls.bind_eq_some.2 ⟨_, (), hall hc.cronJobs,
      Calls.bind_eq_some.2 ⟨_, (), hearlier,
      Calls.bind_eq_some.2 ⟨_, (), hall hc.jobs,
      Calls.bind_eq_some.2 ⟨_, (), hall hc.pods, rfl⟩⟩⟩⟩⟩⟩⟩⟩
  have hworkloads : WorkloadAnswers.ask ⟨c, catalog, 1⟩ () =
      some (bareAnswers.workloads, ()) :=
    Calls.bind_eq_some.2 ⟨_, (), hlistings, Calls.bind_eq_some.2 ⟨[], (), rfl, rfl⟩⟩
  exact Calls.bind_eq_some.2 ⟨_, (), hfacts,
    Calls.bind_eq_some.2 ⟨_, (), hnamespaces,
    Calls.bind_eq_some.2 ⟨_, (), hnodes,
    Calls.bind_eq_some.2 ⟨_, (), hstorage,
    Calls.bind_eq_some.2 ⟨_, (), hall hc.networkPolicies,
    Calls.bind_eq_some.2 ⟨_, (), hoperators,
    Calls.bind_eq_some.2 ⟨_, (), hworkloads, rfl⟩⟩⟩⟩⟩⟩⟩

theorem servesNoMore_bare : ServesNoMore bareConnection := by
  constructor
  case version => rfl
  all_goals decide +kernel

theorem ask_bare {catalog : Api.Catalog} (hkinds : catalog.byKind.isEmpty = true)
    (hplurals : catalog.plurals.isEmpty = true) :
    Answers.ask ⟨bareConnection, catalog, 1⟩ () = some (bareAnswers, ()) :=
  ask_of_servesNoMore servesNoMore_bare hkinds hplurals
    (all_of_refuses (e := notThere) (by decide +kernel) catalog)
    (all_of_refuses (e := late) (by decide +kernel) catalog)

/-- The bare cluster is collected with two failures: a version that is not there is one, lists
that are not there are none. -/
theorem runCycle_live_iff_bare : ∃ domains outcome store',
    acquireLive (.ok bareConnection) 1 () = some (.value domains, ()) ∧
      ({ acquire := acquireLive (.ok bareConnection) 1, clientVersion := "0.1.0" } :
          Orchestrator Unit).runCycle .epoch {} () = some ((outcome, store'), ()) ∧
      bareAnswers.failures = [.version notThere, .listing "nodes" "nodes" late] ∧
      store'.current.collectionErrors = bareAnswers.failures.map (·.error.text) ∧
      store'.current.collectionSucceeded = false := by
  obtain ⟨catalog, hdiscover, hkinds, hplurals⟩ := discover_bare
  have hacquire : acquireLive (.ok bareConnection) 1 () =
      some (.value (liveDomains ⟨bareConnection, catalog, 1⟩), ()) := by
    simp only [acquireLive, Handle.acquire, hdiscover]
    rfl
  obtain ⟨c, handle, hfound, hhandle, -, hcycle, hsnapshot, -⟩ :=
    runCycle_live_iff (.ok bareConnection) 1 none "0.1.0" .epoch {} hacquire
  cases hfound
  simp only [Handle.acquire, hdiscover] at hhandle
  cases hhandle
  obtain ⟨herrors, hsucceeded⟩ := hsnapshot bareAnswers _ rfl
  have hfailures : bareAnswers.failures = [.version notThere, .listing "nodes" "nodes" late] := by
    decide +kernel
  refine ⟨_, _, _, hacquire, (hcycle _ _ _).2
    ⟨bareAnswers, (), .ok none, ask_bare hkinds hplurals, rfl, rfl, rfl⟩, hfailures, herrors, ?_⟩
  rw [← Bool.not_eq_true]
  intro h
  have := hsucceeded.1 h
  rw [hfailures] at this
  cases this

/-! ## A cluster with one namespace -/

/-- A cluster with one namespace, which `kubectl apply` has made, and without nodes. Nothing else is
there. -/
def appliedServer : Api.Server Unit := fun q world =>
  (match q.path with
    | "/api/v1/namespaces" => .answer 200 <|
      "\x7b\"metadata\":\x7b\x7d,\"items\":[\x7b\"metadata\":\x7b\"name\":\"shop\"," ++
        "\"labels\":\x7b\"team\":\"web\"\x7d,\"annotations\":\x7b\"note\":\"kept\"," ++
        "\"kubectl.kubernetes.io/last-applied-configuration\":\"all of it\"\x7d\x7d\x7d]\x7d"
    | "/api/v1/nodes" => .answer 404 ""
    | _ => (bareServer q world).1, world)

def appliedConnection : Connection Unit := { server := appliedServer, timeout := .ofSeconds 30 }

def appliedMeta : Object.Meta where
  name := some "shop"
  labels := some (.ofList [("team", "web")])
  annotations := some (.ofList [("note", "kept"),
    ("kubectl.kubernetes.io/last-applied-configuration", "all of it")])

theorem servesNoMore_applied : ServesNoMore appliedConnection := by
  constructor
  case version => rfl
  all_goals decide +kernel

theorem all_namespaces_applied (catalog : Api.Catalog) :
    (⟨appliedConnection, catalog, 1⟩ : Handle Unit).all Listing.namespaces () =
      some (.ok [⟨appliedMeta⟩], ()) := by
  obtain ⟨items, hall, hitems⟩ : ∃ items : List Object.Namespace,
      (⟨appliedConnection, catalog, 1⟩ : Handle Unit).all Listing.namespaces () =
        some (.ok items, ()) ∧ items.map (·.objectMeta) = [appliedMeta] :=
    Handle.exists_all_of_items (c := appliedConnection) (by decide +kernel) rfl Nat.one_pos
  obtain ⟨n, rest, rfl, hn, hrest⟩ := List.map_eq_cons_iff.1 hitems
  obtain rfl := List.map_eq_nil_iff.1 hrest
  rw [hall, ← hn]

theorem ask_applied {catalog : Api.Catalog} (hkinds : catalog.byKind.isEmpty = true)
    (hplurals : catalog.plurals.isEmpty = true) :
    Answers.ask ⟨appliedConnection, catalog, 1⟩ () =
      some ({ bareAnswers with namespaces := .ok [⟨appliedMeta⟩], nodes := .error notThere }, ()) :=
  ask_of_servesNoMore servesNoMore_applied hkinds hplurals (all_namespaces_applied catalog)
    (all_of_refuses (by decide +kernel) catalog)

end ClusterInventory.Collection
