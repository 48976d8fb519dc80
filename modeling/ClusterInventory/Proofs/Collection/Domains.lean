import ClusterInventory.Proofs.Collection.Answers

/-!
# What each domain is answered

For each domain a structure of the answers that it is given, with the work of asking for them
(`ask`), which says what is asked for and when. All that the domain writes and every error that it
gives back follow from the answers (`collect_clusterFacts`, `collect_namespaces`, and so on).
-/

namespace ClusterInventory.Collection

open Api (CallError Calls Handle Listing)

variable {σ α β : Type}

/-- Asks for a listing, if there is one to ask for. -/
def askServed (h : Handle σ) : Option (Listing α) → Calls σ (Option (Except CallError (List α)))
  | some l => do return some (← h.all l)
  | none => return none

/-! ## The cluster itself -/

structure FactAnswers where
  version : Except CallError Object.VersionInfo
  /-- The nodes that may give the providers away. -/
  nodes : Option (Except CallError (List Object.Node))
  notes : Except CallError (List Object.ConfigMap)

namespace FactAnswers

/-- Asks for version, nodes and notes. Where there is no version, the nodes are not asked for. -/
def ask (h : Handle σ) : Calls σ FactAnswers := do
  let version ← h.once fun c => c.call { path := "/version" } Object.VersionInfo.reader.decoder
  let nodes ← askServed h (version.toOption.map fun _ => Listing.nodes)
  let page ← h.once fun c => Listing.operatorNotes.page c none
  return { version, nodes, notes := page.map (·.items) }

def versionFailures (version : Except CallError Object.VersionInfo)
    (nodes : Option (Except CallError (List Object.Node))) : List Failure :=
  (match version with
    | .ok _ => []
    | .error e => [.version e]) ++ ((nodes.bind failure?).map .providerNodes).toList

def failures (a : FactAnswers) : List Failure :=
  versionFailures a.version a.nodes ++ ((failure? a.notes).map .notes).toList

/-- What version and nodes tell. -/
def versionRecord (version : Except CallError Object.VersionInfo)
    (nodes : Option (Except CallError (List Object.Node))) : Record.Cluster :=
  match version with
  | .ok info =>
    ((({} : Record.Cluster).withVersion info).withProviders info.gitVersion
      (.ok (nodes.elim [] objectsIn))).1
  | .error _ => {}

def record (a : FactAnswers) : Record.Cluster :=
  match objectsIn a.notes with
  | first :: _ =>
    (versionRecord a.version a.nodes).withOperatorNotes (first.data.getD .empty)
  | [] => versionRecord a.version a.nodes

end FactAnswers

theorem collectVersion_eq (h : Handle σ) :
    collectVersion h {} = do
      let version ← h.once fun c => c.call { path := "/version" } Object.VersionInfo.reader.decoder
      let nodes ← askServed h (version.toOption.map fun _ => Listing.nodes)
      return (FactAnswers.versionRecord version nodes,
        (FactAnswers.versionFailures version nodes).map (·.error)) := by
  unfold collectVersion
  congr 1
  funext version
  cases version with
  | error e => rfl
  | ok info =>
    simp only [Except.toOption, Option.map_some, askServed, Handle.list_eq, bind_assoc, pure_bind]
    congr 1
    funext nodes
    rw [absentAsEmpty_eq]
    unfold FactAnswers.versionRecord FactAnswers.versionFailures
    simp only [Option.bind_some, Option.elim_some]
    cases hfail : failure? nodes with
    | none => rfl
    | some e =>
      rw [objectsIn_of_failure hfail]
      rfl

theorem collectNotes_eq (h : Handle σ) (c : Record.Cluster) :
    collectNotes h c = do
      let page ← h.once fun c => Listing.operatorNotes.page c none
      return (match objectsIn (page.map (·.items)) with
          | first :: _ => c.withOperatorNotes (first.data.getD .empty)
          | [] => c,
        (((failure? (page.map (·.items))).map .notes).toList).map Failure.error) := by
  unfold collectNotes
  congr 1
  funext page
  rw [absentAsEmpty_eq]
  cases hfail : failure? (page.map (·.items)) with
  | none => cases hobjects : objectsIn (page.map (·.items)) <;> rfl
  | some e =>
    rw [objectsIn_of_failure hfail]
    rfl

theorem collect_clusterFacts (h : Handle σ) {inv : Inventory} (hinv : inv.cluster = {}) :
    (clusterFacts h).collect inv = FactAnswers.ask h >>= fun a =>
      pure ({ inv with cluster := a.record }, .ok (a.failures.map (·.error))) := by
  simp only [clusterFacts, Domain.steady, hinv, collectVersion_eq, collectNotes_eq,
    FactAnswers.ask, FactAnswers.record, FactAnswers.failures, bind_assoc, pure_bind,
    List.map_append]

/-! ## Objects that are only listed -/

namespace Kind

def namespaces : Kind Object.Namespace Record.Namespace :=
  ⟨"namespaces", "namespaces", named (·.objectMeta), Record.Namespace.ofObject⟩

def nodes : Kind Object.Node Record.Node :=
  ⟨"nodes", "nodes", named (·.objectMeta), Record.Node.ofObject⟩

def persistentVolumes : Kind Object.PersistentVolume Record.PersistentVolume :=
  ⟨"storage", "persistent volumes", named (·.objectMeta), Record.PersistentVolume.ofObject⟩

def storageClasses : Kind Object.StorageClass Record.StorageClass :=
  ⟨"storage", "storage classes", named (·.objectMeta), Record.StorageClass.ofObject⟩

def networkPolicies : Kind Object.NetworkPolicy Record.NetworkPolicy :=
  ⟨"network_policies", "network policies", qualified (·.objectMeta),
    Record.NetworkPolicy.ofObject⟩

end Kind

/-- A domain that only lists one kind and takes over its records. -/
theorem collect_listed (h : Handle σ) (name : String) (k : Kind α β) (l : Listing α)
    (before : Inventory → List β) (put : Inventory → List β → Inventory) {inv : Inventory}
    (hinv : before inv = []) :
    (Domain.steady name fun inv => do
        let (records, errors) := recordsOf k.domain k.what k.subject k.record (before inv)
          (← h.list l)
        return (put inv records, errors)).collect inv =
      h.all l >>= fun a =>
        pure (put inv (k.records a), .ok ((k.failures a).map (·.error))) := by
  simp only [Domain.steady, hinv, Handle.list_eq, bind_assoc, pure_bind, k.recordsOf_eq]

theorem collect_namespaces (h : Handle σ) {inv : Inventory} (hinv : inv.namespaces = []) :
    (namespaces h).collect inv = h.all Listing.namespaces >>= fun a =>
      pure ({ inv with namespaces := Kind.namespaces.records a },
        .ok ((Kind.namespaces.failures a).map (·.error))) :=
  collect_listed h "namespaces" Kind.namespaces Listing.namespaces (·.namespaces)
    (fun inv records => { inv with namespaces := records }) hinv

theorem collect_nodes (h : Handle σ) {inv : Inventory} (hinv : inv.nodes = []) :
    (nodes h).collect inv = h.all Listing.nodes >>= fun a =>
      pure ({ inv with nodes := Kind.nodes.records a },
        .ok ((Kind.nodes.failures a).map (·.error))) :=
  collect_listed h "nodes" Kind.nodes Listing.nodes (·.nodes)
    (fun inv records => { inv with nodes := records }) hinv

theorem collect_networkPolicies (h : Handle σ) {inv : Inventory}
    (hinv : inv.networkPolicies = []) :
    (networkPolicies h).collect inv = h.all Listing.networkPolicies >>= fun a =>
      pure ({ inv with networkPolicies := Kind.networkPolicies.records a },
        .ok ((Kind.networkPolicies.failures a).map (·.error))) :=
  collect_listed h "network_policies" Kind.networkPolicies Listing.networkPolicies
    (·.networkPolicies) (fun inv records => { inv with networkPolicies := records }) hinv

structure StorageAnswers where
  persistentVolumes : Except CallError (List Object.PersistentVolume)
  storageClasses : Except CallError (List Object.StorageClass)

namespace StorageAnswers

def ask (h : Handle σ) : Calls σ StorageAnswers := do
  let persistentVolumes ← h.all Listing.persistentVolumes
  let storageClasses ← h.all Listing.storageClasses
  return { persistentVolumes, storageClasses }

def failures (a : StorageAnswers) : List Failure :=
  Kind.persistentVolumes.failures a.persistentVolumes ++
    Kind.storageClasses.failures a.storageClasses

def record (a : StorageAnswers) : Record.Storage :=
  { persistentVolumes := Kind.persistentVolumes.records a.persistentVolumes
    storageClasses := Kind.storageClasses.records a.storageClasses }

end StorageAnswers

theorem collect_storage (h : Handle σ) {inv : Inventory} (hinv : inv.storage = {}) :
    (storage h).collect inv = StorageAnswers.ask h >>= fun a =>
      pure ({ inv with storage := a.record }, .ok (a.failures.map (·.error))) := by
  have hvolumes := Kind.persistentVolumes.recordsOf_eq
  have hclasses := Kind.storageClasses.recordsOf_eq
  simp only [Kind.persistentVolumes] at hvolumes
  simp only [Kind.storageClasses] at hclasses
  simp only [storage, Domain.steady, hinv, Handle.list_eq, bind_assoc, pure_bind, hvolumes,
    hclasses, StorageAnswers.ask, StorageAnswers.failures, StorageAnswers.record,
    List.map_append]
  rfl

/-! ## Operators that extend a cluster -/

/-- Objects of a kind that an operator brings along. -/
def Kind.custom (apiVersion kind : String) (record : Object.Dynamic → Attempt β) :
    Kind Object.Dynamic β :=
  ⟨CustomResources.domainName, s!"{apiVersion}/{kind}", Object.Dynamic.subject, record⟩

namespace Kind

def backups : Kind Object.Dynamic Record.VeleroBackup :=
  custom "velero.io/v1" "Backup" Record.VeleroBackup.ofObject

def schedules : Kind Object.Dynamic Record.VeleroSchedule :=
  custom "velero.io/v1" "Schedule" Record.VeleroSchedule.ofObject

def dbInstances : Kind Object.Dynamic Record.DbInstance :=
  custom "kci.rocks/v1alpha1" "DbInstance" Record.DbInstance.ofObject

def rabbitMqClusters : Kind Object.Dynamic Record.RabbitMqCluster :=
  custom "rabbitmq.com/v1beta1" "RabbitmqCluster" Record.RabbitMqCluster.ofObject

end Kind

/-- What is answered about operators. What is not served is not asked for. -/
structure OperatorAnswers where
  backups : Option (Except CallError (List Object.Dynamic))
  schedules : Option (Except CallError (List Object.Dynamic))
  dbInstances : Option (Except CallError (List Object.Dynamic))
  rabbitMqClusters : Option (Except CallError (List Object.Dynamic))
  calico : Option (Except CallError Object.Dynamic)

namespace OperatorAnswers

/-- Asks for the objects of a kind, if their operator is present and serves it. -/
def askKind (h : Handle σ) (present : Bool) (apiVersion kind : String) :
    Calls σ (Option (Except CallError (List Object.Dynamic))) :=
  askServed h (if present then h.listing? apiVersion kind else none)

def askCalico (h : Handle σ) (present : Bool) :
    Calls σ (Option (Except CallError Object.Dynamic)) :=
  match if present then h.catalog.find? "crd.projectcalico.org/v1" "ClusterInformation"
    else none with
  | some served => do
    return some (← h.once fun c => c.getObject (served.resource.path none ++ "/default"))
  | none => return none

def ask (h : Handle σ) : Calls σ OperatorAnswers := do
  let r := Record.CustomResources.ofCatalog h.catalog
  let backups ← askKind h r.hasVelero "velero.io/v1" "Backup"
  let schedules ← askKind h r.hasVelero "velero.io/v1" "Schedule"
  let dbInstances ← askKind h r.hasKciRocks "kci.rocks/v1alpha1" "DbInstance"
  let rabbitMqClusters ← askKind h r.hasRabbitMq "rabbitmq.com/v1beta1" "RabbitmqCluster"
  let calico ← askCalico h r.hasCalico
  return { backups, schedules, dbInstances, rabbitMqClusters, calico }

def failures (a : OperatorAnswers) : List Failure :=
  a.backups.elim [] Kind.backups.failures ++ a.schedules.elim [] Kind.schedules.failures ++
    a.dbInstances.elim [] Kind.dbInstances.failures ++
    a.rabbitMqClusters.elim [] Kind.rabbitMqClusters.failures ++
    ((a.calico.bind objectFailure?).map .calico).toList

/-- What the catalog and the answers tell. -/
def record (a : OperatorAnswers) (catalog : Api.Catalog) : Record.CustomResources :=
  { Record.CustomResources.ofCatalog catalog with
    velero :=
      { backups := a.backups.elim [] Kind.backups.records
        schedules := a.schedules.elim [] Kind.schedules.records }
    kciRocks := { dbInstances := a.dbInstances.elim [] Kind.dbInstances.records }
    rabbitMq := { clusters := a.rabbitMqClusters.elim [] Kind.rabbitMqClusters.records }
    calico := (a.calico.bind (·.toOption)).map Record.Calico.ofObject }

end OperatorAnswers

theorem summarize_eq (h : Handle σ) (present : Bool) (apiVersion kind : String)
    (record : Object.Dynamic → Attempt β) :
    CustomResources.summarize h present apiVersion kind record =
      OperatorAnswers.askKind h present apiVersion kind >>= fun a =>
        pure (a.elim [] (Kind.custom apiVersion kind record).records,
          (a.elim [] (Kind.custom apiVersion kind record).failures).map (·.error)) := by
  have hkind := (Kind.custom apiVersion kind record).recordsOf_eq
  simp only [Kind.custom] at hkind
  unfold CustomResources.summarize OperatorAnswers.askKind Handle.listKind
  cases present with
  | false => rfl
  | true =>
    cases h.listing? apiVersion kind with
    | none => rfl
    | some l =>
      simp only [if_true, Handle.list_eq, askServed, bind_assoc, pure_bind, hkind]
      rfl

theorem calico_eq (h : Handle σ) (present : Bool) :
    CustomResources.calico h present =
      OperatorAnswers.askCalico h present >>= fun a =>
        pure ((a.bind (·.toOption)).map Record.Calico.ofObject,
          (((a.bind objectFailure?).map Failure.calico).toList).map (·.error)) := by
  unfold CustomResources.calico OperatorAnswers.askCalico
  cases present with
  | false => rfl
  | true =>
    simp only [if_true]
    cases h.catalog.find? "crd.projectcalico.org/v1" "ClusterInformation" with
    | none => rfl
    | some served =>
      simp only [Handle.once_get?_eq, bind_assoc, pure_bind]
      congr 1
      funext answer
      rw [absentAsNone_eq]
      cases hfail : objectFailure? answer with
      | none => simp [hfail]
      | some e =>
        cases answer with
        | ok found => cases hfail
        | error e => simp [hfail, Failure.error, Except.toOption]

theorem collect_customResources (h : Handle σ) (inv : Inventory) :
    (customResources h).collect inv = OperatorAnswers.ask h >>= fun a =>
      pure ({ inv with customResources := a.record h.catalog },
        .ok (a.failures.map (·.error))) := by
  simp only [customResources, Domain.steady, summarize_eq, calico_eq, OperatorAnswers.ask,
    OperatorAnswers.failures, OperatorAnswers.record, Kind.backups, Kind.schedules,
    Kind.dbInstances, Kind.rabbitMqClusters, bind_assoc, pure_bind, List.map_append]

end ClusterInventory.Collection
