import Mathlib.Data.List.Nodup
import ClusterInventory.Workloads.Assembly

/-!
# What the listed objects are recorded as

Whatever a mapper makes of an object, the record names the kind of the listing and has the
metadata of the object, and no root owner yet (`faithful_of_mem_sources`). Hence a record is told
from all others by kind, namespace and name as its object is (`nodup_key_sources`).
-/

namespace ClusterInventory

theorem Attempt.bind_eq_value {α β : Type} {x : Attempt α} {f : α → Attempt β} {b : β} :
    x >>= f = .value b ↔ ∃ a, x = .value a ∧ f a = .value b := by
  cases x with
  | value a => simp
  | failed chain => simp
  | broken breakdown => simp

/-- The full name of an object within its kind; a missing name is empty. -/
def Object.Meta.fullName (m : Object.Meta) : Option String × String := (m.namespace, m.shownName)

namespace Record.Workload

/-- A record of an object with metadata `m` under the kind that `typeMeta` says. -/
structure Records (w : Record.Workload) (typeMeta : TypeMeta) (m : Object.Meta) : Prop where
  typeMeta_eq : w.typeMeta = typeMeta
  objectMeta_eq : w.objectMeta = .ofObject m
  rootOwner_eq : w.rootOwner = none

theorem records_ofParts (typeMeta : TypeMeta) (m : Object.Meta)
    (spec status : List (String × Document)) :
    (ofParts typeMeta m spec status).Records typeMeta m :=
  ⟨rfl, rfl, rfl⟩

variable {w : Record.Workload}

theorem records_ofDeployment {o : Object.Replicated} (h : ofDeployment o = .value w) :
    w.Records (.ofKind "apps" "v1" "Deployment") o.objectMeta := by
  obtain ⟨_, _, ⟨⟩⟩ := Attempt.bind_eq_value.1 h
  exact records_ofParts ..

theorem records_ofStatefulSet {o : Object.Replicated} (h : ofStatefulSet o = .value w) :
    w.Records (.ofKind "apps" "v1" "StatefulSet") o.objectMeta := by
  obtain ⟨_, _, ⟨⟩⟩ := Attempt.bind_eq_value.1 h
  exact records_ofParts ..

theorem records_ofReplicaSet {o : Object.Replicated} (h : ofReplicaSet o = .value w) :
    w.Records (.ofKind "apps" "v1" "ReplicaSet") o.objectMeta := by
  obtain ⟨_, _, ⟨⟩⟩ := Attempt.bind_eq_value.1 h
  exact records_ofParts ..

theorem records_ofDaemonSet {o : Object.Replicated} (h : ofDaemonSet o = .value w) :
    w.Records (.ofKind "apps" "v1" "DaemonSet") o.objectMeta := by
  obtain ⟨_, _, ⟨⟩⟩ := Attempt.bind_eq_value.1 h
  exact records_ofParts ..

theorem records_ofCronJobParts {version : String} {m : Object.Meta} {spec : Object.CronJobSpec}
    {status : Object.CronJobStatus} (h : ofCronJobParts version m spec status = .value w) :
    w.Records (.ofKind "batch" version "CronJob") m := by
  obtain ⟨_, _, ⟨⟩⟩ := Attempt.bind_eq_value.1 h
  exact records_ofParts ..

theorem records_ofJob {o : Object.Job} (h : ofJob o = .value w) :
    w.Records (.ofKind "batch" "v1" "Job") o.objectMeta := by
  obtain ⟨_, _, ⟨⟩⟩ := Attempt.bind_eq_value.1 h
  exact records_ofParts ..

theorem records_ofPod {o : Object.Pod} (h : ofPod o = .value w) :
    w.Records (.ofKind "" "v1" "Pod") o.objectMeta := by
  obtain ⟨_, _, h⟩ := Attempt.bind_eq_value.1 h
  obtain ⟨_, _, ⟨⟩⟩ := Attempt.bind_eq_value.1 h
  exact records_ofParts ..

end Record.Workload

namespace CronJobObject

/-- The API version of either generation. -/
def version : CronJobObject → String
  | .v1 _ => "v1"
  | .v1beta1 _ => "v1beta1"

theorem records_toWorkload {o : CronJobObject} {w : Record.Workload} (h : o.toWorkload = .value w) :
    w.Records (.ofKind "batch" o.version "CronJob") o.objectMeta := by
  cases o with
  | v1 o => exact Record.Workload.records_ofCronJobParts h
  | v1beta1 o =>
    simp only [toWorkload] at h
    split at h
    · cases h
    · obtain ⟨spec, _, h⟩ := Attempt.bind_eq_value.1 h
      split at h
      · exact Record.Workload.records_ofCronJobParts h
      · obtain ⟨status, _, h⟩ := Attempt.bind_eq_value.1 h
        exact Record.Workload.records_ofCronJobParts h

end CronJobObject

namespace Workloads

/-- What tells an object from all others. -/
def Source.key (src : Source) : String × Option String × String :=
  (src.kind, src.objectMeta.fullName)

/-- What of a record tells it from all others of a pass. -/
def recordKey (w : Record.Workload) : String × Option String × String :=
  (w.typeMeta.kind, w.objectMeta.namespace, w.objectMeta.name)

/-- The mapper of a listed object gives a record of that object. -/
def Source.Faithful (src : Source) : Prop :=
  ∀ w, src.record = .value w →
    ∃ group version, w.Records (.ofKind group version src.kind) src.objectMeta

theorem Source.Faithful.recordKey {src : Source} (h : src.Faithful) {w : Record.Workload}
    (hw : src.record = .value w) : recordKey w = src.key := by
  obtain ⟨group, version, hrec⟩ := h w hw
  simp only [Workloads.recordKey, hrec.typeMeta_eq, hrec.objectMeta_eq]
  rfl

/-- The groups and kinds of the workloads that are listed. -/
def listedAs : List (String × String) :=
  [("apps", "Deployment"), ("apps", "StatefulSet"), ("apps", "ReplicaSet"), ("apps", "DaemonSet"),
    ("batch", "CronJob"), ("batch", "Job"), ("", "Pod")]

theorem exists_group_of_mem_sources {o : Objects} {src : Source} (h : src ∈ o.sources)
    {w : Record.Workload} (hw : src.record = .value w) :
    ∃ group version, (group, src.kind) ∈ listedAs ∧
      w.Records (.ofKind group version src.kind) src.objectMeta := by
  simp only [Objects.sources, List.mem_append, List.mem_map] at h
  obtain (((((⟨d, _, rfl⟩ | ⟨d, _, rfl⟩) | ⟨d, _, rfl⟩) | ⟨d, _, rfl⟩) | ⟨d, _, rfl⟩) |
    ⟨d, _, rfl⟩) | ⟨d, _, rfl⟩ := h
  · exact ⟨"apps", _, by simp [listedAs], Record.Workload.records_ofDeployment hw⟩
  · exact ⟨"apps", _, by simp [listedAs], Record.Workload.records_ofStatefulSet hw⟩
  · exact ⟨"apps", _, by simp [listedAs], Record.Workload.records_ofReplicaSet hw⟩
  · exact ⟨"apps", _, by simp [listedAs], Record.Workload.records_ofDaemonSet hw⟩
  · exact ⟨"batch", _, by simp [listedAs], CronJobObject.records_toWorkload hw⟩
  · exact ⟨"batch", _, by simp [listedAs], Record.Workload.records_ofJob hw⟩
  · exact ⟨"", _, by simp [listedAs], Record.Workload.records_ofPod hw⟩

theorem faithful_of_mem_sources {o : Objects} {src : Source} (h : src ∈ o.sources) :
    src.Faithful := by
  intro w hw
  obtain ⟨group, version, -, hrec⟩ := exists_group_of_mem_sources h hw
  exact ⟨group, version, hrec⟩

/-- The full names in each of the seven listings, with the kind of their objects. -/
def Objects.names (o : Objects) : List (String × List (Option String × String)) :=
  [("Deployment", o.deployments.map (·.objectMeta.fullName)),
    ("StatefulSet", o.statefulSets.map (·.objectMeta.fullName)),
    ("ReplicaSet", o.replicaSets.map (·.objectMeta.fullName)),
    ("DaemonSet", o.daemonSets.map (·.objectMeta.fullName)),
    ("CronJob", o.cronJobs.map (·.objectMeta.fullName)),
    ("Job", o.jobs.map (·.objectMeta.fullName)),
    ("Pod", o.pods.map (·.objectMeta.fullName))]

/-- No listing holds two objects of one full name. -/
def Objects.NamesDistinct (o : Objects) : Prop := ∀ listing ∈ o.names, listing.2.Nodup

theorem map_key_sources (o : Objects) :
    o.sources.map Source.key = o.names.flatMap fun l => l.2.map (l.1, ·) := by
  simp [Objects.sources, Objects.names, Source.key, Function.comp_def]

theorem nodup_key_sources {o : Objects} (h : o.NamesDistinct) :
    (o.sources.map Source.key).Nodup := by
  rw [map_key_sources, List.nodup_flatMap]
  refine ⟨fun l hl => (h l hl).map (fun _ _ => by simp), ?_⟩
  -- two listings have no key in common, since their kinds differ
  have hkinds : (o.names.map (·.1)).Nodup := by simp [Objects.names]
  refine (List.pairwise_map.1 hkinds).imp fun hne => List.disjoint_left.2 fun key hl hl' => ?_
  obtain ⟨_, _, rfl⟩ := List.mem_map.1 hl
  obtain ⟨_, _, heq⟩ := List.mem_map.1 hl'
  exact hne (congrArg Prod.fst heq).symm

end Workloads

end ClusterInventory
