import ClusterInventory.CollectError
import ClusterInventory.Mapping.CustomResources
import ClusterInventory.Mapping.Node
import ClusterInventory.Mapping.Storage
import ClusterInventory.Proofs.Quantity.Grammar
import ClusterInventory.Proofs.Workloads.Plain

/-!
# Where mapping breaks off

The exponent of a quantity fits in 32 bits, but processor time is counted in thousandths, and the
sum of the exponent and three need not fit (`Quantity.Overflows`). A mapper breaks off over a
processor time of this kind, and over nothing else (`Mapped.broken_iff`).
-/

namespace ClusterInventory

/-! ## Sums of exponents -/

namespace Quantity

/-- The exponent of the quantity and three have a sum that does not fit in 32 bits with sign. -/
def Overflows (text : String) : Prop :=
  ∃ m e, read? text = some ⟨m, .decimal e⟩ ∧ 2147483647 < e + 3

instance (text : String) : Decidable (Overflows text) :=
  match h : read? text with
  | some ⟨m, .decimal e⟩ => decidable_of_iff (2147483647 < e + 3) (by simp [Overflows, h])
  | some ⟨m, .binary p⟩ => isFalse (by simp [Overflows, h])
  | none => isFalse (by simp [Overflows, h])

theorem addExponents_of_lt {a b : Int} (h : 2147483647 < a + b) :
    addExponents a b = .broken .overflow := by
  simp [addExponents, Int.not_le.2 h]

end Quantity

/-! ## Work on processor times -/

namespace Attempt

open Quantity (Overflows)

variable {α β : Type} {x : Attempt α} {f : α → Attempt β} {texts texts' : List String}

/-- The work adds up the exponents of these processor times: it has a value unless a sum overflows,
and breaks off when one does. -/
structure Counts (x : Attempt α) (texts : List String) : Prop where
  value : (∀ t ∈ texts, ¬ Overflows t) → ∃ a, x = .value a
  broken : ∀ t ∈ texts, Overflows t → x = .broken .overflow

theorem bind_eq_broken {b : Breakdown} :
    x >>= f = .broken b ↔ x = .broken b ∨ ∃ a, x = .value a ∧ f a = .broken b := by
  cases x with
  | value a => simp
  | failed chain => simp
  | broken b' => simp

theorem Counts.pure (a : α) : Counts (.value a) [] where
  value _ := ⟨a, rfl⟩
  broken := by simp

theorem Counts.bind (hx : x.Counts texts) (hf : ∀ a, (f a).Counts texts') :
    (x >>= f).Counts (texts ++ texts') where
  value h := by
    obtain ⟨a, rfl⟩ := hx.value fun t ht => h t (List.mem_append_left _ ht)
    exact (hf a).value fun t ht => h t (List.mem_append_right _ ht)
  broken t ht hover := by
    -- the first processor time that overflows may be one of those before `t`
    by_cases hbefore : ∃ s ∈ texts, Overflows s
    · obtain ⟨s, hs, hs'⟩ := hbefore
      rw [hx.broken s hs hs', broken_bind]
    · obtain ⟨a, rfl⟩ := hx.value fun s hs hs' => hbefore ⟨s, hs, hs'⟩
      obtain ht | ht := List.mem_append.1 ht
      · exact absurd ⟨t, ht, hover⟩ hbefore
      · exact (hf a).broken t ht hover

/-- No processor time is met any more after these. -/
theorem Counts.bind_last (hx : x.Counts texts) (hf : ∀ a, (f a).Counts []) :
    (x >>= f).Counts texts := by
  simpa using hx.bind hf

theorem Counts.map (hx : x.Counts texts) (g : α → β) :
    (x >>= fun a => (.value (g a) : Attempt β)).Counts texts :=
  hx.bind_last fun a => .pure (g a)

theorem Counts.mapM {as : List α} {texts : α → List String} (h : ∀ a, (f a).Counts (texts a)) :
    (as.mapM f).Counts (as.flatMap texts) := by
  induction as with
  | nil => exact .pure []
  | cons a as ih =>
    rw [List.mapM_cons, List.flatMap_cons]
    exact (h a).bind fun b => ih.map (b :: ·)

theorem Counts.value_or_broken (h : x.Counts texts) :
    (∃ a, x = .value a) ∨ x = .broken .overflow ∧ ∃ t ∈ texts, Overflows t := by
  by_cases hover : ∃ t ∈ texts, Overflows t
  · obtain ⟨t, ht, hover'⟩ := hover
    exact .inr ⟨h.broken t ht hover', t, ht, hover'⟩
  · exact .inl (h.value fun t ht hover' => hover ⟨t, ht, hover'⟩)

theorem Counts.ne_failed (h : x.Counts texts) (chain : List String) : x ≠ .failed chain := by
  obtain ⟨a, rfl⟩ | ⟨rfl, -⟩ := h.value_or_broken <;> simp

theorem Counts.broken_iff (h : x.Counts texts) (b : Breakdown) :
    x = .broken b ↔ b = .overflow ∧ ∃ t ∈ texts, Overflows t := by
  constructor
  · rintro rfl
    obtain ⟨a, ⟨⟩⟩ | ⟨⟨⟩, hover⟩ := h.value_or_broken
    exact ⟨rfl, hover⟩
  · rintro ⟨rfl, t, ht, hover⟩
    exact h.broken t ht hover

end Attempt

namespace Quantity

/-- Base units are counted without any sum that could overflow. -/
theorem counts_value (s : Option String) : (value s).Counts [] := by
  suffices h : ∃ n, value s = .value n by
    obtain ⟨n, hn⟩ := h
    exact hn ▸ .pure n
  unfold value wholeUnits
  split
  · exact ⟨0, rfl⟩
  · next q hq =>
    obtain ⟨t, -, hq⟩ := Option.bind_eq_some_iff.1 hq
    obtain ⟨suffix, hscale⟩ := scale?_of_read? hq
    obtain ⟨x, hx⟩ := exists_inUnits hq (Int.le_refl 0) fun e he => by
      have := (exponent_mem_of_scale? (he ▸ hscale)).2
      omega
    exact ⟨roundUp x, by rw [hx]; rfl⟩

theorem counts_milliValue (s : Option String) : (milliValue s).Counts s.toList where
  value h := by
    unfold milliValue wholeUnits
    split
    · exact ⟨0, rfl⟩
    · next q hq =>
      obtain ⟨t, rfl, hq⟩ := Option.bind_eq_some_iff.1 hq
      obtain ⟨x, hx⟩ := exists_inUnits hq (by decide : (0 : Int) ≤ 3) fun e he => by
        have hfits : ¬ Overflows t := h t (by simp)
        exact Int.not_lt.1 fun hlt => hfits ⟨q.mantissa, e, he ▸ hq, hlt⟩
      exact ⟨roundUp x, by rw [hx]; rfl⟩
  broken t ht hover := by
    obtain rfl : s = some t := by simpa using ht
    obtain ⟨m, e, hread, hlt⟩ := hover
    have hbroken : (⟨m, .decimal e⟩ : Amount).inUnits 3 = .broken .overflow := by
      simp only [Amount.inUnits, addExponents_of_lt hlt]
      rfl
    simp only [milliValue, wholeUnits, Option.bind_some, hread, hbroken]
    rfl

end Quantity

/-! ## The processor times of an object -/

namespace Object

/-- The processor time among some resource quantities. -/
def processorTime (quantities : Option (StringMap String)) : List String :=
  ((quantities.getD .empty).find? "cpu").toList

def Container.processorTimes (c : Container) : List String :=
  processorTime c.limits ++ processorTime c.requests

def PodSpec.processorTimes (s : PodSpec) : List String :=
  s.containers.flatMap Container.processorTimes ++
    (s.initContainers.getD []).flatMap Container.processorTimes

def PodTemplate.processorTimes (t : PodTemplate) : List String :=
  (t.spec.getD {}).processorTimes

def Replicated.processorTimes (o : Replicated) : List String :=
  (o.spec.template.getD {}).processorTimes

def JobSpec.processorTimes (s : JobSpec) : List String := (s.template.getD {}).processorTimes

def Job.processorTimes (o : Job) : List String := (o.spec.getD {}).processorTimes

def CronJobSpec.processorTimes (s : CronJobSpec) : List String :=
  (s.jobSpec.getD {}).processorTimes

def Pod.processorTimes (o : Pod) : List String := (o.spec.getD {}).processorTimes

def Node.processorTimes (o : Node) : List String :=
  let status := o.status.getD {}
  processorTime status.capacity ++ processorTime status.allocatable

end Object

namespace CronJobObject

/-- The specification and the status of a scheduled job of the earlier generation. -/
def readParts (o : Object.Dynamic) : Attempt (Object.CronJobSpec × Object.CronJobStatus) :=
  match o.data.get? "spec" with
  | none => .failed ["missing spec"]
  | some j => do
    let spec ← readPart Object.CronJobSpec.reader j
    let status ← match o.data.get? "status" with
      | none => pure {}
      | some j => readPart Object.CronJobStatus.reader j
    return (spec, status)

theorem toWorkload_v1beta1 (o : Object.Dynamic) :
    (v1beta1 o).toWorkload =
      readParts o >>= fun p => Record.Workload.ofCronJobParts "v1beta1" o.objectMeta p.1 p.2 := by
  simp only [toWorkload, readParts]
  cases o.data.get? "spec" with
  | none => rfl
  | some j =>
    cases o.data.get? "status" with
    | none => simp only [bind_assoc, pure_bind]
    | some j' => simp only [bind_assoc, pure_bind]

/-- The processor times of a scheduled job. One of the earlier generation is mapped, and has any,
only if its parts can be read. -/
def processorTimes : CronJobObject → List String
  | .v1 o => (o.spec.getD {}).processorTimes
  | .v1beta1 o =>
    match readParts o with
    | .value (spec, _) => spec.processorTimes
    | _ => []

end CronJobObject

/-! ## What the mappers count -/

namespace Record

open Quantity (counts_milliValue counts_value)

theorem Node.counts_ofObject (o : Object.Node) : (ofObject o).Counts o.processorTimes :=
  .bind (counts_milliValue _) fun _ => .bind_last (counts_milliValue _) fun _ =>
    .bind (counts_value _) fun _ => .map (counts_value _) _

theorem PersistentVolume.counts_ofObject (o : Object.PersistentVolume) : (ofObject o).Counts [] :=
  .map (counts_value _) _

namespace Workload

open Object (Container PodTemplate)

theorem counts_containerDocument (c : Container) :
    (containerDocument c).Counts c.processorTimes :=
  .bind (counts_milliValue _) fun _ => .bind (counts_value _) fun _ =>
    .bind_last (counts_milliValue _) fun _ => .map (counts_value _) _

theorem counts_containersDocument (cs : List Container) :
    (containersDocument cs).Counts (cs.flatMap Container.processorTimes) :=
  .map (.mapM counts_containerDocument) _

theorem counts_templateDocument (t : PodTemplate) :
    (templateDocument t).Counts t.processorTimes :=
  .bind (counts_containersDocument _) fun _ => .map (counts_containersDocument _) _

theorem counts_templateOrNull (t : Option PodTemplate) :
    (templateOrNull t).Counts (t.getD {}).processorTimes := by
  cases t with
  | none => exact .pure Document.null
  | some t => exact counts_templateDocument t

variable (o : Object.Replicated)

theorem counts_ofDeployment : (ofDeployment o).Counts o.processorTimes :=
  .map (counts_templateDocument _) _

theorem counts_ofStatefulSet : (ofStatefulSet o).Counts o.processorTimes :=
  .map (counts_templateDocument _) _

theorem counts_ofReplicaSet : (ofReplicaSet o).Counts o.processorTimes :=
  .map (counts_templateOrNull _) _

theorem counts_ofDaemonSet : (ofDaemonSet o).Counts o.processorTimes :=
  .map (counts_templateDocument _) _

theorem counts_ofCronJobParts (version : String) (m : Object.Meta) (spec : Object.CronJobSpec)
    (status : Object.CronJobStatus) :
    (ofCronJobParts version m spec status).Counts spec.processorTimes := by
  have htemplate : ((spec.jobSpec.map fun job : Object.JobSpec => job.template.getD {}).getD
      {}).processorTimes = spec.processorTimes := by
    unfold Object.CronJobSpec.processorTimes
    cases spec.jobSpec <;> rfl
  rw [← htemplate]
  exact .map (counts_templateOrNull _) _

theorem counts_ofJob (o : Object.Job) : (ofJob o).Counts o.processorTimes :=
  .map (counts_templateDocument _) _

theorem counts_ofPod (o : Object.Pod) : (ofPod o).Counts o.processorTimes :=
  .bind (counts_containersDocument _) fun _ => .map (counts_containersDocument _) _

end Workload

end Record

namespace CronJobObject

/-- A part of an object is read, or the mapping fails. -/
theorem readParts_ne_broken (o : Object.Dynamic) (b : Breakdown) : readParts o ≠ .broken b := by
  have hpart {α : Type} (r : Object.Reader α) (j : Json) : readPart r j ≠ .broken b := by
    unfold readPart
    split <;> simp
  intro h
  unfold readParts at h
  split at h
  · cases h
  · obtain hspec | ⟨spec, -, h⟩ := Attempt.bind_eq_broken.1 h
    · exact hpart _ _ hspec
    · split at h
      · cases h
      · obtain hstatus | ⟨status, -, ⟨⟩⟩ := Attempt.bind_eq_broken.1 h
        exact hpart _ _ hstatus

theorem broken_iff_toWorkload (o : CronJobObject) (b : Breakdown) :
    o.toWorkload = .broken b ↔
      b = .overflow ∧ ∃ t ∈ o.processorTimes, Quantity.Overflows t := by
  cases o with
  | v1 o => exact (Record.Workload.counts_ofCronJobParts ..).broken_iff b
  | v1beta1 o =>
    simp only [toWorkload_v1beta1, processorTimes]
    cases hparts : readParts o with
    | value parts => exact (Record.Workload.counts_ofCronJobParts ..).broken_iff b
    | failed chain => simp
    | broken b' => exact absurd hparts (readParts_ne_broken o b')

end CronJobObject

/-! ## Breakdowns -/

/-- An object, for the mapper that takes it. -/
inductive Mapped where
  | node (o : Object.Node)
  | persistentVolume (o : Object.PersistentVolume)
  | storageClass (o : Object.StorageClass)
  | networkPolicy (o : Object.NetworkPolicy)
  | «namespace» (o : Object.Namespace)
  | deployment (o : Object.Replicated)
  | statefulSet (o : Object.Replicated)
  | replicaSet (o : Object.Replicated)
  | daemonSet (o : Object.Replicated)
  | cronJob (o : CronJobObject)
  | job (o : Object.Job)
  | pod (o : Object.Pod)
  | veleroBackup (o : Object.Dynamic)
  | veleroSchedule (o : Object.Dynamic)
  | dbInstance (o : Object.Dynamic)
  | rabbitMqCluster (o : Object.Dynamic)
  /-- Its mapper has no outcome but a record. -/
  | calico (o : Object.Dynamic)

namespace Mapped

/-- The type of its record. -/
def Record : Mapped → Type
  | node _ => Record.Node
  | persistentVolume _ => Record.PersistentVolume
  | storageClass _ => Record.StorageClass
  | networkPolicy _ => Record.NetworkPolicy
  | «namespace» _ => Record.Namespace
  | deployment _ | statefulSet _ | replicaSet _ | daemonSet _ | cronJob _ | job _ | pod _ =>
    Record.Workload
  | veleroBackup _ => Record.VeleroBackup
  | veleroSchedule _ => Record.VeleroSchedule
  | dbInstance _ => Record.DbInstance
  | rabbitMqCluster _ => Record.RabbitMqCluster
  | calico _ => Record.Calico

def record : (x : Mapped) → Attempt x.Record
  | node o => Record.Node.ofObject o
  | persistentVolume o => Record.PersistentVolume.ofObject o
  | storageClass o => Record.StorageClass.ofObject o
  | networkPolicy o => Record.NetworkPolicy.ofObject o
  | «namespace» o => Record.Namespace.ofObject o
  | deployment o => Record.Workload.ofDeployment o
  | statefulSet o => Record.Workload.ofStatefulSet o
  | replicaSet o => Record.Workload.ofReplicaSet o
  | daemonSet o => Record.Workload.ofDaemonSet o
  | cronJob o => o.toWorkload
  | job o => Record.Workload.ofJob o
  | pod o => Record.Workload.ofPod o
  | veleroBackup o => Record.VeleroBackup.ofObject o
  | veleroSchedule o => Record.VeleroSchedule.ofObject o
  | dbInstance o => Record.DbInstance.ofObject o
  | rabbitMqCluster o => Record.RabbitMqCluster.ofObject o
  | calico o => .value (Record.Calico.ofObject o)

def processorTimes : Mapped → List String
  | node o => o.processorTimes
  | deployment o | statefulSet o | replicaSet o | daemonSet o => o.processorTimes
  | cronJob o => o.processorTimes
  | job o => o.processorTimes
  | pod o => o.processorTimes
  | _ => []

theorem broken_iff (x : Mapped) (b : Breakdown) :
    x.record = .broken b ↔ b = .overflow ∧ ∃ t ∈ x.processorTimes, Quantity.Overflows t := by
  cases x with
  | node o => exact (Record.Node.counts_ofObject o).broken_iff b
  | persistentVolume o => exact (Record.PersistentVolume.counts_ofObject o).broken_iff b
  | deployment o => exact (Record.Workload.counts_ofDeployment o).broken_iff b
  | statefulSet o => exact (Record.Workload.counts_ofStatefulSet o).broken_iff b
  | replicaSet o => exact (Record.Workload.counts_ofReplicaSet o).broken_iff b
  | daemonSet o => exact (Record.Workload.counts_ofDaemonSet o).broken_iff b
  | cronJob o => exact o.broken_iff_toWorkload b
  | job o => exact (Record.Workload.counts_ofJob o).broken_iff b
  | pod o => exact (Record.Workload.counts_ofPod o).broken_iff b
  | _ => exact (Attempt.Counts.pure _).broken_iff b

end Mapped

/-- Where the mapping of an object breaks off.

* It does so over processor times, by an overflow, and in no other way.
* The guard notes the overflow as the breakdown of a mapper.
* Base units are counted without a breakdown, and so are thousandths but of such processor times. -/
theorem mappers_break_over (x : Mapped) (domain subject : String) :
    (∀ b, x.record = .broken b ↔
      b = .overflow ∧ ∃ t ∈ x.processorTimes, Quantity.Overflows t) ∧
    ((∃ t ∈ x.processorTimes, Quantity.Overflows t) → guarded domain subject x.record =
      .error (.ofRecord domain subject "mapper panicked: attempt to add with overflow")) ∧
    (∀ s, ∃ n, Quantity.value s = .value n) ∧
    (∀ s, (∃ n, Quantity.milliValue s = .value n) ↔ ∀ t ∈ s, ¬ Quantity.Overflows t) := by
  refine ⟨x.broken_iff, fun hover => ?_, fun s => (Quantity.counts_value s).value (by simp),
    fun s => ⟨?_, fun h => ?_⟩⟩
  · rw [(x.broken_iff _).2 ⟨rfl, hover⟩]
    rfl
  · rintro ⟨n, hn⟩ t rfl hover
    cases hn.symm.trans ((Quantity.counts_milliValue (some t)).broken t (by simp) hover)
  · exact (Quantity.counts_milliValue s).value fun t ht => h t (by simpa using ht)

/-- A node with a processor time whose exponent fits in 32 bits. -/
def hugeNodeDocument : Json :=
  .obj [("metadata", .obj [("name", .str "n1")]),
    ("status", .obj [("capacity", .obj [("cpu", .str "1e2147483647")])])]

/-- The node can be read, but not mapped. -/
theorem ofObject_hugeNode :
    ∃ o, Object.Node.reader.whole hugeNodeDocument = .ok o ∧
      Record.Node.ofObject o = .broken .overflow ∧
      guarded "nodes" o.objectMeta.shownName (Record.Node.ofObject o) =
        .error (.ofRecord "nodes" "n1" "mapper panicked: attempt to add with overflow") :=
  ⟨_, rfl, rfl, rfl⟩

end ClusterInventory
