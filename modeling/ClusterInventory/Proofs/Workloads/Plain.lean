import ClusterInventory.Proofs.Json.Documents
import ClusterInventory.Proofs.Workloads.Contributions

/-!
# Workloads with plain documents

Whatever object is recorded, its specification and its status have no floats and a bounded depth
(`isPlain_of_mem_sources`), and so have all workloads of a pass (`isPlain_of_mem_assemble`).
-/

namespace ClusterInventory

namespace Attempt

variable {α β : Type}

instance : LawfulMonad Attempt := LawfulMonad.mk' Attempt
  (by rintro _ (_ | _ | _) <;> rfl)
  (fun _ _ => rfl)
  (by rintro _ _ _ (_ | _ | _) _ _ <;> rfl)

/-- Each of the values comes from one of the items. -/
theorem exists_of_mapM_eq_value {f : α → Attempt β} {as : List α} {bs : List β}
    (h : as.mapM f = .value bs) : ∀ b ∈ bs, ∃ a ∈ as, f a = .value b := by
  induction as generalizing bs with
  | nil =>
    cases h
    exact nofun
  | cons a as ih =>
    rw [List.mapM_cons] at h
    obtain ⟨b, hb, h⟩ := bind_eq_value.1 h
    obtain ⟨bs', hbs, ⟨⟩⟩ := bind_eq_value.1 h
    intro b' hb'
    rcases List.mem_cons.1 hb' with rfl | hb'
    · exact ⟨a, .head _, hb⟩
    · obtain ⟨a', ha', hf⟩ := ih hbs b' hb'
      exact ⟨a', .tail _ ha', hf⟩

end Attempt

namespace Record.Workload

open Document (Plain)

variable {n : Nat} {d : Document}

/-- What is specified of a workload and what is known of its state nest less than 100 levels deep
and have no floats. -/
structure IsPlain (w : Record.Workload) : Prop where
  spec : w.spec.Plain 100
  status : w.status.Plain 100

@[simp] theorem plain_count (i : Int) : (count i).Plain (n + 1) := Plain.int64 _

@[simp] theorem plain_moment (t : Instant) : (moment t).Plain (n + 1) := Plain.str _

theorem plain_containerDocument {c : Object.Container} (h : containerDocument c = .value d) :
    d.Plain (n + 2) := by
  obtain ⟨_, _, h⟩ := Attempt.bind_eq_value.1 h
  obtain ⟨_, _, h⟩ := Attempt.bind_eq_value.1 h
  obtain ⟨_, _, h⟩ := Attempt.bind_eq_value.1 h
  obtain ⟨_, _, ⟨⟩⟩ := Attempt.bind_eq_value.1 h
  exact Plain.object (by simp)

theorem plain_containersDocument {cs : List Object.Container}
    (h : containersDocument cs = .value d) : d.Plain (n + 3) := by
  obtain ⟨ds, hds, ⟨⟩⟩ := Attempt.bind_eq_value.1 h
  refine Plain.list fun d hd => ?_
  obtain ⟨c, _, hc⟩ := Attempt.exists_of_mapM_eq_value hds d hd
  exact plain_containerDocument hc

theorem plain_templateDocument {t : Object.PodTemplate} (h : templateDocument t = .value d) :
    d.Plain (n + 4) := by
  obtain ⟨_, hcs, h⟩ := Attempt.bind_eq_value.1 h
  obtain ⟨_, hinit, ⟨⟩⟩ := Attempt.bind_eq_value.1 h
  exact Plain.object (by simp [plain_containersDocument hcs, plain_containersDocument hinit])

theorem plain_templateOrNull {t : Option Object.PodTemplate} (h : templateOrNull t = .value d) :
    d.Plain (n + 4) := by
  cases t with
  | none =>
    cases h
    exact Plain.null
  | some t => exact plain_templateDocument h

theorem isPlain_ofParts {typeMeta : TypeMeta} {m : Object.Meta}
    {spec status : List (String × Document)} (hspec : ∀ e ∈ spec, e.2.Plain 99)
    (hstatus : ∀ e ∈ status, e.2.Plain 99) : (ofParts typeMeta m spec status).IsPlain :=
  ⟨.object hspec, .object hstatus⟩

variable {w : Record.Workload}

theorem isPlain_ofDeployment {o : Object.Replicated} (h : ofDeployment o = .value w) :
    w.IsPlain := by
  obtain ⟨_, ht, ⟨⟩⟩ := Attempt.bind_eq_value.1 h
  exact isPlain_ofParts (by simp [Plain.ofOption, plain_templateDocument ht]) (by simp)

theorem isPlain_ofStatefulSet {o : Object.Replicated} (h : ofStatefulSet o = .value w) :
    w.IsPlain := by
  obtain ⟨_, ht, ⟨⟩⟩ := Attempt.bind_eq_value.1 h
  exact isPlain_ofParts (by simp [Plain.ofOption, plain_templateDocument ht]) (by simp)

theorem isPlain_ofReplicaSet {o : Object.Replicated} (h : ofReplicaSet o = .value w) :
    w.IsPlain := by
  obtain ⟨_, ht, ⟨⟩⟩ := Attempt.bind_eq_value.1 h
  exact isPlain_ofParts (by simp [Plain.ofOption, plain_templateOrNull ht]) (by simp)

theorem isPlain_ofDaemonSet {o : Object.Replicated} (h : ofDaemonSet o = .value w) :
    w.IsPlain := by
  obtain ⟨_, ht, ⟨⟩⟩ := Attempt.bind_eq_value.1 h
  exact isPlain_ofParts (by simp [plain_templateDocument ht]) (by simp)

theorem isPlain_ofCronJobParts {version : String} {m : Object.Meta} {spec : Object.CronJobSpec}
    {status : Object.CronJobStatus} (h : ofCronJobParts version m spec status = .value w) :
    w.IsPlain := by
  obtain ⟨_, ht, ⟨⟩⟩ := Attempt.bind_eq_value.1 h
  exact isPlain_ofParts (by simp [plain_templateOrNull ht]) (by simp [Plain.ofOption])

theorem isPlain_ofJob {o : Object.Job} (h : ofJob o = .value w) : w.IsPlain := by
  obtain ⟨_, ht, ⟨⟩⟩ := Attempt.bind_eq_value.1 h
  exact isPlain_ofParts (by simp [Plain.ofOption, plain_templateDocument ht])
    (by simp [Plain.ofOption])

@[simp] theorem plain_volumeDocument (v : Object.Volume) : (volumeDocument v).Plain (n + 2) :=
  .object (by simp)

@[simp] theorem plain_conditionDocument (c : Object.PodCondition) :
    (conditionDocument c).Plain (n + 2) :=
  .object (by simp [Plain.ofOption])

@[simp] theorem plain_containerStatusDocument (c : Object.ContainerStatus) :
    (containerStatusDocument c).Plain (n + 2) :=
  .object (by simp)

theorem isPlain_ofPod {o : Object.Pod} (h : ofPod o = .value w) : w.IsPlain := by
  obtain ⟨_, hcs, h⟩ := Attempt.bind_eq_value.1 h
  obtain ⟨_, hinit, ⟨⟩⟩ := Attempt.bind_eq_value.1 h
  exact isPlain_ofParts
    (by simp [Plain.ofOption, Plain.list, plain_containersDocument hcs,
      plain_containersDocument hinit])
    (by simp [Plain.ofOption, Plain.list])

theorem isPlain_placeholder (typeMeta : TypeMeta) (m : ObjectMeta) :
    (placeholder typeMeta m).IsPlain :=
  ⟨.emptyObject, .emptyObject⟩

end Record.Workload

theorem CronJobObject.isPlain_toWorkload {o : CronJobObject} {w : Record.Workload}
    (h : o.toWorkload = .value w) : w.IsPlain := by
  cases o with
  | v1 o => exact Record.Workload.isPlain_ofCronJobParts h
  | v1beta1 o =>
    simp only [toWorkload] at h
    split at h
    · cases h
    · obtain ⟨spec, _, h⟩ := Attempt.bind_eq_value.1 h
      split at h
      · exact Record.Workload.isPlain_ofCronJobParts h
      · obtain ⟨status, _, h⟩ := Attempt.bind_eq_value.1 h
        exact Record.Workload.isPlain_ofCronJobParts h

namespace Workloads

open Ownership (Fetcher Session)
open Record (Workload)

variable {σ : Type}

/-- All that the mappers build is plain. -/
theorem isPlain_of_mem_sources {o : Objects} {src : Source} (h : src ∈ o.sources) {w : Workload}
    (hw : src.record = .value w) : w.IsPlain := by
  simp only [Objects.sources, List.mem_append, List.mem_map] at h
  obtain (((((⟨d, _, rfl⟩ | ⟨d, _, rfl⟩) | ⟨d, _, rfl⟩) | ⟨d, _, rfl⟩) | ⟨d, _, rfl⟩) |
    ⟨d, _, rfl⟩) | ⟨d, _, rfl⟩ := h
  · exact Workload.isPlain_ofDeployment hw
  · exact Workload.isPlain_ofStatefulSet hw
  · exact Workload.isPlain_ofReplicaSet hw
  · exact Workload.isPlain_ofDaemonSet hw
  · exact CronJobObject.isPlain_toWorkload hw
  · exact Workload.isPlain_ofJob hw
  · exact Workload.isPlain_ofPod hw

/-- What an object contributes is plain if its record is. -/
theorem Contributes.isPlain {src : Source} {outcome : Ownership.Outcome} {c : Contribution}
    (h : Contributes src outcome c) (hsrc : ∀ w, src.record = .value w → w.IsPlain)
    (hout : ∀ res, outcome = .ok (some res) → res.placeholder.IsPlain) :
    (∀ w ∈ c.records, w.IsPlain) ∧ ∀ p ∈ c.placeholders, p.IsPlain := by
  cases h with
  | failed => exact ⟨List.forall_mem_nil _, List.forall_mem_nil _⟩
  | broken => exact ⟨List.forall_mem_nil _, List.forall_mem_nil _⟩
  | rooted hw hres =>
    have hplain := hsrc _ hw
    exact ⟨List.forall_mem_singleton.2 ⟨hplain.spec, hplain.status⟩,
      List.forall_mem_singleton.2 (hout _ hres)⟩
  | rootless hw => exact ⟨List.forall_mem_singleton.2 (hsrc _ hw), List.forall_mem_nil _⟩
  | unresolved hw => exact ⟨List.forall_mem_singleton.2 (hsrc _ hw), List.forall_mem_nil _⟩

/-- All workloads of a pass are plain, placeholders included. -/
theorem isPlain_of_mem_assemble {fetch : Fetcher σ} {o : Objects} {world : σ} {w : Workload}
    (h : w ∈ (assemble fetch o world).1) : w.IsPlain := by
  have hcontribution : ∀ c ∈ (contributions fetch o.sources (.start world)).1,
      (∀ w ∈ c.records, w.IsPlain) ∧ ∀ p ∈ c.placeholders, p.IsPlain := by
    intro c hc
    obtain ⟨src, hsrc, s', rfl⟩ := exists_of_mem_contributions hc
    refine (contributes_contribute (faithful_of_mem_sources hsrc) fetch s').isPlain
      (fun w hw => isPlain_of_mem_sources hsrc hw) fun res hres => ?_
    obtain ⟨a, found, rfl⟩ := Ownership.exists_rootAt_of_resolve hres
    exact Workload.isPlain_placeholder ..
  rcases mem_of_mem_merge h with h | h
  · obtain ⟨c, hc, hw⟩ := List.mem_flatMap.1 h
    exact (hcontribution c hc).1 w hw
  · obtain ⟨c, hc, hw⟩ := List.mem_flatMap.1 h
    exact (hcontribution c hc).2 w hw

end Workloads

end ClusterInventory
