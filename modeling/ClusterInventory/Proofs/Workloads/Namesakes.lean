import ClusterInventory.Proofs.Ownership.Root
import ClusterInventory.Proofs.Workloads.Integrity
import ClusterInventory.Proofs.Workloads.Isolation

/-!
# One object under several versions

The version is part of the identity of a workload. A mapper has one version for its kind, a root
owner the version by which it was referred to. `assemble_namesakes` says what becomes of an object
that is listed under one version and referred to under another one.
-/

namespace ClusterInventory

/-- The same identity under another version. -/
def Record.WorkloadId.withVersion (i : WorkloadId) (version : String) : WorkloadId :=
  { i with version }

namespace Workloads

open Api (ObjectRef)
open Ownership (Answer Fetcher Session RootedAt resolve rootAt)
open Record (Workload WorkloadId)

/-! ## Objects and the addresses that name them -/

/-- The identity that an address speaks of. -/
def spokenId (r : ObjectRef) : WorkloadId :=
  { group := Record.recordedGroup (Api.splitApiVersion r.apiVersion).1
    version := (Api.splitApiVersion r.apiVersion).2
    kind := r.kind, «namespace» := r.namespace, name := r.name }

/-- The address speaks of the workload under some version. -/
def Names (r : ObjectRef) (w : Workload) : Prop :=
  spokenId r = w.id.withVersion (spokenId r).version

/-- The object is listed, and `w` is what its mapper makes of it. -/
structure Objects.Maps (o : Objects) (src : Source) (w : Workload) : Prop where
  listed : src ∈ o.sources
  record : src.record = .value w

/-- The objects are listed from a cluster that serves each with the same metadata under every
version: where an address that names a mapped object finds something, it is that object. -/
def Objects.ListedFrom (o : Objects) (answers : ObjectRef → Answer) : Prop :=
  ∀ src w, o.Maps src w → ∀ r found, Names r w → answers r = .ok (some found) →
    found.objectMeta = src.objectMeta

variable {σ : Type} {fetch : Fetcher σ} {answers : ObjectRef → Answer} {world : σ} {o : Objects}
  {src : Source} {v w : Workload} {i : WorkloadId} {r : ObjectRef}

/-- Found at an address that names it, a mapped object is the root under the version there. -/
theorem id_root_of_names (h : o.Maps src v) (hr : Names r v) :
    (rootAt r src.objectMeta).root.id = v.id.withVersion (spokenId r).version := by
  obtain ⟨group, version, hrec⟩ := faithful_of_mem_sources h.listed v h.record
  have hgroup : (spokenId r).group = v.id.group := congrArg (·.group) hr
  have hkind : (spokenId r).kind = v.id.kind := congrArg (·.kind) hr
  have hname : v.id.name = src.objectMeta.shownName := congrArg (·.name) hrec.objectMeta_eq
  have hnamespace : v.id.namespace = src.objectMeta.namespace :=
    congrArg (·.namespace) hrec.objectMeta_eq
  have hroot : (rootAt r src.objectMeta).root.id =
      ⟨(spokenId r).group, (spokenId r).version, (spokenId r).kind, src.objectMeta.namespace,
        src.objectMeta.shownName⟩ := by
    simp only [rootAt, Record.RootOwner.id, Ownership.recordedGroup_recordedGroup]
    rfl
  rw [hroot, hgroup, hkind, ← hname, ← hnamespace]
  rfl

/-! ## What a pass over a steady cluster is made of -/

/-- The records of the listed objects, each with its root owner. -/
def mapped (fetch : Fetcher σ) (o : Objects) (world : σ) : List Workload :=
  o.sources.flatMap fun src => (own fetch world src).records

/-- The root owners of the listed objects, as they would stand in the list. -/
def roots (fetch : Fetcher σ) (o : Objects) (world : σ) : List Workload :=
  o.sources.flatMap fun src => (own fetch world src).placeholders

theorem records_eq_mapped (h : fetch.Steady answers world) (o : Objects) :
    (contributions fetch o.sources (.start world)).1.flatMap (·.records) =
      mapped fetch o world := by
  rw [(contributions_eq_own (.start h) h o.sources).1, List.flatMap_map]
  rfl

theorem placeholders_eq_roots (h : fetch.Steady answers world) (o : Objects) :
    (contributions fetch o.sources (.start world)).1.flatMap (·.placeholders) =
      roots fetch o world := by
  rw [(contributions_eq_own (.start h) h o.sources).1, List.flatMap_map]
  rfl

theorem assemble_eq_merge (h : fetch.Steady answers world) (o : Objects) :
    (assemble fetch o world).1 = merge (mapped fetch o world) (roots fetch o world) := by
  rw [← records_eq_mapped h, ← placeholders_eq_roots h]
  rfl

theorem own_of_value (h : src.record = .value w) (fetch : Fetcher σ) (world : σ) :
    own fetch world src =
      .ofResolved src.subject w (resolve fetch src.objectMeta (.start world)).1 := by
  rw [own, contribute_of_value h]

theorem own_of_root (h : fetch.Steady answers world) (hw : src.record = .value w)
    {found : Object.Dynamic} (hr : RootedAt answers src.objectMeta r found) :
    own fetch world src =
      { records := [{ w with rootOwner := some (rootAt r found.objectMeta).root }]
        placeholders := [(rootAt r found.objectMeta).placeholder] } := by
  have hresolve := (Ownership.resolve_start_eq_root_iff h src.objectMeta _).2 ⟨r, found, hr, rfl⟩
  rw [own_of_value hw, hresolve]
  rfl

theorem id_mem_ids_own (h : src.record = .value w) (fetch : Fetcher σ) (world : σ) :
    w.id ∈ ids (own fetch world src).records := by
  rw [own_of_value h]
  rcases (resolve fetch src.objectMeta (.start world)).1 with e | _ | res
  · exact .head _
  · exact .head _
  · exact .head _

theorem id_mem_ids_mapped (h : o.Maps src w) (fetch : Fetcher σ) (world : σ) :
    w.id ∈ ids (mapped fetch o world) := by
  obtain ⟨x, hx, hid⟩ := List.mem_map.1 (id_mem_ids_own h.record fetch world)
  exact List.mem_map.2 ⟨x, List.mem_flatMap.2 ⟨src, h.listed, hx⟩, hid⟩

theorem mem_ids_roots_iff (h : fetch.Steady answers world) :
    i ∈ ids (roots fetch o world) ↔ ∃ src w, o.Maps src w ∧
      ∃ r found, RootedAt answers src.objectMeta r found ∧
        (rootAt r found.objectMeta).root.id = i := by
  constructor
  · intro hi
    obtain ⟨p, hp, rfl⟩ := List.mem_map.1 hi
    obtain ⟨src, hsrc, hp⟩ := List.mem_flatMap.1 hp
    have hcontributes := contributes_contribute (faithful_of_mem_sources hsrc) fetch (.start world)
    obtain ⟨w, res, hw, hres, rfl⟩ := hcontributes.exists_of_mem_placeholders hp
    obtain ⟨r, found, hr, rfl⟩ := (Ownership.resolve_start_eq_root_iff h _ res).1 hres
    exact ⟨src, w, ⟨hsrc, hw⟩, r, found, hr, Ownership.id_root_rootAt r found.objectMeta⟩
  · rintro ⟨src, w, hmaps, r, found, hr, rfl⟩
    have hp : (rootAt r found.objectMeta).placeholder ∈ roots fetch o world := by
      refine List.mem_flatMap.2 ⟨src, hmaps.listed, ?_⟩
      rw [own_of_root h hmaps.record hr]
      exact .head _
    rw [Ownership.id_root_rootAt]
    exact List.mem_map.2 ⟨_, hp, rfl⟩

/-- Records of one kind and one full name are the same record. -/
theorem eq_of_recordKey (h : fetch.Steady answers world) (hdistinct : o.NamesDistinct)
    (hv : v ∈ mapped fetch o world) (hw : w ∈ mapped fetch o world)
    (hkey : recordKey v = recordKey w) : v = w := by
  have hkeys := keys_contributions_sublist
    (fun _ hmem => faithful_of_mem_sources (o := o) hmem) fetch (.start world)
  rw [records_eq_mapped h] at hkeys
  exact List.inj_on_of_nodup_map ((nodup_key_sources hdistinct).sublist hkeys) hv hw hkey

/-- No record has the identity of another mapped object under another version. -/
theorem withVersion_not_mem_ids_mapped (h : fetch.Steady answers world)
    (hdistinct : o.NamesDistinct) (hmaps : o.Maps src v) {version : String}
    (hversion : version ≠ v.id.version) :
    v.id.withVersion version ∉ ids (mapped fetch o world) := by
  intro hmem
  obtain ⟨x, hx, hid⟩ := List.mem_map.1 hmem
  obtain ⟨y, hy, hid'⟩ := List.mem_map.1 (id_mem_ids_mapped hmaps fetch world)
  have hkey : recordKey x = recordKey y := by
    show (x.id.kind, x.id.namespace, x.id.name) = (y.id.kind, y.id.namespace, y.id.name)
    rw [hid, hid']
    rfl
  obtain rfl := eq_of_recordKey h hdistinct hx hy hkey
  exact hversion (congrArg (·.version) (hid.symm.trans hid'))

/-- What becomes of objects that are listed under one version and referred to under another one,
in a cluster that serves them with the same metadata under every version.

* No placeholder has the identity of a mapped record.
* An object whose chain of owners ends at an address that names a mapped object, be it after one
  step or after many, gets that object as its root owner, under the version in the address. This is
  the record itself when the versions agree. In either case the root is listed once.
* A mapped object is listed under a further version exactly when it is the root owner of a recorded
  object under that version. -/
theorem assemble_namesakes (fetch : Fetcher σ) (answers : ObjectRef → Answer) (world : σ)
    (o : Objects) (h : fetch.Steady answers world) (hdistinct : o.NamesDistinct)
    (hlisted : o.ListedFrom answers) :
    ∃ added, (assemble fetch o world).1 = mapped fetch o world ++ added ∧
      (∀ p ∈ added, p.id ∉ ids (mapped fetch o world)) ∧
      (∀ src w, o.Maps src w → ∀ r found, RootedAt answers src.objectMeta r found →
        { w with rootOwner := some (rootAt r found.objectMeta).root } ∈ mapped fetch o world ∧
        ∀ src' v, o.Maps src' v → Names r v →
          (rootAt r found.objectMeta).root.id = v.id.withVersion (spokenId r).version ∧
          (assemble fetch o world).1.countP
            (fun x => x.id = v.id.withVersion (spokenId r).version) = 1) ∧
      ∀ src v, o.Maps src v → ∀ version, v.id.withVersion version ∈ ids added ↔
        version ≠ v.id.version ∧ ∃ src' w, o.Maps src' w ∧
          ∃ r found, RootedAt answers src'.objectMeta r found ∧
            (rootAt r found.objectMeta).root.id = v.id.withVersion version := by
  have hlist := assemble_eq_merge h o
  refine ⟨_, hlist, ?_, ?_, ?_⟩
  · intro p hp hmem
    have hid : p.id ∈ ids (unseen _ _) := List.mem_map.2 ⟨p, hp, rfl⟩
    exact (mem_ids_unseen_iff.1 hid).2 (mem_seen_iff.2 hmem)
  · intro src w hmaps r found hr
    have hrecord : { w with rootOwner := some (rootAt r found.objectMeta).root } ∈
        (own fetch world src).records := by
      rw [own_of_root h hmaps.record hr]
      exact .head _
    refine ⟨List.mem_flatMap.2 ⟨src, hmaps.listed, hrecord⟩, ?_⟩
    intro src' v hmaps' hnames
    have hid : (rootAt r found.objectMeta).root.id = v.id.withVersion (spokenId r).version := by
      rw [hlisted src' v hmaps' r found hnames hr.there]
      exact id_root_of_names hmaps' hnames
    have hroot : v.id.withVersion (spokenId r).version ∈ ids (roots fetch o world) :=
      (mem_ids_roots_iff h).2 ⟨src, w, hmaps, r, found, hr, hid⟩
    refine ⟨hid, ?_⟩
    rw [hlist]
    have hnodup := nodup_ids_records hdistinct fetch (.start world)
    rw [records_eq_mapped h] at hnodup
    exact countP_id_eq_one (nodup_ids_merge hnodup) (mem_ids_merge_iff.2 (.inr hroot))
  · intro src v hmaps version
    rw [mem_ids_unseen_iff, mem_ids_roots_iff h]
    constructor
    · rintro ⟨hroot, hunseen⟩
      refine ⟨?_, hroot⟩
      rintro rfl
      exact hunseen (mem_seen_iff.2 (id_mem_ids_mapped hmaps fetch world))
    · rintro ⟨hversion, hroot⟩
      refine ⟨hroot, fun hseen => ?_⟩
      exact withVersion_not_mem_ids_mapped h hdistinct hmaps hversion (mem_seen_iff.1 hseen)

/-- The metadata of a scheduled job. -/
def nightly : Object.Meta := { name := some "nightly", «namespace» := some "ops" }

/-- A cluster that serves a scheduled job under two versions. -/
def nightlyServed (r : ObjectRef) : Answer :=
  if r = ⟨"batch/v1", "CronJob", some "ops", "nightly"⟩ ∨
      r = ⟨"batch/v1beta1", "CronJob", some "ops", "nightly"⟩ then
    .ok (some { objectMeta := nightly, data := .null })
  else .ok none

/-- A pod that the scheduled job controls, by the version in the reference. -/
def nightlyPod (name apiVersion : String) : Object.Pod :=
  { objectMeta :=
      { name := some name, «namespace» := some "ops"
        ownerReferences :=
          some [{ apiVersion, kind := "CronJob", name := "nightly", controller := some true }] } }

/-- The scheduled job is listed under one version; its pods refer to it under both. -/
def nightlyObjects : Objects where
  cronJobs := [.v1 { objectMeta := nightly }]
  pods := [nightlyPod "nightly-1" "batch/v1beta1", nightlyPod "nightly-2" "batch/v1"]

/-- The identity of the scheduled job, as it is listed. -/
def nightlyId : WorkloadId := ⟨"batch", "v1", "CronJob", some "ops", "nightly"⟩

theorem namesDistinct_nightlyObjects : nightlyObjects.NamesDistinct := by
  intro l hl
  revert l
  decide

theorem exists_maps_nightly : ∃ v, nightlyObjects.Maps nightlyObjects.sources[0] v ∧
    v.id = nightlyId := by
  obtain ⟨v, hv⟩ : ∃ v, nightlyObjects.sources[0].record = .value v := ⟨_, rfl⟩
  have hrec := CronJobObject.records_toWorkload (o := .v1 { objectMeta := nightly }) hv
  refine ⟨v, ⟨.head _, hv⟩, ?_⟩
  rw [Workload.id, hrec.typeMeta_eq, hrec.objectMeta_eq]
  rfl

theorem listedFrom_nightly : nightlyObjects.ListedFrom nightlyServed := by
  intro src w hmaps r found hnames hfound
  unfold nightlyServed at hfound
  split at hfound
  · next hr =>
    cases hfound
    have hkind : src.kind = "CronJob" := by
      obtain ⟨_, _, hrec⟩ := faithful_of_mem_sources hmaps.listed w hmaps.record
      have hsame : r.kind = w.typeMeta.kind := congrArg (·.kind) hnames
      rw [hrec.typeMeta_eq] at hsame
      rcases hr with rfl | rfl
      · exact hsame.symm
      · exact hsame.symm
    -- only the first of the three objects is of this kind
    rcases hmaps.listed with _ | ⟨_, _ | ⟨_, _ | ⟨_, ⟨⟩⟩⟩⟩
    · rfl
    · exact absurd hkind (by decide)
    · exact absurd hkind (by decide)
  · cases hfound

theorem rootedAt_nightly {apiVersion : String}
    (h : apiVersion = "batch/v1" ∨ apiVersion = "batch/v1beta1") (name : String) :
    RootedAt nightlyServed (nightlyPod name apiVersion).objectMeta
      ⟨apiVersion, "CronJob", some "ops", "nightly"⟩ { objectMeta := nightly, data := .null } where
  reached := ⟨0, by decide, rfl⟩
  there := by
    rcases h with rfl | rfl
    · exact if_pos (.inl rfl)
    · exact if_pos (.inr rfl)
  uncontrolled := rfl

theorem names_nightly {apiVersion : String}
    (h : apiVersion = "batch/v1" ∨ apiVersion = "batch/v1beta1") {v : Workload}
    (hv : v.id = nightlyId) : Names ⟨apiVersion, "CronJob", some "ops", "nightly"⟩ v := by
  rw [Names, hv]
  rcases h with rfl | rfl
  · decide +kernel
  · decide +kernel

theorem spokenVersion_beta :
    (spokenId ⟨"batch/v1beta1", "CronJob", some "ops", "nightly"⟩).version = "v1beta1" := by
  decide +kernel

theorem spokenVersion_present :
    nightlyId.withVersion (spokenId ⟨"batch/v1", "CronJob", some "ops", "nightly"⟩).version =
      nightlyId := by
  decide +kernel

/-- The scheduled job is listed once under the version of its record, and once more under the one
by which a pod refers to it. -/
theorem assemble_namesakes_nightly :
    (Fetcher.ofAnswers nightlyServed).Steady nightlyServed () ∧
      nightlyObjects.NamesDistinct ∧ nightlyObjects.ListedFrom nightlyServed ∧
      (assemble (Fetcher.ofAnswers nightlyServed) nightlyObjects ()).1.countP
        (fun x => x.id = nightlyId) = 1 ∧
      (assemble (Fetcher.ofAnswers nightlyServed) nightlyObjects ()).1.countP
        (fun x => x.id = nightlyId.withVersion "v1beta1") = 1 := by
  have hsteady := Fetcher.steady_ofAnswers nightlyServed ()
  obtain ⟨v, hmaps, hv⟩ := exists_maps_nightly
  obtain ⟨added, -, -, hroots, -⟩ := assemble_namesakes _ nightlyServed () nightlyObjects hsteady
    namesDistinct_nightlyObjects listedFrom_nightly
  obtain ⟨first, hfirst⟩ : ∃ w, nightlyObjects.sources[1].record = .value w := ⟨_, rfl⟩
  obtain ⟨second, hsecond⟩ : ∃ w, nightlyObjects.sources[2].record = .value w := ⟨_, rfl⟩
  have hbeta := (hroots _ first ⟨.tail _ (.head _), hfirst⟩ _ _
    (rootedAt_nightly (.inr rfl) "nightly-1")).2 _ v hmaps (names_nightly (.inr rfl) hv)
  have hpresent := (hroots _ second ⟨.tail _ (.tail _ (.head _)), hsecond⟩ _ _
    (rootedAt_nightly (.inl rfl) "nightly-2")).2 _ v hmaps (names_nightly (.inl rfl) hv)
  rw [hv, spokenVersion_beta] at hbeta
  rw [hv, spokenVersion_present] at hpresent
  exact ⟨hsteady, namesDistinct_nightlyObjects, listedFrom_nightly, hpresent.2, hbeta.2⟩

/-- A placeholder stands for the scheduled job although it is mapped: they differ in the version
alone. -/
theorem nightly_listed_twice :
    (Fetcher.ofAnswers nightlyServed).Steady nightlyServed () ∧
      nightlyObjects.NamesDistinct ∧ nightlyObjects.ListedFrom nightlyServed ∧
      ∃ v p, nightlyObjects.Maps nightlyObjects.sources[0] v ∧
        p ∈ (assemble (Fetcher.ofAnswers nightlyServed) nightlyObjects ()).1 ∧
        p.id ∉ ids (mapped (Fetcher.ofAnswers nightlyServed) nightlyObjects ()) ∧
        (p.id.group, p.id.kind, p.id.namespace, p.id.name) =
          (v.id.group, v.id.kind, v.id.namespace, v.id.name) := by
  have hsteady := Fetcher.steady_ofAnswers nightlyServed ()
  obtain ⟨v, hmaps, hv⟩ := exists_maps_nightly
  obtain ⟨first, hfirst⟩ : ∃ w, nightlyObjects.sources[1].record = .value w := ⟨_, rfl⟩
  have hroot := id_root_of_names hmaps (names_nightly (.inr rfl) hv)
  rw [spokenVersion_beta] at hroot
  have hlisted : v.id.withVersion "v1beta1" ∈
      ids (roots (Fetcher.ofAnswers nightlyServed) nightlyObjects ()) :=
    (mem_ids_roots_iff hsteady).2
      ⟨_, first, ⟨.tail _ (.head _), hfirst⟩, _, _, rootedAt_nightly (.inr rfl) "nightly-1", hroot⟩
  have hfresh := withVersion_not_mem_ids_mapped hsteady namesDistinct_nightlyObjects hmaps
    (show "v1beta1" ≠ v.id.version by rw [hv]; decide)
  obtain ⟨p, hp, hid⟩ := List.mem_map.1 (mem_ids_merge_iff.2 (.inr hlisted))
  rw [← hid] at hfresh
  rw [← assemble_eq_merge hsteady] at hp
  exact ⟨hsteady, namesDistinct_nightlyObjects, listedFrom_nightly, v, p, hmaps, hp, hfresh,
    by rw [hid]; rfl⟩

end Workloads

end ClusterInventory
