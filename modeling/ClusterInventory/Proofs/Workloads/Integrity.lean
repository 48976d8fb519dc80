import ClusterInventory.Proofs.Workloads.Contributions

/-!
# Referential integrity of the list of workloads

`assemble_integrity`: no identity is listed twice, and every root owner that a record names is
listed, mapped or as a placeholder, whatever the fetcher answers.
-/

namespace ClusterInventory.Workloads

open Ownership (Fetcher Session)
open Record (Workload RootOwner)

variable {σ : Type} {fetch : Fetcher σ} {s : Session σ} {srcs : List Source}

theorem nodup_ids_of_keys {ws : List Workload} (h : (ws.map recordKey).Nodup) : (ids ws).Nodup := by
  refine List.Nodup.of_map (fun i => (i.kind, i.namespace, i.name)) ?_
  rw [ids, List.map_map]
  exact h

theorem nodup_ids_records {o : Objects} (h : o.NamesDistinct) (fetch : Fetcher σ) (s : Session σ) :
    (ids ((contributions fetch o.sources s).1.flatMap (·.records))).Nodup :=
  nodup_ids_of_keys <| (nodup_key_sources h).sublist <|
    keys_contributions_sublist (fun _ => faithful_of_mem_sources) fetch s

/-- The root owners that the records of a row name are among its placeholders. -/
theorem root_mem_contributions (h : ∀ src ∈ srcs, src.Faithful) {w : Workload} {r : RootOwner}
    (hw : w ∈ (contributions fetch srcs s).1.flatMap (·.records)) (hr : w.rootOwner = some r) :
    r.id ∈ ids ((contributions fetch srcs s).1.flatMap (·.placeholders)) := by
  obtain ⟨c, hc, hw⟩ := List.mem_flatMap.1 hw
  obtain ⟨src, hsrc, s', rfl⟩ := exists_of_mem_contributions hc
  have hid : r.id ∈ ids (contribute fetch src s').1.placeholders := by
    apply (contributes_contribute (h src hsrc) fetch s').root_mem_placeholders _ hw hr
    intro res hres
    obtain ⟨a, found, rfl⟩ := Ownership.exists_rootAt_of_resolve hres
    exact Ownership.id_root_rootAt a found
  obtain ⟨p, hp, hpid⟩ := List.mem_map.1 hid
  exact List.mem_map.2 ⟨p, List.mem_flatMap.2 ⟨_, hc, hp⟩, hpid⟩

theorem placeholder_rootOwner_contributions (h : ∀ src ∈ srcs, src.Faithful) {p : Workload}
    (hp : p ∈ (contributions fetch srcs s).1.flatMap (·.placeholders)) : p.rootOwner = none := by
  obtain ⟨c, hc, hp⟩ := List.mem_flatMap.1 hp
  obtain ⟨src, hsrc, s', rfl⟩ := exists_of_mem_contributions hc
  apply (contributes_contribute (h src hsrc) fetch s').placeholder_rootOwner _ hp
  intro res hres
  obtain ⟨a, found, rfl⟩ := Ownership.exists_rootAt_of_resolve hres
  rfl

theorem countP_id_eq_one {ws : List Workload} (h : (ids ws).Nodup) {i : Record.WorkloadId}
    (hi : i ∈ ids ws) : ws.countP (fun w => w.id = i) = 1 := by
  have hcount := List.count_eq_one_of_mem h hi
  rw [ids, List.count, List.countP_map] at hcount
  rw [← hcount]
  congr 1

/-- Where no listing holds two objects of one full name, the identities in the list of workloads
are distinct, and each root owner that is named in it is exactly one of them. This holds for any
fetcher, also one that fails or answers differently from call to call. -/
theorem assemble_integrity (fetch : Fetcher σ) (o : Objects) (world : σ) (h : o.NamesDistinct) :
    (ids (assemble fetch o world).1).Nodup ∧
      ∀ w ∈ (assemble fetch o world).1, ∀ r, w.rootOwner = some r →
        (assemble fetch o world).1.countP (fun v => v.id = r.id) = 1 := by
  have hnodup : (ids (assemble fetch o world).1).Nodup :=
    nodup_ids_merge (nodup_ids_records h fetch (.start world))
  refine ⟨hnodup, ?_⟩
  intro w hw r hr
  apply countP_id_eq_one hnodup
  -- a root is always among the placeholders; the merge drops it only where a record has its
  -- identity
  refine mem_ids_merge_iff.2 (.inr ?_)
  rcases mem_of_mem_merge hw with hw | hw
  · exact root_mem_contributions (fun _ => faithful_of_mem_sources) hw hr
  · have hnone := placeholder_rootOwner_contributions (fun _ => faithful_of_mem_sources) hw
    cases hnone.symm.trans hr

/-- Every owner that is asked for is there, and nothing controls it. -/
def everyOwnerThere (r : Api.ObjectRef) : Ownership.Answer :=
  .ok (some { objectMeta := { name := some r.name, «namespace» := r.namespace }, data := .null })

/-- A pod that a replica set controls, and one without a name. -/
def podsOfReplicaSet : Objects where
  pods :=
    [{ objectMeta := { name := some "web-1", «namespace» := some "shop"
                       ownerReferences := some [Ownership.replicaSet "web"] } },
      { objectMeta := { «namespace» := some "shop" } }]

/-- The replica set that no listing holds is listed once, as the root owner of its pod. -/
theorem assemble_podsOfReplicaSet :
    podsOfReplicaSet.NamesDistinct ∧
      ∃ w ∈ (assemble (Fetcher.ofAnswers everyOwnerThere) podsOfReplicaSet ()).1,
        w.rootOwner = some ⟨"ReplicaSet", "apps", "v1", "web", some "shop"⟩ ∧
          (assemble (Fetcher.ofAnswers everyOwnerThere) podsOfReplicaSet ()).1.countP
            (fun v => v.id = ⟨"apps", "v1", "ReplicaSet", some "shop", "web"⟩) = 1 := by
  have hdistinct : podsOfReplicaSet.NamesDistinct := by
    intro l hl
    revert l
    decide
  have hresolve : (Ownership.resolve (Fetcher.ofAnswers everyOwnerThere)
      podsOfReplicaSet.sources[0].objectMeta (.start ())).1 =
      .ok (some (Ownership.rootAt ⟨"apps/v1", "ReplicaSet", some "shop", "web"⟩
        { name := some "web", «namespace» := some "shop" })) := by
    change (Ownership.walk _ (some "shop") [] ⟨"apps/v1", "ReplicaSet", some "shop", "web"⟩ _).1 = _
    rw [Ownership.walk_of_lookup (by simp) (by decide),
      Session.lookup_of_found (by simp [Session.start]) rfl]
    rfl
  have hroot : (Ownership.rootAt ⟨"apps/v1", "ReplicaSet", some "shop", "web"⟩
      { name := some "web", «namespace» := some "shop" }).root =
      ⟨"ReplicaSet", "apps", "v1", "web", some "shop"⟩ := by decide +kernel
  obtain ⟨w, hw, hr⟩ : ∃ w ∈ (contribute (Fetcher.ofAnswers everyOwnerThere)
      podsOfReplicaSet.sources[0] (.start ())).1.records,
      w.rootOwner = some ⟨"ReplicaSet", "apps", "v1", "web", some "shop"⟩ := by
    rw [contribute_of_value rfl, hresolve]
    exact ⟨_, .head _, congrArg some hroot⟩
  have hmem : w ∈ (assemble (Fetcher.ofAnswers everyOwnerThere) podsOfReplicaSet ()).1 :=
    List.mem_append_left _ (List.mem_flatMap.2 ⟨_, .head _, hw⟩)
  exact ⟨hdistinct, w, hmem, hr, (assemble_integrity _ podsOfReplicaSet () hdistinct).2 w hmem _ hr⟩

end ClusterInventory.Workloads
