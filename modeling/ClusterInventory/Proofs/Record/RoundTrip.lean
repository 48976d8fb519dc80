import ClusterInventory.Inventory
import ClusterInventory.Proofs.Json.Documents

/-!
# Records read back

Every kind of record is read back from the document that it is written as (`decoder_toJson`): the
members of the document are told by its slots, and each field is read from its own. The depth of
the document is known as well (`fits_toJson`); only that of a workload hangs on what it holds.
-/

namespace ClusterInventory.Record

open Json (nil_eq_slots cons_slots memberOf_eq_slots memberIf_eq_slots slots_append)

/-! ## Metadata -/

theorem OwnerRef.decoder_toJson (o : OwnerRef) : decoder o.toJson = some o := by
  simp only [toJson, nil_eq_slots, cons_slots]
  refine Decoder.record_slots (.bind (.string rfl) ?_)
  repeat refine .bind (.string rfl) ?_
  exact .bind (.withDefault rfl rfl) (.pure _)

@[simp] theorem OwnerRef.fits_toJson {n : Nat} (o : OwnerRef) : o.toJson.Fits (n + 1) := by
  simp [toJson]

namespace ObjectMeta

/-- The slots of a record that are those of its metadata. -/
structure SlotsIn (m : ObjectMeta) (l : List (String × Option Json)) : Prop where
  name : l.filter (·.1 == "name") = [("name", some (.str m.name))]
  «namespace» : l.filter (·.1 == "namespace") = [("namespace", m.namespace.map .str)]
  labels : l.filter (·.1 == "labels") =
    [("labels", if !m.labels.isEmpty then some (Json.stringMap m.labels) else none)]
  annotations : l.filter (·.1 == "annotations") =
    [("annotations", if !m.annotations.isEmpty then some (Json.stringMap m.annotations) else none)]
  creationTimestamp : l.filter (·.1 == "creation_timestamp") =
    [("creation_timestamp", m.creationTimestamp.map Json.instant)]
  ownerReferences : l.filter (·.1 == "owner_references") =
    [("owner_references", if !m.ownerReferences.isEmpty then
      some (.arr (m.ownerReferences.map OwnerRef.toJson)) else none)]

/-- Metadata is read back, whatever else stands beside it. -/
theorem reads_fields {m : ObjectMeta} {l : List (String × Option Json)} (h : m.SlotsIn l) :
    Reads fields (Json.slots l) m :=
  .bind (.string h.name) <| .bind (.stringIf h.namespace) <| .bind (.mapIf h.labels) <|
    .bind (.mapIf h.annotations) <| .bind (.instantIf h.creationTimestamp) <|
    .bind (.listIf h.ownerReferences fun o _ => o.decoder_toJson) (.pure m)

/-- A record of an object is read back if what stands beside its metadata is. -/
theorem objectRecord_slots {α : Type} {f : ObjectMeta → Fields α} {m : ObjectMeta}
    {l : List (String × Option Json)} {a : α} (h : m.SlotsIn l)
    (hf : Reads (f m) (Json.slots l) a) :
    Decoder.objectRecord (fields >>= f) (.obj (Json.slots l)) = some a :=
  Decoder.objectRecord_slots (.bind (reads_fields h) hf)

@[simp] theorem fits_members {n : Nat} (m : ObjectMeta) : Json.MembersFit (n + 2) m.members := by
  simp [members]

end ObjectMeta

/-! ## The cluster and its parts -/

theorem Cluster.decoder_toJson (c : Cluster) : decoder c.toJson = some c := by
  simp only [toJson, nil_eq_slots, cons_slots]
  refine Decoder.record_slots (.bind (.string rfl) ?_)
  -- each field is of one of three kinds, and its key is that of one slot alone
  repeat first
    | refine .bind (.string rfl) ?_
    | refine .bind (.int64 rfl) ?_
    | refine .bind (.bool rfl) ?_
  exact .pure c

@[simp] theorem Cluster.fits_toJson {n : Nat} (c : Cluster) : c.toJson.Fits (n + 1) := by
  simp [toJson]

theorem Namespace.decoder_toJson (n : Namespace) : decoder n.toJson = some n := by
  simp only [toJson, ObjectMeta.toJson, ObjectMeta.members, nil_eq_slots, cons_slots,
    memberOf_eq_slots, memberIf_eq_slots, slots_append, List.cons_append, List.nil_append]
  exact ObjectMeta.objectRecord_slots ⟨rfl, rfl, rfl, rfl, rfl, rfl⟩ (.pure n)

@[simp] theorem Namespace.fits_toJson {k : Nat} (n : Namespace) : n.toJson.Fits (k + 3) :=
  Json.Fits.obj_iff.2 n.objectMeta.fits_members

theorem Node.decoder_toJson (n : Node) : decoder n.toJson = some n := by
  simp only [toJson, ObjectMeta.members, Json.strings, nil_eq_slots, cons_slots,
    memberOf_eq_slots, memberIf_eq_slots, slots_append, List.cons_append, List.nil_append]
  refine ObjectMeta.objectRecord_slots ⟨rfl, rfl, rfl, rfl, rfl, rfl⟩ ?_
  repeat first
    | refine .bind (.string rfl) ?_
    | refine .bind (.bool rfl) ?_
    | refine .bind (.int64 rfl) ?_
    | refine .bind (.listIf rfl fun _ _ => rfl) ?_
    | refine .bind (.uint64 rfl) ?_
  exact .pure n

@[simp] theorem Node.fits_toJson {k : Nat} (n : Node) : n.toJson.Fits (k + 3) := by
  simp [toJson]

theorem PersistentVolume.decoder_toJson (v : PersistentVolume) : decoder v.toJson = some v := by
  simp only [toJson, ObjectMeta.members, nil_eq_slots, cons_slots, memberOf_eq_slots,
    memberIf_eq_slots, slots_append, List.cons_append, List.nil_append]
  refine ObjectMeta.objectRecord_slots ⟨rfl, rfl, rfl, rfl, rfl, rfl⟩ ?_
  repeat first
    | refine .bind (.string rfl) ?_
    | refine .bind (.int64 rfl) ?_
  exact .pure v

@[simp] theorem PersistentVolume.fits_toJson {n : Nat} (v : PersistentVolume) :
    v.toJson.Fits (n + 3) := by
  simp [toJson]

theorem StorageClass.decoder_toJson (c : StorageClass) : decoder c.toJson = some c := by
  simp only [toJson, ObjectMeta.members, nil_eq_slots, cons_slots, memberOf_eq_slots,
    memberIf_eq_slots, slots_append, List.cons_append, List.nil_append]
  exact ObjectMeta.objectRecord_slots ⟨rfl, rfl, rfl, rfl, rfl, rfl⟩
    (.bind (.string rfl) (.pure c))

@[simp] theorem StorageClass.fits_toJson {n : Nat} (c : StorageClass) : c.toJson.Fits (n + 3) := by
  simp [toJson]

theorem Storage.decoder_toJson (s : Storage) : decoder s.toJson = some s := by
  simp only [toJson, nil_eq_slots, cons_slots]
  exact Decoder.record_slots
    (.bind (.listOrNone rfl fun v _ => v.decoder_toJson)
      (.bind (.listOrNone rfl fun c _ => c.decoder_toJson) (.pure s)))

@[simp] theorem Storage.fits_toJson {n : Nat} (s : Storage) : s.toJson.Fits (n + 5) := by
  simp [toJson]

theorem NetworkPolicy.decoder_toJson (p : NetworkPolicy) : decoder p.toJson = some p := by
  simp only [toJson, ObjectMeta.members, Json.strings, nil_eq_slots, cons_slots,
    memberOf_eq_slots, memberIf_eq_slots, slots_append, List.cons_append, List.nil_append]
  exact ObjectMeta.objectRecord_slots ⟨rfl, rfl, rfl, rfl, rfl, rfl⟩
    (.bind (.mapIf rfl) (.bind (.list rfl fun _ _ => rfl)
      (.bind (.uint64 rfl) (.bind (.uint64 rfl) (.pure p)))))

@[simp] theorem NetworkPolicy.fits_toJson {n : Nat} (p : NetworkPolicy) :
    p.toJson.Fits (n + 3) := by
  simp [toJson]

/-! ## Operators that extend the cluster -/

theorem VeleroBackup.decoder_toJson (b : VeleroBackup) : decoder b.toJson = some b := by
  simp only [toJson, nil_eq_slots, cons_slots, memberOf_eq_slots, slots_append, List.cons_append,
    List.nil_append]
  refine Decoder.record_slots (.bind (.string rfl) ?_)
  repeat first
    | refine .bind (.string rfl) ?_
    | refine .bind (.instantIf rfl) ?_
    | refine .bind (.int64 rfl) ?_
  exact .pure b

@[simp] theorem VeleroBackup.fits_toJson {n : Nat} (b : VeleroBackup) : b.toJson.Fits (n + 1) := by
  simp [toJson]

theorem VeleroSchedule.decoder_toJson (s : VeleroSchedule) : decoder s.toJson = some s := by
  simp only [toJson, nil_eq_slots, cons_slots, memberOf_eq_slots, slots_append, List.cons_append,
    List.nil_append]
  refine Decoder.record_slots (.bind (.string rfl) ?_)
  repeat refine .bind (.string rfl) ?_
  exact .bind (.instantIf rfl) (.pure s)

@[simp] theorem VeleroSchedule.fits_toJson {n : Nat} (s : VeleroSchedule) :
    s.toJson.Fits (n + 1) := by
  simp [toJson]

theorem Velero.decoder_toJson (v : Velero) : decoder v.toJson = some v := by
  simp only [toJson, nil_eq_slots, cons_slots]
  exact Decoder.record_slots
    (.bind (.list rfl fun b _ => b.decoder_toJson)
      (.bind (.list rfl fun s _ => s.decoder_toJson) (.pure v)))

@[simp] theorem Velero.fits_toJson {n : Nat} (v : Velero) : v.toJson.Fits (n + 3) := by
  simp [toJson]

theorem DbInstance.decoder_toJson (d : DbInstance) : decoder d.toJson = some d := by
  simp only [toJson, ObjectMeta.members, nil_eq_slots, cons_slots, memberOf_eq_slots,
    memberIf_eq_slots, slots_append, List.cons_append, List.nil_append]
  exact ObjectMeta.objectRecord_slots ⟨rfl, rfl, rfl, rfl, rfl, rfl⟩
    (.bind (.string rfl) (.bind (.string rfl)
      (.bind (.int64 rfl) (.bind (.string rfl) (.pure d)))))

@[simp] theorem DbInstance.fits_toJson {n : Nat} (d : DbInstance) : d.toJson.Fits (n + 3) := by
  simp [toJson]

theorem KciRocks.decoder_toJson (k : KciRocks) : decoder k.toJson = some k := by
  simp only [toJson, nil_eq_slots, cons_slots]
  exact Decoder.record_slots (.bind (.list rfl fun d _ => d.decoder_toJson) (.pure k))

@[simp] theorem KciRocks.fits_toJson {n : Nat} (k : KciRocks) : k.toJson.Fits (n + 5) := by
  simp [toJson]

theorem RabbitMqCluster.decoder_toJson (r : RabbitMqCluster) : decoder r.toJson = some r := by
  simp only [toJson, ObjectMeta.members, nil_eq_slots, cons_slots, memberOf_eq_slots,
    memberIf_eq_slots, slots_append, List.cons_append, List.nil_append]
  exact ObjectMeta.objectRecord_slots ⟨rfl, rfl, rfl, rfl, rfl, rfl⟩
    (.bind (.string rfl) (.pure r))

@[simp] theorem RabbitMqCluster.fits_toJson {n : Nat} (r : RabbitMqCluster) :
    r.toJson.Fits (n + 3) := by
  simp [toJson]

theorem RabbitMq.decoder_toJson (r : RabbitMq) : decoder r.toJson = some r := by
  simp only [toJson, nil_eq_slots, cons_slots]
  exact Decoder.record_slots (.bind (.list rfl fun c _ => c.decoder_toJson) (.pure r))

@[simp] theorem RabbitMq.fits_toJson {n : Nat} (r : RabbitMq) : r.toJson.Fits (n + 5) := by
  simp [toJson]

theorem Calico.decoder_toJson (c : Calico) : decoder c.toJson = some c := by
  simp only [toJson, nil_eq_slots, cons_slots, memberOf_eq_slots, memberIf_eq_slots, slots_append,
    List.cons_append, List.nil_append]
  exact Decoder.record_slots
    (.bind (.string rfl) (.bind (.instantIf rfl) (.bind (.mapIf rfl) (.pure c))))

@[simp] theorem Calico.fits_toJson {n : Nat} (c : Calico) : c.toJson.Fits (n + 2) := by
  simp [toJson]

theorem CustomResources.decoder_toJson (c : CustomResources) : decoder c.toJson = some c := by
  simp only [toJson, nil_eq_slots, cons_slots, memberOf_eq_slots, slots_append, List.cons_append,
    List.nil_append]
  refine Decoder.record_slots (.bind (.bool rfl) ?_)
  repeat refine .bind (.bool rfl) ?_
  exact .bind (.withDefault rfl c.velero.decoder_toJson)
    (.bind (.withDefault rfl c.kciRocks.decoder_toJson)
      (.bind (.withDefault rfl c.rabbitMq.decoder_toJson)
        (.bind (.optional rfl fun a _ => Decoder.optional_of a.decoder_toJson nofun) (.pure c))))

@[simp] theorem CustomResources.fits_toJson {n : Nat} (c : CustomResources) :
    c.toJson.Fits (n + 6) := by
  simp [toJson]

/-! ## Workloads -/

theorem RootOwner.decoder_toJson (r : RootOwner) : decoder r.toJson = some r := by
  simp only [toJson, nil_eq_slots, cons_slots, memberOf_eq_slots, slots_append, List.cons_append,
    List.nil_append]
  refine Decoder.record_slots (.bind (.string rfl) ?_)
  repeat refine .bind (.string rfl) ?_
  exact .bind (.stringIf rfl) (.pure r)

@[simp] theorem RootOwner.fits_toJson {n : Nat} (r : RootOwner) : r.toJson.Fits (n + 1) := by
  simp [toJson]

/-- What the object is and its metadata stand side by side, with no key in common. -/
theorem Workload.decoder_toJson (w : Workload) : decoder w.toJson = some w := by
  simp only [toJson, TypeMeta.members, ObjectMeta.members, nil_eq_slots, cons_slots,
    memberOf_eq_slots, memberIf_eq_slots, slots_append, List.cons_append, List.nil_append]
  refine Decoder.objectRecord_slots (.bind (a := w.typeMeta) ?_
    (.bind (ObjectMeta.reads_fields ⟨rfl, rfl, rfl, rfl, rfl, rfl⟩) ?_))
  · exact .bind (.string rfl) (.bind (.string rfl)
      (.bind (.string rfl) (.bind (.string rfl) (.pure w.typeMeta))))
  · exact .bind (.withDefault rfl w.spec.ofJson?_json)
      (.bind (.withDefault rfl w.status.ofJson?_json)
        (.bind (.optional rfl fun r _ => Decoder.optional_of r.decoder_toJson nofun) (.pure w)))

theorem Workload.fits_toJson {n : Nat} {w : Workload} (hspec : w.spec.json.Fits (n + 2))
    (hstatus : w.status.json.Fits (n + 2)) : w.toJson.Fits (n + 3) := by
  simp [toJson, TypeMeta.members, hspec, hstatus]

end ClusterInventory.Record
