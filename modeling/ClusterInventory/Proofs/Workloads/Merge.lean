import ClusterInventory.Workloads.Assembly

/-!
# Which placeholders a merge keeps

The identities in a merge are those of the records and of the placeholders
(`mem_ids_merge_iff`), and none is added twice (`nodup_ids_merge`). `added` tells the placeholders
that are kept by where they stand; that a merge adds just these, and what it comes to when merges
are repeated or done in parts, is `merge_adds_firsts`.
-/

namespace ClusterInventory.Workloads

open Record (Workload WorkloadId)

/-- The identities in a list of workloads. -/
def ids (ws : List Workload) : List WorkloadId := ws.map (·.id)

variable {seen : Std.HashSet WorkloadId} {records placeholders : List Workload} {w : Workload}
  {i : WorkloadId}

theorem unseen_of_mem (h : w.id ∈ seen) :
    unseen seen (w :: placeholders) = unseen seen placeholders := by
  rw [unseen, if_pos h]

theorem unseen_of_not_mem (h : w.id ∉ seen) :
    unseen seen (w :: placeholders) = w :: unseen (seen.insert w.id) placeholders := by
  rw [unseen, if_neg h]

theorem unseen_sublist (seen : Std.HashSet WorkloadId) (placeholders : List Workload) :
    (unseen seen placeholders).Sublist placeholders := by
  induction placeholders generalizing seen with
  | nil => exact .slnil
  | cons w placeholders ih =>
    by_cases h : w.id ∈ seen
    · rw [unseen_of_mem h]
      exact (ih seen).cons w
    · rw [unseen_of_not_mem h]
      exact (ih _).cons_cons w

theorem mem_ids_unseen_iff :
    i ∈ ids (unseen seen placeholders) ↔ i ∈ ids placeholders ∧ i ∉ seen := by
  induction placeholders generalizing seen with
  | nil => simp [unseen, ids]
  | cons w placeholders ih =>
    simp only [ids, List.map_cons, List.mem_cons] at ih ⊢
    by_cases h : w.id ∈ seen
    · rw [unseen_of_mem h, ih]
      constructor
      · rintro ⟨hi, hs⟩
        exact ⟨.inr hi, hs⟩
      · rintro ⟨rfl | hi, hs⟩
        · exact absurd h hs
        · exact ⟨hi, hs⟩
    · rw [unseen_of_not_mem h, List.map_cons, List.mem_cons, ih, Std.HashSet.mem_insert]
      constructor
      · rintro (rfl | ⟨hi, hs⟩)
        · exact ⟨.inl rfl, h⟩
        · exact ⟨.inr hi, fun hmem => hs (.inr hmem)⟩
      · rintro ⟨rfl | hi, hs⟩
        · exact .inl rfl
        · -- an identity that was not seen stands at `w` or is still not seen after it
          by_cases heq : w.id = i
          · exact .inl heq.symm
          · exact .inr ⟨hi, by simp [heq, hs]⟩

theorem nodup_ids_unseen (seen : Std.HashSet WorkloadId) (placeholders : List Workload) :
    (ids (unseen seen placeholders)).Nodup := by
  induction placeholders generalizing seen with
  | nil => exact .nil
  | cons w placeholders ih =>
    by_cases h : w.id ∈ seen
    · rw [unseen_of_mem h]
      exact ih seen
    · rw [unseen_of_not_mem h]
      refine List.nodup_cons.2 ⟨fun hmem => ?_, ih _⟩
      exact (mem_ids_unseen_iff.1 hmem).2 (by simp)

theorem mem_seen_iff : i ∈ Std.HashSet.ofList (ids records) ↔ i ∈ ids records := by
  rw [Std.HashSet.mem_ofList, List.contains_iff_mem]

theorem ids_merge (records placeholders : List Workload) :
    ids (merge records placeholders) =
      ids records ++ ids (unseen (.ofList (ids records)) placeholders) :=
  List.map_append

theorem mem_ids_merge_iff :
    i ∈ ids (merge records placeholders) ↔ i ∈ ids records ∨ i ∈ ids placeholders := by
  rw [ids_merge, List.mem_append, mem_ids_unseen_iff, mem_seen_iff]
  constructor
  · rintro (h | ⟨h, -⟩)
    · exact .inl h
    · exact .inr h
  · rintro (h | h)
    · exact .inl h
    · by_cases hr : i ∈ ids records
      · exact .inl hr
      · exact .inr ⟨h, hr⟩

theorem nodup_ids_merge (h : (ids records).Nodup) : (ids (merge records placeholders)).Nodup := by
  rw [ids_merge]
  refine List.nodup_append.2 ⟨h, nodup_ids_unseen _ _, ?_⟩
  rintro i hi _ hi' rfl
  exact (mem_ids_unseen_iff.1 hi').2 (mem_seen_iff.2 hi)

theorem mem_of_mem_merge (h : w ∈ merge records placeholders) : w ∈ records ∨ w ∈ placeholders :=
  (List.mem_append.1 h).imp_right fun hw => (unseen_sublist _ _).subset hw

/-! ## Merges repeated and done in parts -/

section Laws

variable {seen' : Std.HashSet WorkloadId} {placeholders' : List Workload}

/-- What is kept depends on which identities have been seen, and on nothing else about them. -/
theorem unseen_congr (h : ∀ i, i ∈ seen ↔ i ∈ seen') (placeholders : List Workload) :
    unseen seen placeholders = unseen seen' placeholders := by
  induction placeholders generalizing seen seen' with
  | nil => rfl
  | cons w placeholders ih =>
    by_cases hw : w.id ∈ seen
    · rw [unseen_of_mem hw, unseen_of_mem ((h _).1 hw)]
      exact ih h
    · rw [unseen_of_not_mem hw, unseen_of_not_mem (fun hw' => hw ((h _).2 hw'))]
      refine congrArg (w :: ·) (ih fun i => ?_)
      rw [Std.HashSet.mem_insert, Std.HashSet.mem_insert, h]

theorem unseen_eq_nil (h : ∀ i ∈ ids placeholders, i ∈ seen) : unseen seen placeholders = [] := by
  refine List.eq_nil_iff_forall_not_mem.2 fun w hw => ?_
  obtain ⟨hmem, hnew⟩ := mem_ids_unseen_iff.1 (List.mem_map_of_mem hw)
  exact hnew (h _ hmem)

/-- Of further placeholders those are kept whose identity is neither seen nor met before them. -/
theorem unseen_append (h : ∀ i, i ∈ seen' ↔ i ∈ seen ∨ i ∈ ids placeholders) :
    unseen seen (placeholders ++ placeholders') =
      unseen seen placeholders ++ unseen seen' placeholders' := by
  induction placeholders generalizing seen with
  | nil => exact unseen_congr (fun i => by simp [h, ids]) placeholders'
  | cons w placeholders ih =>
    by_cases hw : w.id ∈ seen
    · rw [List.cons_append, unseen_of_mem hw, unseen_of_mem hw]
      refine ih fun i => ?_
      rw [h, ids, List.map_cons, List.mem_cons]
      constructor
      · rintro (hi | rfl | hi)
        · exact .inl hi
        · exact .inl hw
        · exact .inr hi
      · exact Or.imp_right .inr
    · rw [List.cons_append, unseen_of_not_mem hw, unseen_of_not_mem hw, List.cons_append]
      refine congrArg (w :: ·) (ih fun i => ?_)
      rw [h, ids, List.map_cons, List.mem_cons, Std.HashSet.mem_insert, beq_iff_eq]
      constructor
      · rintro (hi | rfl | hi)
        · exact .inl (.inr hi)
        · exact .inl (.inl rfl)
        · exact .inr hi
      · rintro ((rfl | hi) | hi)
        · exact .inr (.inl rfl)
        · exact .inl hi
        · exact .inr (.inr hi)

theorem merge_append (records placeholders placeholders' : List Workload) :
    merge records (placeholders ++ placeholders') =
      merge (merge records placeholders) placeholders' := by
  have hseen : ∀ i, i ∈ Std.HashSet.ofList (ids (merge records placeholders)) ↔
      i ∈ Std.HashSet.ofList (ids records) ∨ i ∈ ids placeholders := fun i => by
    rw [mem_seen_iff, mem_seen_iff, mem_ids_merge_iff]
  show records ++ unseen (.ofList (ids records)) (placeholders ++ placeholders') =
    (records ++ unseen (.ofList (ids records)) placeholders) ++
      unseen (.ofList (ids (merge records placeholders))) placeholders'
  rw [unseen_append hseen, List.append_assoc]

/-- Placeholders whose identities are all there add nothing. -/
theorem merge_eq_self (h : ∀ i ∈ ids placeholders, i ∈ ids records) :
    merge records placeholders = records := by
  show records ++ unseen (.ofList (ids records)) placeholders = records
  rw [unseen_eq_nil fun i hi => mem_seen_iff.2 (h i hi), List.append_nil]

/-- The entries with the identity of a record are the records with that identity. -/
theorem filter_merge (h : i ∈ ids records) :
    (merge records placeholders).filter (fun w => w.id = i) =
      records.filter (fun w => w.id = i) := by
  have hnone : (unseen (.ofList (ids records)) placeholders).filter (fun w => w.id = i) = [] := by
    refine List.filter_eq_nil_iff.2 fun w hw hid => ?_
    have hmem : w.id ∈ ids (unseen (.ofList (ids records)) placeholders) := List.mem_map_of_mem hw
    rw [of_decide_eq_true hid] at hmem
    exact (mem_ids_unseen_iff.1 hmem).2 (mem_seen_iff.2 h)
  show (records ++ unseen (.ofList (ids records)) placeholders).filter _ = _
  rw [List.filter_append, hnone, List.append_nil]

theorem count_ids_merge (h : i ∈ ids placeholders) (hnew : i ∉ ids records) :
    (ids (merge records placeholders)).count i = 1 := by
  have hmem := mem_ids_unseen_iff.2 ⟨h, mt mem_seen_iff.1 hnew⟩
  rw [ids_merge, List.count_append, List.count_eq_zero_of_not_mem hnew, Nat.zero_add,
    (nodup_ids_unseen _ _).count, if_pos hmem]

end Laws

/-! ## The placeholders that are kept, by where they stand -/

/-- The placeholders that are the first with their identity among all, and whose identity no record
has, in their order. -/
def added (records placeholders : List Workload) : List Workload :=
  (placeholders.zipIdx.filter fun (p, n) =>
    p.id ∉ ids records ∧ p.id ∉ ids (placeholders.take n)).map Prod.fst

/-- Having gone through the placeholders `before`, one has seen their identities and those of the
records, and keeps of the rest what `added` keeps of it. -/
theorem unseen_eq_filter_zipIdx {before : List Workload}
    (h : ∀ i, i ∈ seen ↔ i ∈ ids records ∨ i ∈ ids before) (rest : List Workload) :
    unseen seen rest = ((rest.zipIdx before.length).filter fun (p, n) =>
      p.id ∉ ids records ∧ p.id ∉ ids ((before ++ rest).take n)).map Prod.fst := by
  induction rest generalizing seen before with
  | nil => rfl
  | cons w rest ih =>
    have hstep : ∀ i, i ∈ seen ∨ w.id = i ↔ i ∈ ids records ∨ i ∈ ids (before ++ [w]) := fun i => by
      simp [h, ids, or_assoc, eq_comm]
    have hrest := fun {seen'} (hseen' : ∀ i, i ∈ seen' ↔ i ∈ seen ∨ w.id = i) =>
      @ih seen' (before ++ [w]) fun i => (hseen' i).trans (hstep i)
    rw [List.length_append, List.append_assoc] at hrest
    rw [List.zipIdx_cons, List.filter_cons]
    simp only [List.take_left]
    by_cases hw : w.id ∈ seen
    · rw [unseen_of_mem hw, if_neg]
      · exact hrest fun i => ⟨.inl, fun hi => hi.elim id fun heq => heq ▸ hw⟩
      · simpa [not_or] using fun hr => (((h _).1 hw).resolve_left hr)
    · rw [unseen_of_not_mem hw, if_pos, List.map_cons]
      · refine congrArg (w :: ·) (hrest fun i => ?_)
        rw [Std.HashSet.mem_insert, beq_iff_eq, or_comm]
      · simpa [not_or] using mt (h _).2 hw

theorem merge_eq_append_added (records placeholders : List Workload) :
    merge records placeholders = records ++ added records placeholders := by
  have hseen : ∀ i, i ∈ Std.HashSet.ofList (ids records) ↔ i ∈ ids records ∨ i ∈ ids [] :=
    fun i => by simp [ids]
  exact congrArg (records ++ ·) (unseen_eq_filter_zipIdx hseen placeholders)

/-- What a merge is, and what follows from it.

* All records stay as they are and where they are, also those that have an identity in common. After
  them come, in their order, the placeholders that are the first with their identity and whose
  identity no record has.
* So the identities are those of both lists, and one that only placeholders have is there once.
* Merging the same placeholders again changes nothing, and placeholders may be merged in parts.
* The entries with the identity of a record are the records with that identity. -/
theorem merge_adds_firsts (records placeholders : List Workload) :
    merge records placeholders = records ++ added records placeholders ∧
    (∀ i, i ∈ ids (merge records placeholders) ↔ i ∈ ids records ∨ i ∈ ids placeholders) ∧
    (∀ i ∈ ids placeholders, i ∉ ids records → (ids (merge records placeholders)).count i = 1) ∧
    merge (merge records placeholders) placeholders = merge records placeholders ∧
    (∀ placeholders', merge records (placeholders ++ placeholders') =
      merge (merge records placeholders) placeholders') ∧
    (∀ i ∈ ids records, (merge records placeholders).filter (fun w => w.id = i) =
      records.filter (fun w => w.id = i)) :=
  ⟨merge_eq_append_added records placeholders, fun _ => mem_ids_merge_iff,
    fun _ => count_ids_merge, merge_eq_self fun _ hi => mem_ids_merge_iff.2 (.inr hi),
    merge_append records placeholders, fun _ => filter_merge⟩

/-- A replica set of which only the name is known. -/
def bareReplicaSet (name : String) : Workload :=
  .placeholder (.ofKind "apps" "v1" "ReplicaSet") (.ofObject { name := some name })

/-- A record that is there twice stays so. Of the placeholders the one that has its identity is
left out, and the one that is there twice is added once, where it stands first. -/
theorem merge_adds_firsts_twins :
    let web := bareReplicaSet "web"
    let api := bareReplicaSet "api"
    let db := bareReplicaSet "db"
    api.id ∈ ids [api, web, api, db] ∧ api.id ∉ ids [web, web] ∧ web.id ∈ ids [web, web] ∧
      ids (merge [web, web] [api, web, api, db]) = [web.id, web.id, api.id, db.id] ∧
      (ids (merge [web, web] [api, web, api, db])).count api.id = 1 ∧
      (merge [web, web] [api, web, api, db]).filter (fun w => w.id = web.id) = [web, web] := by
  intro web api db
  obtain ⟨hmerge, -, hcount, -, -, hfilter⟩ := merge_adds_firsts [web, web] [api, web, api, db]
  have hapi : api.id ∈ ids [api, web, api, db] := by decide +kernel
  have hnew : api.id ∉ ids [web, web] := by decide +kernel
  have hweb : web.id ∈ ids [web, web] := by decide +kernel
  refine ⟨hapi, hnew, hweb, ?_, hcount _ hapi hnew, ?_⟩
  · rw [hmerge]
    decide +kernel
  · rw [hfilter _ hweb]
    simp

end ClusterInventory.Workloads
