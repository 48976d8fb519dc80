import ClusterInventory.Json.Document
import ClusterInventory.Json.Encoder
import ClusterInventory.Proofs.Json.Records
import ClusterInventory.Proofs.Json.RoundTrip

/-!
# Documents within bounds

`Json.Fits` bounds the depth of a document that can be read back from its text. A free-form
document is its own normal form (`Document.ofJson?_json`), and can be read back if it is plain:
without floats, and of bounded depth (`Document.Plain.fits`).
-/

namespace ClusterInventory

namespace Json

variable {α : Type} {n : Nat}

/-! ## Depth -/

theorem itemsExact_iff {items : List Json} :
    itemsExact items = true ↔ ∀ j ∈ items, j.isExact = true := by
  induction items with
  | nil => simp [itemsExact]
  | cons j rest ih => simp [itemsExact, ih]

theorem membersExact_iff {ms : List (String × Json)} :
    membersExact ms = true ↔ ∀ m ∈ ms, m.2.isExact = true := by
  induction ms with
  | nil => simp [membersExact]
  | cons m rest ih => simp [membersExact, ih]

theorem itemsDepth_le_iff {items : List Json} :
    itemsDepth items ≤ n ↔ ∀ j ∈ items, j.depth ≤ n := by
  induction items with
  | nil => simp [itemsDepth]
  | cons j rest ih => rw [itemsDepth, Nat.max_le, ih, List.forall_mem_cons]

theorem membersDepth_le_iff {ms : List (String × Json)} :
    membersDepth ms ≤ n ↔ ∀ m ∈ ms, m.2.depth ≤ n := by
  induction ms with
  | nil => simp [membersDepth]
  | cons m rest ih => rw [membersDepth, Nat.max_le, ih, List.forall_mem_cons]

/-- The document can be read back from its text, and has at most so many arrays and objects around
its innermost part. -/
structure Fits (n : Nat) (j : Json) : Prop where
  exact : j.isExact = true
  depth_le : j.depth ≤ n

namespace Fits

@[simp] theorem str (s : String) : (Json.str s).Fits n := ⟨rfl, Nat.zero_le n⟩

@[simp] theorem bool (b : Bool) : (Json.bool b).Fits n := ⟨by cases b <;> rfl, Nat.zero_le n⟩

theorem int {i : Int} (h : -9223372036854775808 ≤ i ∧ i ≤ 18446744073709551615) :
    (Json.int i).Fits n :=
  ⟨by simp [isExact, h], Nat.zero_le n⟩

@[simp] theorem int64 (i : Int64) : (Json.int i.toInt).Fits n := by
  have hlo := Int64.le_toInt i
  have hhi := Int64.toInt_lt i
  exact int (by omega)

@[simp] theorem uint64 (i : UInt64) : (Json.int i.toNat).Fits n := by
  have := i.toNat_lt
  exact int (by omega)

@[simp] theorem uint32 (i : UInt32) : (Json.int i.toNat).Fits n := by
  have := i.toNat_lt
  exact int (by omega)

@[simp] theorem instant (t : Instant) : (Json.instant t).Fits n := str t.text

@[simp] theorem arr_iff {items : List Json} :
    (Json.arr items).Fits (n + 1) ↔ ∀ j ∈ items, j.Fits n := by
  constructor
  · rintro ⟨hexact, hdepth⟩ j hj
    exact ⟨itemsExact_iff.1 hexact j hj,
      itemsDepth_le_iff.1 (Nat.le_of_succ_le_succ hdepth) j hj⟩
  · intro h
    exact ⟨itemsExact_iff.2 fun j hj => (h j hj).exact,
      Nat.succ_le_succ (itemsDepth_le_iff.2 fun j hj => (h j hj).depth_le)⟩

end Fits

/-- Each of the members can be read back and has at most so many arrays and objects around its
innermost part. -/
def MembersFit (n : Nat) (ms : List (String × Json)) : Prop := ∀ m ∈ ms, m.2.Fits n

namespace MembersFit

variable {key : String} {v : Json} {ms ms' : List (String × Json)}

@[simp] theorem nil : MembersFit n [] := fun _ h => by cases h

@[simp] theorem cons_iff : MembersFit n ((key, v) :: ms) ↔ v.Fits n ∧ MembersFit n ms :=
  List.forall_mem_cons

@[simp] theorem append_iff : MembersFit n (ms ++ ms') ↔ MembersFit n ms ∧ MembersFit n ms' :=
  List.forall_mem_append

@[simp] theorem memberOf_iff {f : α → Json} {o : Option α} :
    MembersFit n (memberOf key f o) ↔ ∀ a, o = some a → (f a).Fits n := by
  cases o <;> simp [memberOf]

@[simp] theorem memberIf_iff {shown : Bool} :
    MembersFit n (memberIf shown key v) ↔ (shown = true → v.Fits n) := by
  cases shown <;> simp [memberIf]

end MembersFit

@[simp] theorem Fits.obj_iff {ms : List (String × Json)} :
    (Json.obj ms).Fits (n + 1) ↔ MembersFit n ms := by
  constructor
  · rintro ⟨hexact, hdepth⟩ m hm
    exact ⟨membersExact_iff.1 hexact m hm,
      membersDepth_le_iff.1 (Nat.le_of_succ_le_succ hdepth) m hm⟩
  · intro h
    exact ⟨membersExact_iff.2 fun m hm => (h m hm).exact,
      Nat.succ_le_succ (membersDepth_le_iff.2 fun m hm => (h m hm).depth_le)⟩

@[simp] theorem Fits.strings (items : List String) : (Json.strings items).Fits (n + 1) := by
  simp [Json.strings]

@[simp] theorem Fits.stringMap (m : StringMap String) : (Json.stringMap m).Fits (n + 1) := by
  refine obj_iff.2 fun member hmember => ?_
  obtain ⟨e, _, rfl⟩ := List.mem_map.1 hmember
  exact str e.2

/-! ## Free-form documents -/

mutual

/-- No float is anywhere in the document. -/
def floatFree : Json → Bool
  | .float _ => false
  | .arr items => itemsFloatFree items
  | .obj members => membersFloatFree members
  | _ => true

def itemsFloatFree : List Json → Bool
  | [] => true
  | j :: rest => j.floatFree && itemsFloatFree rest

def membersFloatFree : List (String × Json) → Bool
  | [] => true
  | (_, v) :: rest => v.floatFree && membersFloatFree rest

end

mutual

/-- A document in normal form can be read back unless it has floats. -/
theorem isExact_of_floatFree : ∀ j : Json, j.isCanonical = true → j.floatFree = true →
    j.isExact = true
  | .null, _, _ => rfl
  | .bool b, _, _ => by cases b <;> rfl
  | .int n, h, _ => h
  | .float x, _, h => by cases h
  | .str s, _, _ => rfl
  | .arr items, h, hfree => itemsExact_of_floatFree items h hfree
  | .obj members, h, hfree => membersExact_of_floatFree members h hfree
  | .unreadable, h, _ => by cases h

theorem itemsExact_of_floatFree : ∀ items : List Json, itemsCanonical items = true →
    itemsFloatFree items = true → itemsExact items = true
  | [], _, _ => rfl
  | j :: rest, h, hfree => by
    simp only [itemsCanonical, itemsFloatFree, Bool.and_eq_true] at h hfree
    rw [itemsExact, isExact_of_floatFree j h.1 hfree.1,
      itemsExact_of_floatFree rest h.2 hfree.2]
    rfl

theorem membersExact_of_floatFree : ∀ ms : List (String × Json), membersCanonical ms = true →
    membersFloatFree ms = true → membersExact ms = true
  | [], _, _ => rfl
  | (_, v) :: rest, h, hfree => by
    simp only [membersCanonical, membersFloatFree, Bool.and_eq_true] at h hfree
    rw [membersExact, isExact_of_floatFree v h.1.1 hfree.1,
      membersExact_of_floatFree rest h.2 hfree.2]
    rfl

end

theorem itemsFloatFree_iff {items : List Json} :
    itemsFloatFree items = true ↔ ∀ j ∈ items, j.floatFree = true := by
  induction items with
  | nil => simp [itemsFloatFree]
  | cons j rest ih => simp [itemsFloatFree, ih]

theorem membersFloatFree_iff {ms : List (String × Json)} :
    membersFloatFree ms = true ↔ ∀ m ∈ ms, m.2.floatFree = true := by
  induction ms with
  | nil => simp [membersFloatFree]
  | cons m rest ih => simp [membersFloatFree, ih]

mutual

/-- A document in normal form is sorted. -/
theorem sorted_of_isCanonical : ∀ j : Json, j.isCanonical = true → j.sorted = j
  | .null, _ => rfl
  | .bool b, _ => rfl
  | .int n, _ => rfl
  | .float x, _ => rfl
  | .str s, _ => rfl
  | .arr items, h => by rw [sorted, sortedItems_of_itemsCanonical items h]
  | .obj members, h => by
    rw [sorted, sortedMembers_of_membersCanonical members [] h (membersCanonical_iff.1 h).1,
      List.nil_append]
  | .unreadable, h => by cases h

theorem sortedItems_of_itemsCanonical : ∀ items : List Json, itemsCanonical items = true →
    sortedItems items = items
  | [], _ => rfl
  | j :: rest, h => by
    simp only [itemsCanonical, Bool.and_eq_true] at h
    rw [sortedItems, sorted_of_isCanonical j h.1, sortedItems_of_itemsCanonical rest h.2]

theorem sortedMembers_of_membersCanonical : ∀ (ms done : List (String × Json)),
    membersCanonical ms = true → (done ++ ms).Pairwise (fun a b => a.1 < b.1) →
    sortedMembers done ms = done ++ ms
  | [], done, _, _ => (List.append_nil done).symm
  | (key, v) :: rest, done, h, hdone => by
    simp only [membersCanonical, Bool.and_eq_true] at h
    have hlast : StringMap.insertEntry key v done = done ++ [(key, v)] :=
      StringMap.insertEntry_of_greatest fun e he =>
        (List.pairwise_append.1 hdone).2.2 e he (key, v) (.head _)
    have hdone' : done ++ (key, v) :: rest = done ++ [(key, v)] ++ rest := by simp
    rw [sortedMembers, sorted_of_isCanonical v h.1.1, hlast,
      sortedMembers_of_membersCanonical rest _ h.2 (by rwa [← hdone']), ← hdone']

end

end Json

namespace Document

/-- A free-form document is read back from itself. -/
@[simp] theorem ofJson?_json (d : Document) : ofJson? d.json = some d := by
  have hsorted := Json.sorted_of_isCanonical d.json d.canonical
  unfold ofJson?
  rw [dif_pos (by rw [hsorted]; exact d.canonical)]
  congr 1
  cases d
  congr 1

/-- No part of the document is a float, and fewer than so many arrays and objects are around its
innermost part. -/
structure Plain (n : Nat) (d : Document) : Prop where
  floatFree : d.json.floatFree = true
  depth_lt : d.json.depth < n

namespace Plain

variable {n : Nat}

theorem fits {d : Document} (h : d.Plain (n + 1)) : d.json.Fits n :=
  ⟨Json.isExact_of_floatFree d.json d.canonical h.floatFree, Nat.le_of_lt_succ h.depth_lt⟩

@[simp] theorem null : Document.null.Plain (n + 1) := ⟨rfl, Nat.succ_pos n⟩

@[simp] theorem bool (b : Bool) : (Document.bool b).Plain (n + 1) := ⟨rfl, Nat.succ_pos n⟩

@[simp] theorem str (s : String) : (Document.str s).Plain (n + 1) := ⟨rfl, Nat.succ_pos n⟩

@[simp] theorem int64 (i : Int64) : (Document.int64 i).Plain (n + 1) := ⟨rfl, Nat.succ_pos n⟩

theorem emptyObject : Document.emptyObject.Plain (n + 2) :=
  ⟨rfl, Nat.succ_lt_succ (Nat.succ_pos n)⟩

theorem ofOption {α : Type} {f : α → Document} (h : ∀ a, (f a).Plain (n + 1)) (o : Option α) :
    (Document.ofOption f o).Plain (n + 1) := by
  cases o with
  | none => exact null
  | some a => exact h a

theorem list {ds : List Document} (h : ∀ d ∈ ds, d.Plain (n + 1)) :
    (Document.list ds).Plain (n + 2) := by
  constructor
  · refine Json.itemsFloatFree_iff.2 fun j hj => ?_
    obtain ⟨d, hd, rfl⟩ := List.mem_map.1 hj
    exact (h d hd).floatFree
  · refine Nat.succ_lt_succ (Nat.lt_succ_of_le (Json.itemsDepth_le_iff.2 fun j hj => ?_))
    obtain ⟨d, hd, rfl⟩ := List.mem_map.1 hj
    exact Nat.le_of_lt_succ (h d hd).depth_lt

theorem object {ms : List (String × Document)} (h : ∀ m ∈ ms, m.2.Plain (n + 1)) :
    (Document.object ms).Plain (n + 2) := by
  have hmem : ∀ m ∈ (StringMap.ofList ms).entries, m.2.Plain (n + 1) :=
    fun m hm => h m (StringMap.mem_of_mem_ofList hm)
  constructor
  · refine Json.membersFloatFree_iff.2 fun m hm => ?_
    obtain ⟨e, he, rfl⟩ := List.mem_map.1 hm
    exact (hmem e he).floatFree
  · refine Nat.succ_lt_succ (Nat.lt_succ_of_le (Json.membersDepth_le_iff.2 fun m hm => ?_))
    obtain ⟨e, he, rfl⟩ := List.mem_map.1 hm
    exact Nat.le_of_lt_succ (hmem e he).depth_lt

end Plain

end Document

end ClusterInventory
