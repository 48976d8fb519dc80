import ClusterInventory.Json.Basic

/-! Free-form documents in normal form: the keys of every object ascend, whole numbers fit in 64
bits, and floats are finite. Two such documents are equal when they have the same content. -/

namespace ClusterInventory

namespace Json

mutual

def isCanonical : Json → Bool
  | .int n => -9223372036854775808 ≤ n && n ≤ 18446744073709551615
  | .float x => x.isFinite
  | .arr items => itemsCanonical items
  | .obj members => membersCanonical members
  | .unreadable => false
  | _ => true

def itemsCanonical : List Json → Bool
  | [] => true
  | j :: rest => j.isCanonical && itemsCanonical rest

/-- The keys ascend, and every value is in normal form. -/
def membersCanonical : List (String × Json) → Bool
  | [] => true
  | (k, v) :: rest =>
    v.isCanonical && rest.all (fun m => k < m.1) && membersCanonical rest

end

theorem itemsCanonical_iff {items : List Json} :
    itemsCanonical items = true ↔ ∀ j ∈ items, j.isCanonical = true := by
  induction items with
  | nil => simp [itemsCanonical]
  | cons j rest ih => simp [itemsCanonical, ih]

theorem membersCanonical_iff {ms : List (String × Json)} :
    membersCanonical ms = true ↔
      ms.Pairwise (fun a b => a.1 < b.1) ∧ ∀ m ∈ ms, m.2.isCanonical = true := by
  induction ms with
  | nil => simp [membersCanonical]
  | cons m rest ih =>
    obtain ⟨k, v⟩ := m
    simp only [membersCanonical, Bool.and_eq_true, List.all_eq_true, decide_eq_true_eq, ih,
      List.pairwise_cons, List.mem_cons, forall_eq_or_imp]
    grind

end Json

structure Document where
  json : Json
  canonical : json.isCanonical = true

namespace Document

def null : Document := ⟨.null, rfl⟩

instance : Inhabited Document := ⟨null⟩

def bool (b : Bool) : Document := ⟨.bool b, rfl⟩

def str (s : String) : Document := ⟨.str s, rfl⟩

/-- A whole number of 64 bits with sign. -/
def int64 (n : Int64) : Document :=
  ⟨.int n.toInt, by
    have hlo := Int64.le_toInt n
    have hhi := Int64.toInt_lt n
    simp only [Json.isCanonical, Bool.and_eq_true, decide_eq_true_eq]
    omega⟩

def list (items : List Document) : Document :=
  ⟨.arr (items.map json), by
    simp only [Json.isCanonical, Json.itemsCanonical_iff, List.mem_map, forall_exists_index,
      and_imp, forall_apply_eq_imp_iff₂]
    exact fun d _ => d.canonical⟩

/-- The members of a map of documents are in normal form. -/
theorem members_canonical (m : StringMap Document) :
    (Json.obj (m.entries.map fun e => (e.1, e.2.json))).isCanonical = true := by
  refine Json.membersCanonical_iff.2 ⟨List.pairwise_map.2 m.ascending, fun e he => ?_⟩
  obtain ⟨e, _, rfl⟩ := List.mem_map.1 he
  exact e.2.canonical

/-- An object with the given members; of members with one key the last one stays. -/
def object (members : List (String × Document)) : Document :=
  ⟨.obj ((StringMap.ofList members).entries.map fun e => (e.1, e.2.json)),
    (members_canonical (StringMap.ofList members) :)⟩

/-- The object without members. -/
def emptyObject : Document := ⟨.obj [], rfl⟩

/-- A document or nothing. -/
def ofOption {α : Type} (f : α → Document) : Option α → Document
  | some a => f a
  | none => null

/-- The normal form of a document, if every part of it can be read. -/
def ofJson? (j : Json) : Option Document :=
  if h : j.sorted.isCanonical = true then some ⟨j.sorted, h⟩ else none

end Document

end ClusterInventory
