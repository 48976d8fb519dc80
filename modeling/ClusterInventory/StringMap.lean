/-! Finite maps from texts, held as lists of entries with ascending keys, so that two maps with the
same entries are equal. -/

namespace ClusterInventory

structure StringMap (α : Type) where
  entries : List (String × α)
  ascending : entries.Pairwise fun a b => a.1 < b.1

namespace StringMap

variable {α : Type}

instance [DecidableEq α] : DecidableEq (StringMap α) := fun a b =>
  decidable_of_iff (a.entries = b.entries) (by cases a; cases b; simp)

instance [Repr α] : Repr (StringMap α) := ⟨fun m n => reprPrec m.entries n⟩

/-- The map without entries. -/
def empty : StringMap α := ⟨[], .nil⟩

instance : Inhabited (StringMap α) := ⟨empty⟩

/-- Puts an entry where its key belongs, in place of one with that key. -/
def insertEntry (key : String) (v : α) : List (String × α) → List (String × α)
  | [] => [(key, v)]
  | (k, w) :: rest =>
    if key < k then (key, v) :: (k, w) :: rest
    else if key = k then (key, v) :: rest
    else (k, w) :: insertEntry key v rest

theorem key_of_mem_insertEntry {key : String} {v : α} {es : List (String × α)} {e : String × α}
    (h : e ∈ insertEntry key v es) : e.1 = key ∨ e ∈ es := by
  induction es with
  | nil => simp [insertEntry] at h; simp [h]
  | cons head rest ih =>
    obtain ⟨k, w⟩ := head
    simp only [insertEntry] at h
    split at h
    · rcases List.mem_cons.1 h with rfl | h
      · exact .inl rfl
      · exact .inr h
    · split at h
      · rcases List.mem_cons.1 h with rfl | h
        · exact .inl rfl
        · exact .inr (List.mem_cons_of_mem _ h)
      · rcases List.mem_cons.1 h with rfl | h
        · exact .inr List.mem_cons_self
        · exact (ih h).imp_right (List.mem_cons_of_mem _)

theorem insertEntry_ascending (key : String) (v : α) {es : List (String × α)}
    (h : es.Pairwise fun a b => a.1 < b.1) :
    (insertEntry key v es).Pairwise fun a b => a.1 < b.1 := by
  induction es with
  | nil => simp [insertEntry]
  | cons head rest ih =>
    obtain ⟨k, w⟩ := head
    obtain ⟨hk, hrest⟩ := List.pairwise_cons.1 h
    simp only [insertEntry]
    split
    · next hlt =>
      refine List.pairwise_cons.2 ⟨fun e he => ?_, h⟩
      rcases List.mem_cons.1 he with rfl | he
      · exact hlt
      · exact String.lt_trans hlt (hk e he)
    · next hnlt =>
      split
      · next heq => exact List.pairwise_cons.2 ⟨fun e he => heq ▸ hk e he, hrest⟩
      · next hne =>
        refine List.pairwise_cons.2 ⟨fun e he => ?_, ih hrest⟩
        rcases key_of_mem_insertEntry he with heq | he
        · have hle : k ≤ key := String.not_lt.1 hnlt
          rw [heq]
          refine Decidable.byContradiction fun hn => hne ?_
          exact String.le_antisymm (String.not_lt.1 hn) hle
        · exact hk e he

/-- The map with an entry added, in place of one with its key. -/
def insert (m : StringMap α) (key : String) (v : α) : StringMap α :=
  ⟨insertEntry key v m.entries, insertEntry_ascending key v m.ascending⟩

/-- The map of a list of entries; of entries with one key the last one stays. -/
def ofList (es : List (String × α)) : StringMap α :=
  es.foldl (fun m e => m.insert e.1 e.2) empty

def find? (m : StringMap α) (key : String) : Option α :=
  (m.entries.find? fun e => e.1 == key).map (·.2)

def contains (m : StringMap α) (key : String) : Bool := m.entries.any fun e => e.1 == key

/-- The map without the entry of this key. -/
def erase (m : StringMap α) (key : String) : StringMap α :=
  ⟨m.entries.filter fun e => e.1 != key, m.ascending.filter _⟩

def isEmpty (m : StringMap α) : Bool := m.entries.isEmpty

def size (m : StringMap α) : Nat := m.entries.length

end StringMap

end ClusterInventory
