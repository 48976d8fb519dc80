import ClusterInventory.Proofs.Json.Documents

/-!
# Documents held as values

A document that is held as a value has its members in the order of their keys (`Json.sorted`).
`Json.Held` says of which documents nothing is lost thereby: no key stands twice in an object, every
value stands for something, and the nesting is bounded. `Held.sorted` and `mem_sortedMembers_iff`
say what such a document is then.
-/

namespace ClusterInventory

namespace Json

variable {key : String} {n : Nat} {j v : Json} {items : List Json}
  {ms : List (String × Json)}

/-! ## Looking up members -/

theorem lookup_cons (k : String) (v : Json) (ms : List (String × Json)) :
    lookup key ((k, v) :: ms) = (lookup key ms).or (if k = key then some v else none) := by
  rw [lookup]
  cases lookup key ms <;> rfl

theorem mem_of_lookup (h : lookup key ms = some v) : (key, v) ∈ ms := by
  induction ms with
  | nil => cases h
  | cons m ms ih =>
    obtain ⟨k, w⟩ := m
    rw [lookup_cons, Option.or_eq_some_iff] at h
    obtain h | ⟨-, h⟩ := h
    · exact .tail _ (ih h)
    · split at h
      · next hk =>
        cases h
        exact hk ▸ .head _
      · cases h

theorem lookup_eq_none_of_forall (h : ∀ m ∈ ms, m.1 ≠ key) : lookup key ms = none := by
  refine Option.eq_none_iff_forall_ne_some.2 fun v hv => ?_
  exact h _ (mem_of_lookup hv) rfl

/-- Where no key stands twice, every member can be looked up. -/
theorem lookup_eq_some_iff (h : (ms.map (·.1)).Nodup) : lookup key ms = some v ↔ (key, v) ∈ ms := by
  refine ⟨mem_of_lookup, fun hmem => ?_⟩
  induction ms with
  | nil => cases hmem
  | cons m ms ih =>
    obtain ⟨k, w⟩ := m
    obtain ⟨hk, hms⟩ := List.nodup_cons.1 h
    rw [lookup_cons]
    rcases List.mem_cons.1 hmem with hhead | htail
    · cases hhead
      rw [lookup_eq_none_of_forall fun m hm heq => hk (List.mem_map.2 ⟨m, hm, heq⟩),
        Option.none_or, if_pos rfl]
    · rw [ih hms htail, Option.some_or]

theorem lookup_filter {p : String → Bool} (hp : p key = true) (ms : List (String × Json)) :
    lookup key (ms.filter fun m => p m.1) = lookup key ms := by
  induction ms with
  | nil => rfl
  | cons m ms ih =>
    obtain ⟨k, w⟩ := m
    rw [lookup_cons, List.filter_cons]
    split
    · rw [lookup_cons, ih]
    · next hk =>
      have hne : k ≠ key := fun heq => hk (by simpa [heq] using hp)
      rw [ih, if_neg hne, Option.or_none]

theorem mem_of_mem_slots {l : List (String × Option Json)} {m : String × Json} (h : m ∈ slots l) :
    (m.1, some m.2) ∈ l := by
  obtain ⟨⟨k, o⟩, hmem, heq⟩ := List.mem_filterMap.1 h
  obtain ⟨v, rfl, rfl⟩ := Option.map_eq_some_iff.1 heq
  exact hmem

/-- Where no key stands twice, what is looked up among slots is what fills the slot of its key. -/
theorem lookup_slots {l : List (String × Option Json)} {o : Option Json}
    (h : (l.map (·.1)).Nodup) (hmem : (key, o) ∈ l) : lookup key (slots l) = o := by
  induction l with
  | nil => cases hmem
  | cons s l ih =>
    obtain ⟨k, o'⟩ := s
    obtain ⟨hk, hl⟩ := List.nodup_cons.1 h
    have hcons : lookup key (slots ((k, o') :: l)) =
        (lookup key (slots l)).or (if k = key then o' else none) := by
      cases o' with
      | none => rw [ite_self, Option.or_none, slots, List.filterMap_cons_none rfl, slots]
      | some v => exact lookup_cons k v (slots l)
    rw [hcons]
    rcases List.mem_cons.1 hmem with hhead | htail
    · cases hhead
      have hnone : lookup key (slots l) = none := lookup_eq_none_of_forall fun m hm heq =>
        hk (List.mem_map.2 ⟨_, mem_of_mem_slots hm, heq⟩)
      rw [hnone, Option.none_or, if_pos rfl]
    · have hne : k ≠ key := fun heq => hk (List.mem_map.2 ⟨_, htail, heq.symm⟩)
      rw [ih hl htail, if_neg hne, Option.or_none]

theorem unique?_of_nodup (h : (ms.map (·.1)).Nodup) (key : String) :
    Fields.unique? key ms = some (lookup key ms) := by
  have hkey : ∀ m ∈ ms.filter (·.1 == key), m.1 = key := fun m hm =>
    eq_of_beq (List.mem_filter.1 hm).2
  have hnodup : ((ms.filter (·.1 == key)).map (·.1)).Nodup :=
    h.sublist ((List.filter_sublist).map _)
  rw [← lookup_filter (p := (· == key)) (beq_self_eq_true key) ms]
  unfold Fields.unique?
  generalize ms.filter (·.1 == key) = found at hkey hnodup
  match found with
  | [] => rfl
  | [(k, v)] =>
    obtain rfl : k = key := hkey _ (.head _)
    simp [lookup]
  | (k, v) :: (k', v') :: rest =>
    obtain rfl : k = key := hkey _ (.head _)
    obtain rfl : k' = k := hkey _ (.tail _ (.head _))
    simp at hnodup

/-! ## Sorted members -/

theorem lookup_insertEntry {es : List (String × Json)} (h : es.Pairwise fun a b => a.1 < b.1)
    (k : String) (v : Json) :
    lookup key (StringMap.insertEntry k v es) = if k = key then some v else lookup key es := by
  induction es with
  | nil => simp [StringMap.insertEntry, lookup_cons, lookup]
  | cons e es ih =>
    obtain ⟨k', w⟩ := e
    obtain ⟨hk', hes⟩ := List.pairwise_cons.1 h
    -- the keys after that of an entry are greater, so none of them is looked up for it
    have hnone : ∀ e ∈ (k', w) :: es, k < k' → e.1 ≠ k := by
      intro e he hlt heq
      rcases List.mem_cons.1 he with rfl | he
      · exact String.lt_irrefl k (heq ▸ hlt)
      · have hlt' : k < e.1 := String.lt_trans hlt (hk' e he)
        exact String.lt_irrefl k (heq ▸ hlt')
    rw [StringMap.insertEntry]
    split
    · next hlt =>
      rw [lookup_cons]
      split
      · next heq =>
        subst heq
        rw [lookup_eq_none_of_forall fun e he => hnone e he hlt, Option.none_or]
      · rw [Option.or_none]
    · split
      · next heq =>
        subst heq
        have hrest : k = key → lookup key es = none := by
          rintro rfl
          exact lookup_eq_none_of_forall fun e he heq =>
            String.lt_irrefl k (by simpa [heq] using hk' e he)
        rw [lookup_cons, lookup_cons]
        split
        · next hkey => rw [hrest hkey, Option.none_or]
        · simp
      · next hne =>
        rw [lookup_cons, ih hes, lookup_cons]
        split
        · next hkey =>
          subst hkey
          rw [Option.some_or]
        · rfl

/-- The members added to a map one after the other, each with its value sorted. -/
theorem sortedMembers_entries (m : StringMap Json) (ms : List (String × Json)) :
    sortedMembers m.entries ms =
      (ms.foldl (fun m e => m.insert e.1 e.2.sorted) m).entries := by
  induction ms generalizing m with
  | nil => rfl
  | cons e ms ih => exact ih (m.insert e.1 e.2.sorted)

theorem sortedMembers_ascending (ms : List (String × Json)) :
    (sortedMembers [] ms).Pairwise fun a b => a.1 < b.1 := by
  rw [show ([] : List (String × Json)) = (StringMap.empty (α := Json)).entries from rfl,
    sortedMembers_entries]
  exact StringMap.ascending _

/-- The keys of an ascending list of members are distinct. -/
theorem nodup_of_ascending (h : ms.Pairwise fun a b => a.1 < b.1) : (ms.map (·.1)).Nodup :=
  List.pairwise_map.2 (h.imp fun {a b} (hlt : a.1 < b.1) (heq : a.1 = b.1) =>
    String.lt_irrefl b.1 (heq ▸ hlt))

theorem lookup_sortedMembers (key : String) (ms : List (String × Json)) :
    lookup key (sortedMembers [] ms) = (lookup key ms).map sorted := by
  have hfold : ∀ m : StringMap Json,
      lookup key (sortedMembers m.entries ms) =
        ((lookup key ms).map sorted).or (lookup key m.entries) := by
    induction ms with
    | nil => intro m; rfl
    | cons e ms ih =>
      intro m
      obtain ⟨k, v⟩ := e
      rw [sortedMembers, lookup_cons]
      refine (ih (m.insert k v.sorted)).trans ?_
      rw [show (m.insert k v.sorted).entries = StringMap.insertEntry k v.sorted m.entries from rfl,
        lookup_insertEntry m.ascending]
      cases lookup key ms with
      | some w => rfl
      | none => split <;> rfl
  exact (hfold .empty).trans (Option.or_none)

@[simp] theorem get?_sorted (j : Json) (key : String) :
    j.sorted.get? key = (j.get? key).map sorted := by
  cases j with
  | obj ms => exact lookup_sortedMembers key ms
  | _ => rfl

/-- Where no key stands twice, every member stays, with its value sorted. -/
theorem mem_sortedMembers_iff (h : (ms.map (·.1)).Nodup) {m : String × Json} :
    m ∈ sortedMembers [] ms ↔ ∃ v, (m.1, v) ∈ ms ∧ m.2 = v.sorted := by
  obtain ⟨key, w⟩ := m
  rw [← lookup_eq_some_iff (nodup_of_ascending (sortedMembers_ascending ms)),
    lookup_sortedMembers, Option.map_eq_some_iff]
  simp only [lookup_eq_some_iff h]
  exact exists_congr fun v => and_congr_right fun _ => eq_comm

theorem forall_mem_sortedMembers (h : (ms.map (·.1)).Nodup) {P : String → Json → Prop} :
    (∀ m ∈ sortedMembers [] ms, P m.1 m.2) ↔ ∀ m ∈ ms, P m.1 m.2.sorted := by
  constructor
  · intro hsorted m hm
    exact hsorted (m.1, m.2.sorted) ((mem_sortedMembers_iff h).2 ⟨m.2, hm, rfl⟩)
  · intro hms m hm
    obtain ⟨v, hv, hm⟩ := (mem_sortedMembers_iff h).1 hm
    exact hm ▸ hms _ hv

theorem sortedItems_eq (items : List Json) : sortedItems items = items.map sorted := by
  induction items with
  | nil => rfl
  | cons j items ih => rw [sortedItems, ih, List.map_cons]

@[simp] theorem sorted_eq_null_iff : j.sorted = .null ↔ j = .null := by
  cases j <;> simp [sorted]

theorem sorted_eq_str_iff {s : String} : j.sorted = .str s ↔ j = .str s := by
  cases j <;> simp [sorted]

theorem itemsReadable_iff :
    itemsReadable items = true ↔ ∀ j ∈ items, j.isReadable = true := by
  induction items with
  | nil => simp [itemsReadable]
  | cons j rest ih => simp [itemsReadable, ih]

theorem membersReadable_iff :
    membersReadable ms = true ↔ ∀ m ∈ ms, m.2.isReadable = true := by
  induction ms with
  | nil => simp [membersReadable]
  | cons m rest ih => simp [membersReadable, ih]

/-! ## Documents of which nothing is lost -/

/-- No key stands twice in an object, every value stands for something, and no part has more than
so many arrays and objects around it. -/
inductive Held : Nat → Json → Prop where
  | null {n : Nat} : Held n .null
  | bool {n : Nat} (b : Bool) : Held n (.bool b)
  | int {n : Nat} (i : Int) : Held n (.int i)
  | float {n : Nat} (x : Binary64) : Held n (.float x)
  | str {n : Nat} (s : String) : Held n (.str s)
  | arr {n : Nat} {items : List Json} : (∀ j ∈ items, Held n j) → Held (n + 1) (.arr items)
  | obj {n : Nat} {ms : List (String × Json)} : (ms.map (·.1)).Nodup → (∀ m ∈ ms, Held n m.2) →
    Held (n + 1) (.obj ms)

attribute [simp] Held.null Held.bool Held.int Held.float Held.str

namespace Held

theorem mono (h : j.Held n) {k : Nat} (hk : n ≤ k) : j.Held k := by
  induction h generalizing k with
  | null => exact .null
  | bool b => exact .bool b
  | int i => exact .int i
  | float x => exact .float x
  | str s => exact .str s
  | arr _ ih =>
    obtain ⟨k, rfl⟩ := Nat.exists_eq_add_of_le' (Nat.le_of_add_left_le hk)
    exact .arr fun j hj => ih j hj (Nat.le_of_succ_le_succ hk)
  | obj hnodup _ ih =>
    obtain ⟨k, rfl⟩ := Nat.exists_eq_add_of_le' (Nat.le_of_add_left_le hk)
    exact .obj hnodup fun m hm => ih m hm (Nat.le_of_succ_le_succ hk)

@[simp] theorem arr_iff : (Json.arr items).Held (n + 1) ↔ ∀ j ∈ items, j.Held n :=
  ⟨fun | .arr h => h, .arr⟩

@[simp] theorem obj_iff :
    (Json.obj ms).Held (n + 1) ↔ (ms.map (·.1)).Nodup ∧ ∀ m ∈ ms, m.2.Held n :=
  ⟨fun | .obj hnodup h => ⟨hnodup, h⟩, fun h => .obj h.1 h.2⟩

theorem nodup (h : (Json.obj ms).Held n) : (ms.map (·.1)).Nodup := by
  cases h with
  | obj hnodup _ => exact hnodup

theorem filter (h : (Json.obj ms).Held n) (p : String × Json → Bool) :
    (Json.obj (ms.filter p)).Held n := by
  cases h with
  | obj hnodup h =>
    exact .obj (hnodup.sublist (List.filter_sublist.map _)) fun m hm =>
      h m (List.mem_filter.1 hm).1

theorem isReadable (h : j.Held n) : j.isReadable = true := by
  induction h with
  | arr _ ih => exact itemsReadable_iff.2 ih
  | obj _ _ ih => exact membersReadable_iff.2 ih
  | _ => rfl

theorem depth_le (h : j.Held n) : j.depth ≤ n := by
  induction h with
  | arr _ ih => exact Nat.succ_le_succ (itemsDepth_le_iff.2 ih)
  | obj _ _ ih => exact Nat.succ_le_succ (membersDepth_le_iff.2 ih)
  | _ => exact Nat.zero_le _

/-- A document keeps being held when it is sorted. -/
theorem sorted (h : j.Held n) : j.sorted.Held n := by
  induction h with
  | null => exact .null
  | bool b => exact .bool b
  | int i => exact .int i
  | float x => exact .float x
  | str s => exact .str s
  | arr _ ih =>
    refine .arr fun j hj => ?_
    rw [sortedItems_eq] at hj
    obtain ⟨j', hj', rfl⟩ := List.mem_map.1 hj
    exact ih j' hj'
  | obj hnodup _ ih =>
    refine .obj (nodup_of_ascending (sortedMembers_ascending _)) fun m hm => ?_
    obtain ⟨v, hv, hm⟩ := (mem_sortedMembers_iff hnodup).1 hm
    exact hm ▸ ih _ hv

theorem lookup (h : (Json.obj ms).Held n) (hv : Json.lookup key ms = some v) :
    v.Held (n - 1) := by
  cases h with
  | obj _ h => exact h _ (mem_of_lookup hv)

theorem get? (h : j.Held n) (hv : j.get? key = some v) : v.Held n := by
  cases h with
  | obj _ h => exact (h _ (mem_of_lookup hv)).mono (Nat.le_succ _)
  | _ => cases hv

end Held

end Json

end ClusterInventory
