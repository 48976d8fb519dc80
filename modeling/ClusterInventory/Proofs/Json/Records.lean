import ClusterInventory.Json.Decoder
import ClusterInventory.Json.Encoder
import ClusterInventory.Proofs.Time.Reading

/-!
# Records read back field by field

The members of a record are told by its slots: every key that the record may have, with the value
under it if there is one. A record is read back when each of its fields is read back from its slot
(`Reads`), and that is known of every kind of field. Lists and maps are read back when their values
are (`list_map`, `map_stringMap`).
-/

namespace ClusterInventory

theorem StringMap.ext_entries {α : Type} {m n : StringMap α} (h : m.entries = n.entries) :
    m = n := by
  cases m
  cases n
  cases h
  rfl

theorem StringMap.isEmpty_iff {α : Type} {m : StringMap α} :
    m.isEmpty = true ↔ m = .empty := by
  rw [StringMap.isEmpty, List.isEmpty_iff]
  exact ⟨fun h => ext_entries h, fun h => h ▸ rfl⟩

/-- An entry with the greatest key goes to the end. -/
theorem StringMap.insertEntry_of_greatest {α : Type} {key : String} {v : α}
    {es : List (String × α)} (h : ∀ e ∈ es, e.1 < key) :
    insertEntry key v es = es ++ [(key, v)] := by
  induction es with
  | nil => rfl
  | cons e es ih =>
    obtain ⟨k, w⟩ := e
    have hk : k < key := h (k, w) (.head _)
    have hne : key ≠ k := fun heq => String.lt_irrefl k (heq ▸ hk)
    rw [insertEntry, if_neg (String.lt_asymm hk), if_neg hne,
      ih fun e he => h e (.tail _ he), List.cons_append]

/-- A map is made of its own entries. -/
theorem StringMap.ofList_entries {α : Type} (m : StringMap α) : ofList m.entries = m := by
  have hfold : ∀ (es : List (String × α)) (n : StringMap α),
      (n.entries ++ es).Pairwise (fun a b => a.1 < b.1) →
      (es.foldl (fun m e => m.insert e.1 e.2) n).entries = n.entries ++ es := by
    intro es
    induction es with
    | nil => intro n _; simp
    | cons e es ih =>
      intro n hn
      have hlast : (n.insert e.1 e.2).entries = n.entries ++ [e] :=
        insertEntry_of_greatest fun e' he' =>
          (List.pairwise_append.1 hn).2.2 e' he' e (.head _)
      have hn' : n.entries ++ e :: es = (n.entries ++ [e]) ++ es := by simp
      rw [List.foldl_cons, ih _ (by rwa [hlast, ← hn']), hlast, hn']
  exact ext_entries (hfold m.entries .empty m.ascending)

theorem StringMap.mem_insertEntry {α : Type} {key : String} {v : α} {es : List (String × α)}
    {e : String × α} (h : e ∈ insertEntry key v es) : e = (key, v) ∨ e ∈ es := by
  induction es with
  | nil => exact .inl (List.mem_singleton.1 h)
  | cons head rest ih =>
    rw [insertEntry] at h
    split at h
    · exact List.mem_cons.1 h
    · split at h
      · exact (List.mem_cons.1 h).imp_right (.tail _)
      · rcases List.mem_cons.1 h with rfl | h
        · exact .inr (.head _)
        · exact (ih h).imp_right (.tail _)

theorem StringMap.mem_of_mem_ofList {α : Type} {es : List (String × α)} {e : String × α}
    (h : e ∈ (ofList es).entries) : e ∈ es := by
  have hfold : ∀ (es : List (String × α)) (m : StringMap α),
      e ∈ (es.foldl (fun m e => m.insert e.1 e.2) m).entries → e ∈ m.entries ∨ e ∈ es := by
    intro es
    induction es with
    | nil => exact fun m h => .inl h
    | cons e' es ih =>
      intro m h
      rcases ih _ h with h | h
      · rcases mem_insertEntry h with rfl | h
        · exact .inr (.head _)
        · exact .inl h
      · exact .inr (.tail _ h)
  exact (hfold es .empty h).resolve_left nofun

namespace Json

variable {α β : Type}

/-! ## Slots -/

/-- The members that fill slots. -/
def slots (l : List (String × Option Json)) : List (String × Json) :=
  l.filterMap fun s => s.2.map (s.1, ·)

theorem nil_eq_slots : ([] : List (String × Json)) = slots [] := rfl

theorem cons_slots (key : String) (v : Json) (l : List (String × Option Json)) :
    (key, v) :: slots l = slots ((key, some v) :: l) :=
  rfl

theorem slots_append (l l' : List (String × Option Json)) :
    slots l ++ slots l' = slots (l ++ l') :=
  (List.filterMap_append ..).symm

theorem memberOf_eq_slots (key : String) (f : α → Json) (o : Option α) :
    memberOf key f o = slots [(key, o.map f)] := by
  cases o <;> rfl

theorem memberIf_eq_slots (shown : Bool) (key : String) (v : Json) :
    memberIf shown key v = slots [(key, if shown then some v else none)] := by
  cases shown <;> rfl

theorem filter_slots (key : String) (l : List (String × Option Json)) :
    (slots l).filter (·.1 == key) = slots (l.filter (·.1 == key)) := by
  induction l with
  | nil => rfl
  | cons s l ih =>
    obtain ⟨k, o⟩ := s
    have hslots (l : List (String × Option Json)) :
        slots ((k, o) :: l) = (o.map (k, ·)).toList ++ slots l := by
      cases o <;> rfl
    rw [hslots, List.filter_append, ih, List.filter_cons]
    by_cases h : k == key
    · rw [if_pos h, hslots]
      cases o <;> simp [h]
    · rw [if_neg h]
      cases o <;> simp [h]

end Json

/-! ## Fields -/

variable {α β : Type}

/-- The fields read `a` from the members of a record and leave those as they are. -/
def Reads (fields : Fields α) (ms : List (String × Json)) (a : α) : Prop :=
  fields.run (.members ms) = some (a, .members ms)

namespace Reads

variable {key : String} {d : Decoder α} {l : List (String × Option Json)}
  {ms : List (String × Json)} {f : α → Fields β} {a : α} {b : β} {j : Json}

theorem pure (a : α) : Reads (pure a) ms a := rfl

theorem bind {x : Fields α} (hx : Reads x ms a) (hf : Reads (f a) ms b) :
    Reads (x >>= f) ms b := by
  unfold Reads at *
  rw [StateT.run_bind, hx]
  exact hf

/-- What stands in the one slot of a key. -/
theorem next {o : Option Json} (h : l.filter (·.1 == key) = [(key, o)]) :
    Reads (Fields.next key) (Json.slots l) o := by
  have hunique : Fields.unique? key (Json.slots l) = some o := by
    rw [Fields.unique?, Json.filter_slots, h]
    cases o <;> rfl
  show (Fields.unique? key (Json.slots l)).bind _ = _
  rw [hunique]
  rfl

theorem lift {o : Option α} (h : o = some a) : Reads (StateT.lift o) ms a := by
  rw [h]
  rfl

theorem required (h : l.filter (·.1 == key) = [(key, some j)]) (hd : d j = some a) :
    Reads (Fields.required key d) (Json.slots l) a :=
  .bind (.next h) (.lift hd)

theorem withDefault {missing : α} (h : l.filter (·.1 == key) = [(key, some j)])
    (hd : d j = some a) : Reads (Fields.withDefault key missing d) (Json.slots l) a :=
  .bind (.next h) (.lift hd)

/-- A member that may be left out when its field has the value that counts as missing. -/
theorem skipped {missing : α} {shown : Bool}
    (h : l.filter (·.1 == key) = [(key, if shown then some j else none)]) (hd : d j = some a)
    (hmissing : shown = false → a = missing) :
    Reads (Fields.withDefault key missing d) (Json.slots l) a := by
  cases shown with
  | true => exact withDefault h hd
  | false =>
    rw [hmissing rfl]
    exact .bind (.next h) (.pure missing)

theorem optional {g : α → Json} {o : Option α} (h : l.filter (·.1 == key) = [(key, o.map g)])
    (hd : ∀ a, o = some a → Decoder.optional d (g a) = some (some a)) :
    Reads (Fields.optional key d) (Json.slots l) o := by
  cases o with
  | none => exact .bind (.next h) (.pure none)
  | some a => exact withDefault h (hd a rfl)

end Reads

namespace Decoder

variable {d : Decoder α} {f : α → Json}

theorem record_slots {fields : Fields α} {l : List (String × Option Json)} {a : α}
    (h : Reads fields (Json.slots l) a) : record fields (.obj (Json.slots l)) = some a := by
  rw [record, h]
  rfl

theorem objectRecord_slots {fields : Fields α} {l : List (String × Option Json)} {a : α}
    (h : Reads fields (Json.slots l) a) : objectRecord fields (.obj (Json.slots l)) = some a := by
  rw [objectRecord, h]
  rfl

/-! ## Values -/

theorem instant_instant (t : Instant) : instant (Json.instant t) = some t := by
  rw [Json.instant, instant, Instant.text, String.toList_ofList, Instant.readRelaxed?_chars]

theorem intWithin_int {least most n : Int} (h : least ≤ n ∧ n ≤ most) :
    intWithin least most (.int n) = some n := by
  simp [intWithin, h]

theorem int64_int (n : Int64) : int64 (.int n.toInt) = some n := by
  have hlo := Int64.le_toInt n
  have hhi := Int64.toInt_lt n
  rw [int64, intWithin_int (by omega), Option.map_some, Int64.ofInt_toInt]

theorem uint64_int (n : UInt64) : uint64 (.int n.toNat) = some n := by
  have := n.toNat_lt
  rw [uint64, intWithin_int (by omega), Option.map_some, Int.toNat_natCast, UInt64.ofNat_toNat]

theorem uint32_int (n : UInt32) : uint32 (.int n.toNat) = some n := by
  have := n.toNat_lt
  rw [uint32, intWithin_int (by omega), Option.map_some, Int.toNat_natCast, UInt32.ofNat_toNat]

theorem mapM_map {γ : Type} {g : γ → Option α} {f : α → γ} {as : List α}
    (h : ∀ a ∈ as, g (f a) = some a) : (as.map f).mapM g = some as := by
  induction as with
  | nil => rfl
  | cons a as ih =>
    rw [List.map_cons, List.mapM_cons, h a (.head _), ih fun a ha => h a (.tail _ ha)]
    rfl

/-- A list is read back when its items are. -/
theorem list_map {as : List α} (h : ∀ a ∈ as, d (f a) = some a) :
    list d (.arr (as.map f)) = some as :=
  mapM_map h

theorem map_stringMap (m : StringMap String) :
    map string (Json.stringMap m) = some m := by
  have hmembers : (m.entries.map fun e => (e.1, Json.str e.2)).mapM
      (fun (m : String × Json) => (string m.2).map fun v => (m.1, v)) = some m.entries :=
    mapM_map fun e _ => rfl
  rw [Json.stringMap, map, hmembers, Option.map_some, StringMap.ofList_entries]

/-- A value that is not written as null is read back where null is allowed. -/
theorem optional_of {j : Json} {a : α} (h : d j = some a) (hj : j ≠ .null) :
    optional d j = some (some a) := by
  cases j with
  | null => exact absurd rfl hj
  | _ => simp only [optional, h, Option.map_some]

end Decoder

/-! ## Kinds of fields -/

namespace Reads

variable {key : String} {l : List (String × Option Json)} {d : Decoder α} {f : α → Json}

theorem string {s : String} (h : l.filter (·.1 == key) = [(key, some (.str s))]) :
    Reads (Fields.required key Decoder.string) (Json.slots l) s :=
  required h rfl

theorem bool {b : Bool} (h : l.filter (·.1 == key) = [(key, some (.bool b))]) :
    Reads (Fields.required key Decoder.bool) (Json.slots l) b :=
  required h rfl

theorem int64 {n : Int64} (h : l.filter (·.1 == key) = [(key, some (.int n.toInt))]) :
    Reads (Fields.required key Decoder.int64) (Json.slots l) n :=
  required h (Decoder.int64_int n)

theorem uint64 {n : UInt64} (h : l.filter (·.1 == key) = [(key, some (.int n.toNat))]) :
    Reads (Fields.required key Decoder.uint64) (Json.slots l) n :=
  required h (Decoder.uint64_int n)

theorem list {as : List α} (h : l.filter (·.1 == key) = [(key, some (.arr (as.map f)))])
    (hd : ∀ a ∈ as, d (f a) = some a) :
    Reads (Fields.required key (Decoder.list d)) (Json.slots l) as :=
  required h (Decoder.list_map hd)

/-- A text that is left out where there is none. An empty one stays. -/
theorem stringIf {o : Option String} (h : l.filter (·.1 == key) = [(key, o.map .str)]) :
    Reads (Fields.optional key Decoder.string) (Json.slots l) o :=
  optional h fun _ _ => rfl

theorem instantIf {o : Option Instant} (h : l.filter (·.1 == key) = [(key, o.map Json.instant)]) :
    Reads (Fields.optional key Decoder.instant) (Json.slots l) o :=
  optional h fun t _ => Decoder.optional_of (Decoder.instant_instant t) nofun

/-- A list that may be missing, and is always written. -/
theorem listOrNone {as : List α} (h : l.filter (·.1 == key) = [(key, some (.arr (as.map f)))])
    (hd : ∀ a ∈ as, d (f a) = some a) : Reads (Fields.list key d) (Json.slots l) as :=
  withDefault h (Decoder.list_map hd)

/-- A list that is left out when it is empty. -/
theorem listIf {as : List α}
    (h : l.filter (·.1 == key) =
      [(key, if !as.isEmpty then some (.arr (as.map f)) else none)])
    (hd : ∀ a ∈ as, d (f a) = some a) : Reads (Fields.list key d) (Json.slots l) as := by
  refine skipped h (Decoder.list_map hd) fun hempty => ?_
  simpa using hempty

/-- A map that is left out when it is empty. -/
theorem mapIf {m : StringMap String}
    (h : l.filter (·.1 == key) =
      [(key, if !m.isEmpty then some (Json.stringMap m) else none)]) :
    Reads (Fields.map key Decoder.string) (Json.slots l) m := by
  refine skipped h (Decoder.map_stringMap m) fun hempty => ?_
  rwa [Bool.not_eq_false', StringMap.isEmpty_iff] at hempty

end Reads

end ClusterInventory
