import ClusterInventory.Object.Workload
import ClusterInventory.Proofs.Json.Held

/-!
# Objects do not depend on the order of their fields

A document that is held as a value conforms to a type in whatever order its members stand
(`Schema.check_sorted_iff`), and what is taken out of it is the same (`IgnoresOrder`).
-/

namespace ClusterInventory.Object

open Json (Held)

namespace Schema

variable {s : Schema} {fields : List (String × Schema)} {room room' n : Nat} {j : Json}
  {ms : List (String × Json)} {key : String}

/-! ## Conforming part by part -/

/-- Reading goes on where it has not failed so far. -/
theorem bind_eq_ok_iff {α β : Type} {x : Except Mismatch α} {f : α → Except Mismatch β} {b : β} :
    x >>= f = .ok b ↔ ∃ a, x = .ok a ∧ f a = .ok b := by
  cases x with
  | ok a => simp [bind, Except.bind]
  | error e => simp [bind, Except.bind]

theorem andThen_eq_ok_iff {x y : Except Mismatch Unit} :
    (x >>= fun _ => y) = .ok () ↔ x = .ok () ∧ y = .ok () :=
  bind_eq_ok_iff.trans ⟨fun ⟨(), hx, hy⟩ => ⟨hx, hy⟩, fun ⟨hx, hy⟩ => ⟨(), hx, hy⟩⟩

theorem checkItems_iff {items : List Json} :
    s.checkItems room items = .ok () ↔ ∀ j ∈ items, s.check room j = .ok () := by
  induction items with
  | nil => simp [checkItems, pure, Except.pure]
  | cons j items ih => rw [checkItems, List.forall_mem_cons, andThen_eq_ok_iff, ih]

theorem checkValues_iff :
    s.checkValues room ms = .ok () ↔ ∀ m ∈ ms, s.check room m.2 = .ok () := by
  induction ms with
  | nil => simp [checkValues, pure, Except.pure]
  | cons m ms ih => rw [checkValues, List.forall_mem_cons, andThen_eq_ok_iff, ih]

/-- The value of a field conforms, if the field is known. -/
def Accepts (fields : List (String × Schema)) (room : Nat) (key : String) (v : Json) : Prop :=
  ∀ s, fields.lookup key = some s → (v = .null ∧ s.isNullable = true) ∨ s.check room v = .ok ()

theorem checkFields_cons_iff {v : Json} :
    checkFields fields room ((key, v) :: ms) = .ok () ↔
      Accepts fields room key v ∧ checkFields fields room ms = .ok () := by
  unfold Accepts
  cases hs : fields.lookup key with
  | none =>
    rw [checkFields.eq_2 _ _ _ _ _ hs]
    simp
  | some s =>
    simp only [Option.some.injEq, forall_eq']
    by_cases hv : v = .null
    · subst hv
      rw [checkFields.eq_3 _ _ _ _ _ hs]
      split
      · next hnull => simp [hnull]
      · next hnull => simp [hnull, andThen_eq_ok_iff]
    · rw [checkFields.eq_4 _ _ _ _ _ _ hs hv, andThen_eq_ok_iff]
      simp [hv]

theorem checkFields_iff :
    checkFields fields room ms = .ok () ↔ ∀ m ∈ ms, Accepts fields room m.1 m.2 := by
  induction ms with
  | nil => simp [checkFields, pure, Except.pure]
  | cons m ms ih => rw [checkFields_cons_iff, List.forall_mem_cons, ih]

theorem reader_eq_ok_iff {α : Type} {view : Json → α} {a : α} :
    s.reader view room j = .ok a ↔ s.check room j = .ok () ∧ view j = a := by
  unfold reader
  rw [bind_eq_ok_iff]
  exact ⟨fun ⟨(), hcheck, hview⟩ => ⟨hcheck, Except.ok.inj hview⟩,
    fun ⟨hcheck, hview⟩ => ⟨(), hcheck, congrArg _ hview⟩⟩

/-! ## Conforming in any order -/

theorem checkKept_of_held (h : j.Held n) (hn : n ≤ room) : checkKept room j = .ok () := by
  have hdepth : j.depth ≤ room := Nat.le_trans h.depth_le hn
  simp [checkKept, h.isReadable, hdepth, pure, Except.pure]

/-- A document conforms in whatever order its members stand, and wherever it is read. -/
theorem check_sorted_iff (h : j.Held n) (hn : n ≤ room) (hn' : n ≤ room') :
    s.check room' j.sorted = .ok () ↔ s.check room j = .ok () := by
  -- the induction is on how the document is held, which bounds its depth for both rooms
  induction h generalizing s room room' with
  | @arr n items hitems ih =>
    have harr : (Json.arr items).Held (n + 1) := .arr hitems
    have hsorted := harr.sorted
    simp only [Json.sorted] at hsorted ⊢
    unfold check
    cases s with
    | list item =>
      simp only [checkItems_iff, Json.sortedItems_eq, List.forall_mem_map]
      exact forall₂_congr fun j hj => ih j hj (by omega) (by omega)
    | kept => simp only [checkKept_of_held harr hn, checkKept_of_held hsorted hn']
    | _ => exact Iff.rfl
  | @obj n ms hnodup hms ih =>
    have hobj : (Json.obj ms).Held (n + 1) := .obj hnodup hms
    have hsorted := hobj.sorted
    simp only [Json.sorted] at hsorted ⊢
    unfold check
    cases s with
    | map value =>
      simp only [checkValues_iff]
      rw [Json.forall_mem_sortedMembers hnodup
        (P := fun _ v => value.check (room' - 1) v = .ok ())]
      exact forall₂_congr fun m hm => ih m hm (by omega) (by omega)
    | record type fields =>
      simp only [checkFields_iff]
      rw [Json.forall_mem_sortedMembers hnodup]
      refine forall₂_congr fun m hm => forall₂_congr fun s _ => ?_
      rw [Json.sorted_eq_null_iff]
      exact or_congr_right (ih m hm (by omega) (by omega))
    | kept => simp only [checkKept_of_held hobj hn, checkKept_of_held hsorted hn']
    | _ => exact Iff.rfl
  | _ => exact Iff.rfl

end Schema

/-! ## Views of documents -/

variable {α β : Type} {view : Json → α} {n : Nat} {j : Json} {key : String}

@[simp] theorem field?_sorted (j : Json) (key : String) :
    field? j.sorted key = (field? j key).map Json.sorted := by
  unfold field?
  rw [Json.get?_sorted]
  cases j.get? key with
  | none => rfl
  | some v => cases v <;> rfl

theorem held_of_field? (h : j.Held n) {v : Json} (hv : field? j key = some v) : v.Held n := by
  unfold field? at hv
  split at hv
  · cases hv
  · exact h.get? hv

/-- A plain value is not changed by sorting, and nothing else is read as one. -/
theorem bind_field?_sorted {d : Json → Option α} (hd : ∀ v : Json, d v.sorted = d v) (j : Json)
    (key : String) : (field? j.sorted key).bind d = (field? j key).bind d := by
  rw [field?_sorted]
  cases field? j key with
  | none => rfl
  | some v => exact hd v

@[simp] theorem text?_sorted (j : Json) (key : String) : text? j.sorted key = text? j key :=
  bind_field?_sorted (fun v => by cases v <;> rfl) j key

@[simp] theorem text_sorted (j : Json) (key : String) : text j.sorted key = text j key :=
  congrArg (·.getD "") (text?_sorted j key)

@[simp] theorem bool?_sorted (j : Json) (key : String) : bool? j.sorted key = bool? j key :=
  bind_field?_sorted (fun v => by cases v <;> rfl) j key

@[simp] theorem int?_sorted (j : Json) (key : String) : int? j.sorted key = int? j key :=
  bind_field?_sorted (fun v => by cases v <;> rfl) j key

@[simp] theorem instant?_sorted (j : Json) (key : String) :
    instant? j.sorted key = instant? j key :=
  bind_field?_sorted (fun v => by cases v <;> rfl) j key

/-- What is taken out of a document does not depend on the order of its members. -/
def IgnoresOrder (view : Json → α) : Prop :=
  ∀ {n : Nat} {j : Json}, j.Held n → view j.sorted = view j

theorem part?_sorted (hview : IgnoresOrder view) (h : j.Held n) (key : String) :
    part? j.sorted key view = part? j key view := by
  unfold part?
  rw [field?_sorted, Option.map_map]
  exact Option.map_congr fun v hv => hview (held_of_field? h hv)

theorem parts?_sorted (hview : IgnoresOrder view) (h : j.Held n) (key : String) :
    parts? j.sorted key view = parts? j key view := by
  unfold parts?
  rw [field?_sorted]
  cases hv : field? j key with
  | none => rfl
  | some v =>
    cases held_of_field? h hv with
    | @arr _ items hitems =>
      have hviews (items : List Json) :
          Decoder.list (fun item => some (view item)) (.arr items) = some (items.map view) :=
        List.mapM_pure
      simp only [Option.map_some, Option.bind_some, Json.sorted, hviews, Json.sortedItems_eq,
        List.map_map]
      exact congrArg some (List.map_congr_left fun j hj => hview (hitems j hj))
    | _ => rfl

/-! ## Maps of texts -/

/-- The entry that a member of a map of texts gives. -/
def textEntry (m : String × Json) : Option (String × String) :=
  (Decoder.string m.2).map fun s => (m.1, s)

/-- The member that gives an entry. -/
def entryMember (e : String × String) : String × Json := (e.1, .str e.2)

theorem textEntry_eq_some_iff {m : String × Json} {e : String × String} :
    textEntry m = some e ↔ m = entryMember e := by
  obtain ⟨key, v⟩ := m
  obtain ⟨key', s⟩ := e
  cases v <;> simp [textEntry, entryMember, Decoder.string]

theorem mapM_textEntry_eq_some_iff {ms : List (String × Json)} {es : List (String × String)} :
    ms.mapM textEntry = some es ↔ ms = es.map entryMember := by
  induction ms generalizing es with
  | nil => cases es <;> simp
  | cons m ms ih =>
    rw [List.mapM_cons]
    cases es with
    | nil => simp [Option.bind_eq_some_iff]
    | cons e es => simp [Option.bind_eq_some_iff, textEntry_eq_some_iff, ih]

theorem exists_map_entryMember {ms : List (String × Json)} (h : ∀ m ∈ ms, ∃ s, m.2 = .str s) :
    ∃ es : List (String × String), ms = es.map entryMember := by
  induction ms with
  | nil => exact ⟨[], rfl⟩
  | cons m ms ih =>
    obtain ⟨key, v⟩ := m
    obtain ⟨s, rfl⟩ := h _ (.head _)
    obtain ⟨es, rfl⟩ := ih fun m hm => h m (.tail _ hm)
    exact ⟨(key, s) :: es, rfl⟩

theorem insertEntry_map_entryMember (key s : String) (es : List (String × String)) :
    StringMap.insertEntry key (.str s) (es.map entryMember) =
      (StringMap.insertEntry key s es).map entryMember := by
  induction es with
  | nil => rfl
  | cons e es ih =>
    obtain ⟨k, w⟩ := e
    simp only [List.map_cons, entryMember, StringMap.insertEntry]
    split
    · rfl
    · split
      · rfl
      · rw [List.map_cons]
        exact congrArg _ ih

/-- Texts are sorted as the entries that they give. -/
theorem sortedMembers_map_entryMember (m : StringMap String) (es : List (String × String)) :
    Json.sortedMembers (m.entries.map entryMember) (es.map entryMember) =
      (es.foldl (fun m e => m.insert e.1 e.2) m).entries.map entryMember := by
  induction es generalizing m with
  | nil => rfl
  | cons e es ih =>
    refine Eq.trans ?_ (ih (m.insert e.1 e.2))
    exact congrArg (Json.sortedMembers · (es.map entryMember))
      (insertEntry_map_entryMember e.1 e.2 m.entries)

theorem mapString_sorted {v : Json} (h : v.Held n) :
    Decoder.map Decoder.string v.sorted = Decoder.map Decoder.string v := by
  cases h with
  | @obj n ms hnodup _ =>
    show ((Json.sortedMembers [] ms).mapM textEntry).map StringMap.ofList =
      (ms.mapM textEntry).map StringMap.ofList
    by_cases htexts : ∀ m ∈ ms, ∃ s, m.2 = .str s
    · obtain ⟨es, rfl⟩ := exists_map_entryMember htexts
      have hsorted : Json.sortedMembers [] (es.map entryMember) =
          (StringMap.ofList es).entries.map entryMember :=
        sortedMembers_map_entryMember .empty es
      rw [mapM_textEntry_eq_some_iff.2 hsorted, mapM_textEntry_eq_some_iff.2 rfl,
        Option.map_some, Option.map_some, StringMap.ofList_entries]
    · -- a value that is no text stays among the sorted members
      have hnone {ms : List (String × Json)} (h : ¬ ∀ m ∈ ms, ∃ s, m.2 = .str s) :
          ms.mapM textEntry = none := by
        refine Option.eq_none_iff_forall_ne_some.2 fun es hes => h ?_
        rw [mapM_textEntry_eq_some_iff.1 hes]
        intro m hm
        obtain ⟨e, -, rfl⟩ := List.mem_map.1 hm
        exact ⟨e.2, rfl⟩
      have hsorted : ¬ ∀ m ∈ Json.sortedMembers [] ms, ∃ s, m.2 = .str s := by
        rw [Json.forall_mem_sortedMembers hnodup (P := fun _ v => ∃ s, v = .str s)]
        refine fun h => htexts fun m hm => ?_
        obtain ⟨s, hs⟩ := h m hm
        exact ⟨s, Json.sorted_eq_str_iff.1 hs⟩
      rw [hnone htexts, hnone hsorted]
  | _ => rfl

theorem textMap?_sorted (h : j.Held n) (key : String) :
    textMap? j.sorted key = textMap? j key := by
  unfold textMap?
  rw [field?_sorted]
  cases hv : field? j key with
  | none => rfl
  | some v => exact mapString_sorted (held_of_field? h hv)

/-! ## Workloads -/

theorem presentBackings_sorted (table : List (String × String)) (j : Json) :
    presentBackings table j.sorted = presentBackings table j := by
  simp [presentBackings]

theorem Container.ignoresOrder : IgnoresOrder Container.ofJson := by
  intro n j h
  have hresources : ((field? j "resources").getD .null).Held n := by
    cases hv : field? j "resources" with
    | none => exact .null
    | some v => exact held_of_field? h hv
  have hsorted : (field? j.sorted "resources").getD .null =
      ((field? j "resources").getD .null).sorted := by
    rw [field?_sorted]
    cases field? j "resources" <;> rfl
  simp only [Container.ofJson, hsorted, text_sorted, text?_sorted, textMap?_sorted hresources]

theorem Volume.ignoresOrder : IgnoresOrder Volume.ofJson := by
  intro n j h
  simp only [Volume.ofJson, text_sorted, presentBackings_sorted]

theorem PodSpec.ignoresOrder : IgnoresOrder PodSpec.ofJson := by
  intro n j h
  simp only [PodSpec.ofJson, parts?_sorted Container.ignoresOrder h,
    parts?_sorted Volume.ignoresOrder h, text?_sorted, bool?_sorted, int?_sorted]

theorem PodTemplate.ignoresOrder : IgnoresOrder PodTemplate.ofJson := by
  intro n j h
  simp only [PodTemplate.ofJson, part?_sorted PodSpec.ignoresOrder h]

theorem JobSpec.ignoresOrder : IgnoresOrder JobSpec.ofJson := by
  intro n j h
  simp only [JobSpec.ofJson, part?_sorted PodTemplate.ignoresOrder h, int?_sorted]

theorem CronJobSpec.ignoresOrder : IgnoresOrder CronJobSpec.ofJson := by
  intro n j h
  have hjob : ((field? j.sorted "jobTemplate").bind fun job => part? job "spec" JobSpec.ofJson) =
      (field? j "jobTemplate").bind fun job => part? job "spec" JobSpec.ofJson := by
    rw [field?_sorted]
    cases hv : field? j "jobTemplate" with
    | none => rfl
    | some v => exact part?_sorted JobSpec.ignoresOrder (held_of_field? h hv) "spec"
  simp only [CronJobSpec.ofJson, hjob, text_sorted, text?_sorted, bool?_sorted]

theorem CronJobStatus.ignoresOrder : IgnoresOrder CronJobStatus.ofJson := by
  intro n j h
  simp only [CronJobStatus.ofJson, instant?_sorted]

end ClusterInventory.Object
