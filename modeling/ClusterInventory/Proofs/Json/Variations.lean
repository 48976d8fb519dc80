import ClusterInventory.Proofs.Json.Defaults
import Mathlib.Data.List.Nodup

/-!
# Documents of one record

A record has many documents: members whose keys are none of its fields' are passed over, and a
member that holds the default of its field may as well be missing. `Json.Varies` is one such change
of a document, at its outermost level or further in. A record whose fields are read one after the
other (`Fields.Follows`) is read as before (`Decoder.record_ignores`).
-/

namespace ClusterInventory

variable {α β : Type}

/-- A field of a record, and how its document may be changed. -/
structure FieldForm where
  key : String
  /-- The document holds the default of the field. -/
  isDefault : Json → Prop
  /-- The second document is the first one with a change at a level of its own. -/
  varies : Json → Json → Prop

namespace FieldForm

/-- A field that is read by a decoder and has a default. -/
def of (key : String) (missing : α) (d : Decoder α) (varies : Json → Json → Prop) : FieldForm :=
  { key, isDefault := (d.Gives · missing), varies }

/-- A field that has no levels of its own. -/
def plain (key : String) (missing : α) (d : Decoder α) : FieldForm :=
  of key missing d fun _ _ => False

/-- What is found of the field before and after a change. -/
inductive Alike (f : FieldForm) : Option Json → Option Json → Prop
  | same (o : Option Json) : Alike f o o
  | leftOut {v : Json} : f.isDefault v → Alike f (some v) none
  | within {v v' : Json} : f.varies v v' → Alike f (some v) (some v')

end FieldForm

/-- One change of the document of a record with these fields. -/
inductive Json.Varies (forms : List FieldForm) : Json → Json → Prop
  /-- A member is added, with a key that no field has. -/
  | added (before after : List (String × Json)) {key : String} {v : Json} :
      (∀ f ∈ forms, f.key ≠ key) →
      Varies forms (.obj (before ++ after)) (.obj (before ++ (key, v) :: after))
  /-- A member with the default of its field is left out. -/
  | leftOut (before after : List (String × Json)) {f : FieldForm} {v : Json} :
      f ∈ forms → f.isDefault v →
      Varies forms (.obj (before ++ (f.key, v) :: after)) (.obj (before ++ after))
  /-- The change is in the member of a field. -/
  | within (before after : List (String × Json)) {f : FieldForm} {v v' : Json} :
      f ∈ forms → f.varies v v' →
      Varies forms (.obj (before ++ (f.key, v) :: after)) (.obj (before ++ (f.key, v') :: after))
  /-- The change is in the item of a field, where the record is a list. -/
  | withinItem (before after : List Json) {f : FieldForm} {v v' : Json} :
      forms[before.length]? = some f → f.varies v v' →
      Varies forms (.arr (before ++ v :: after)) (.arr (before ++ v' :: after))

/-- What is left of a record before and after a change, as far as these fields are to be read. -/
inductive RecordSource.Varies : List FieldForm → RecordSource → RecordSource → Prop
  | members {forms : List FieldForm} {ms ms' : List (String × Json)} :
      (∀ f ∈ forms, ∀ o, Fields.unique? f.key ms = some o →
        ∃ o', Fields.unique? f.key ms' = some o' ∧ f.Alike o o') →
      Varies forms (.members ms) (.members ms')
  | noItems {forms : List FieldForm} : Varies forms (.items []) (.items [])
  | item {f : FieldForm} {forms : List FieldForm} {v v' : Json} {js js' : List Json} :
      f.Alike (some v) (some v') → Varies forms (.items js) (.items js') →
      Varies (f :: forms) (.items (v :: js)) (.items (v' :: js'))
  | noForms {js : List Json} : Varies [] (.items js) (.items js)

namespace RecordSource.Varies

variable {f : FieldForm} {forms : List FieldForm} {src src' rest : RecordSource}

theorem items_refl : ∀ (forms : List FieldForm) (js : List Json),
    Varies forms (.items js) (.items js)
  | [], _ => .noForms
  | _ :: _, [] => .noItems
  | _ :: forms, j :: js => .item (.same (some j)) (items_refl forms js)

theorem items_within {v v' : Json} (after : List Json) (hvaries : f.varies v v') :
    ∀ (before : List Json) (forms : List FieldForm), forms[before.length]? = some f →
      Varies forms (.items (before ++ v :: after)) (.items (before ++ v' :: after))
  | [], g :: forms, h => by
    obtain rfl : g = f := Option.some.inj h
    exact .item (.within hvaries) (items_refl forms after)
  | j :: before, g :: forms, h =>
    .item (.same (some j)) (items_within after hvaries before forms h)

/-- The next field is found alike, and so are those after it. -/
theorem next (h : Varies (f :: forms) src src') {o : Option Json}
    (hnext : (Fields.next f.key).run src = some (o, rest)) :
    ∃ o' rest', (Fields.next f.key).run src' = some (o', rest') ∧ f.Alike o o' ∧
      Varies forms rest rest' := by
  cases h with
  | @members _ ms ms' hmembers =>
    obtain ⟨hunique, rfl⟩ := Fields.next_members_eq_some.1 hnext
    obtain ⟨o', hunique', halike⟩ := hmembers f (.head _) o hunique
    exact ⟨o', .members ms', Fields.next_members_eq_some.2 ⟨hunique', rfl⟩, halike,
      .members fun g hg => hmembers g (.tail _ hg)⟩
  | noItems =>
    cases hnext
    exact ⟨none, .items [], rfl, .same none, .noItems⟩
  | item halike hrest =>
    cases hnext
    exact ⟨_, _, rfl, halike, hrest⟩

end RecordSource.Varies

/-- A decoder reads the same after a change. -/
def Decoder.Ignores (d : Decoder α) (varies : Json → Json → Prop) : Prop :=
  ∀ v v' a, varies v v' → d v = some a → d v' = some a

theorem FieldForm.Alike.fieldIs {key : String} {missing a : α} {d : Decoder α}
    {varies : Json → Json → Prop} {o o' : Option Json} (hd : d.Ignores varies)
    (h : (of key missing d varies).Alike o o') (ho : FieldIs d.Gives missing a o) :
    FieldIs d.Gives missing a o' := by
  cases h with
  | same => exact ho
  | leftOut hdefault => exact Option.some.inj (ho.symm.trans hdefault)
  | within hvaries => exact hd _ _ a hvaries ho

namespace Fields

variable {forms : List FieldForm} {x : Fields α}

/-- What is read field by field is read as before after a change of these fields. -/
def Follows (forms : List FieldForm) (x : Fields α) : Prop :=
  ∀ src src' a rest, RecordSource.Varies forms src src' → x.run src = some (a, rest) →
    ∃ rest', x.run src' = some (a, rest') ∧ RecordSource.Varies [] rest rest'

theorem Follows.pure (a : α) : Follows [] (pure a) := by
  intro src src' _ rest hvaries hrun
  cases hrun
  exact ⟨src', rfl, hvaries⟩

theorem Follows.withDefault {key : String} {missing : α} {d : Decoder α}
    {varies : Json → Json → Prop} (hd : d.Ignores varies) {f : α → Fields β}
    (hf : ∀ a, Follows forms (f a)) :
    Follows (.of key missing d varies :: forms) (withDefault key missing d >>= f) := by
  intro src src' b rest hvaries hrun
  obtain ⟨a, mid, hfield, hrest⟩ := bind_eq_some.1 hrun
  obtain ⟨o, hnext, hvalue⟩ := withDefault_eq_some.1 hfield
  obtain ⟨o', mid', hnext', halike, hvaries'⟩ := hvaries.next hnext
  obtain ⟨rest', hrest', hdone⟩ := hf a mid mid' b rest hvaries' hrest
  have hfield' := withDefault_eq_some.2 ⟨o', hnext', halike.fieldIs hd hvalue⟩
  exact ⟨rest', bind_eq_some.2 ⟨a, mid', hfield', hrest'⟩, hdone⟩

/-- A field without levels of its own. -/
theorem Follows.plain {key : String} {missing : α} {d : Decoder α} {f : α → Fields β}
    (hf : ∀ a, Follows forms (f a)) :
    Follows (.plain key missing d :: forms) (Fields.withDefault key missing d >>= f) :=
  .withDefault (fun _ _ _ h => h.elim) hf

/-! ## Members -/

variable {key k : String} {v : Json} {before after : List (String × Json)} {o : Option Json}

theorem unique?_append_of_ne (h : k ≠ key) :
    unique? key (before ++ (k, v) :: after) = unique? key (before ++ after) := by
  unfold unique?
  rw [List.filter_append, List.filter_cons_of_neg (by simpa using h), ← List.filter_append]

/-- A member that is the only one with its key may be left out or be another one. -/
theorem unique?_of_append (h : unique? key (before ++ (key, v) :: after) = some o) :
    o = some v ∧ unique? key (before ++ after) = some none ∧
      ∀ v', unique? key (before ++ (key, v') :: after) = some (some v') := by
  simp only [unique?_eq_some_iff, List.filter_append, List.filter_cons, beq_self_eq_true, if_true]
    at h ⊢
  cases o with
  | none => simp at h
  | some w =>
    rcases List.append_eq_singleton_iff.1 h with ⟨hbefore, hrest⟩ | ⟨-, hrest⟩
    · obtain ⟨hv, hafter⟩ := List.cons.inj hrest
      cases hv
      rw [hbefore, hafter]
      exact ⟨rfl, rfl, fun _ => rfl⟩
    · cases hrest

end Fields

/-! ## Records -/

variable {forms : List FieldForm} {f g : FieldForm}

/-- Two fields of one key are the same field. -/
theorem FieldForm.eq_of_key (hkeys : (forms.map (·.key)).Nodup) (hf : f ∈ forms) (hg : g ∈ forms)
    (h : f.key = g.key) : g = f :=
  (List.inj_on_of_nodup_map hkeys hf hg h).symm

namespace Json.Varies

variable {j j' : Json}

/-- The members of one field are replaced, and those of the others stay. -/
theorem members {v : Json} {o' : Option Json} {before after ms : List (String × Json)}
    (hkeys : (forms.map (·.key)).Nodup) (hf : f ∈ forms) (halike : f.Alike (some v) o')
    (hothers : ∀ key, f.key ≠ key →
      Fields.unique? key ms = Fields.unique? key (before ++ (f.key, v) :: after))
    (hfield : ∀ o, Fields.unique? f.key (before ++ (f.key, v) :: after) = some o →
      Fields.unique? f.key ms = some o') :
    RecordSource.Varies forms (.members (before ++ (f.key, v) :: after)) (.members ms) := by
  refine .members fun g hg o ho => ?_
  by_cases h : f.key = g.key
  · obtain rfl := FieldForm.eq_of_key hkeys hf hg h
    obtain ⟨rfl, -⟩ := Fields.unique?_of_append ho
    exact ⟨o', hfield _ ho, halike⟩
  · exact ⟨o, (hothers g.key h).trans ho, .same o⟩

theorem source? (hkeys : (forms.map (·.key)).Nodup) (h : Json.Varies forms j j') :
    (∃ ms ms', j = .obj ms ∧ j' = .obj ms' ∧
        RecordSource.Varies forms (.members ms) (.members ms')) ∨
      ∃ js js', j = .arr js ∧ j' = .arr js' ∧
        RecordSource.Varies forms (.items js) (.items js') := by
  cases h with
  | added before after hkey =>
    refine .inl ⟨_, _, rfl, rfl, .members fun f hf o ho => ⟨o, ?_, .same o⟩⟩
    rwa [Fields.unique?_append_of_ne (hkey f hf).symm]
  | leftOut before after hf hdefault =>
    exact .inl ⟨_, _, rfl, rfl, members hkeys hf (.leftOut hdefault)
      (fun key h => (Fields.unique?_append_of_ne h).symm)
      (fun o ho => (Fields.unique?_of_append ho).2.1)⟩
  | within before after hf hvaries =>
    exact .inl ⟨_, _, rfl, rfl, members hkeys hf (.within hvaries)
      (fun key h => (Fields.unique?_append_of_ne h).trans (Fields.unique?_append_of_ne h).symm)
      (fun o ho => (Fields.unique?_of_append ho).2.2 _)⟩
  | withinItem before after hf hvaries =>
    exact .inr ⟨_, _, rfl, rfl, RecordSource.Varies.items_within after hvaries before forms hf⟩

end Json.Varies

/-- A record is read as before after a change of its document. -/
theorem Decoder.record_ignores {x : Fields α} (hx : x.Follows forms)
    (hkeys : (forms.map (·.key)).Nodup) : (Decoder.record x).Ignores (Json.Varies forms) := by
  intro j j' a hvaries hj
  rcases hvaries.source? hkeys with ⟨ms, ms', rfl, rfl, hsource⟩ | ⟨js, js', rfl, rfl, hsource⟩
  · obtain ⟨⟨_, rest⟩, hrun, rfl⟩ := Option.map_eq_some_iff.1 hj
    obtain ⟨rest', hrun', -⟩ := hx _ _ _ _ hsource hrun
    exact Option.map_eq_some_iff.2 ⟨_, hrun', rfl⟩
  · unfold Decoder.record at hj ⊢
    dsimp only at hj ⊢
    split at hj
    · next hrun =>
      obtain ⟨rest', hrun', hrest⟩ := hx _ _ _ _ hsource hrun
      cases hj
      cases hrest <;> rw [hrun']
    · cases hj

end ClusterInventory
