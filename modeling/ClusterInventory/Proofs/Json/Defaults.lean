import ClusterInventory.Json.Decoder

/-!
# Fields that may be missing

A record is read from the members of an object or from the items of a list, field by field. The
document of the field with a number and a key is `Json.field?`. A field that may be missing has the
value that is read from this document, and its default where there is none (`FieldIs`).
-/

namespace ClusterInventory

variable {α β : Type}

namespace RecordSource

/-- The document of the field that comes after `n` others. -/
def field? (n : Nat) (key : String) : RecordSource → Option Json
  | .members ms => (ms.find? (·.1 == key)).map (·.2)
  | .items js => js[n]?

/-- What is left after a field. -/
def rest : RecordSource → RecordSource
  | .members ms => .members ms
  | .items js => .items js.tail

@[simp]
theorem field?_rest (n : Nat) (key : String) (src : RecordSource) :
    src.rest.field? n key = src.field? (n + 1) key := by
  cases src with
  | members ms => rfl
  | items js => cases js <;> rfl

end RecordSource

/-- What the fields of a record are read from. -/
def Json.source? : Json → Option RecordSource
  | .obj members => some (.members members)
  | .arr items => some (.items items)
  | _ => none

/-- The document of the field with this number and key: the member of an object, or the item of a
list. -/
def Json.field? (n : Nat) (key : String) (j : Json) : Option Json :=
  j.source?.bind (RecordSource.field? n key)

theorem Json.field?_of_source? {j : Json} {src : RecordSource} (h : j.source? = some src) (n : Nat)
    (key : String) : j.field? n key = src.field? n key := by
  rw [Json.field?, h, Option.bind_some]

/-- The value of a field that may be missing: what is read from its document, or the default where
there is none. -/
def FieldIs (reads : Json → α → Prop) (missing value : α) : Option Json → Prop
  | none => value = missing
  | some j => reads j value

theorem FieldIs.mono {reads reads' : Json → α → Prop} {missing value : α} {o : Option Json}
    (h : FieldIs reads missing value o) (hreads : ∀ j, reads j value → reads' j value) :
    FieldIs reads' missing value o := by
  cases o with
  | none => exact h
  | some j => exact hreads j h

/-- A value is read from a document. -/
def Decoder.Gives (d : Decoder α) (j : Json) (value : α) : Prop := d j = some value

namespace Fields

theorem bind_eq_some {x : Fields α} {f : α → Fields β} {src src' : RecordSource} {b : β} :
    (x >>= f).run src = some (b, src') ↔
      ∃ a mid, x.run src = some (a, mid) ∧ (f a).run mid = some (b, src') := by
  rw [StateT.run_bind, Option.bind_eq_bind, Option.bind_eq_some_iff, Prod.exists]

/-- What is found of a key is the one member with it, or nothing. -/
theorem unique?_eq_some_iff {key : String} {ms : List (String × Json)} {o : Option Json} :
    unique? key ms = some o ↔ ms.filter (·.1 == key) = (o.map (key, ·)).toList := by
  have hkey : ∀ m ∈ ms.filter (·.1 == key), m.1 = key := fun m hm =>
    eq_of_beq (List.mem_filter.1 hm).2
  unfold unique?
  generalize ms.filter (·.1 == key) = found at hkey
  match found with
  | [] => cases o <;> simp
  | [m] =>
    obtain ⟨k, v⟩ := m
    obtain rfl : k = key := hkey _ (.head _)
    cases o <;> simp
  | _ :: _ :: _ => cases o <;> simp

theorem next_members_eq_some {key : String} {ms : List (String × Json)} {rest : RecordSource}
    {o : Option Json} : (next key).run (.members ms) = some (o, rest) ↔
      unique? key ms = some o ∧ rest = .members ms := by
  show (unique? key ms).bind (fun o => some (o, RecordSource.members ms)) = _ ↔ _
  cases unique? key ms with
  | none => simp
  | some _ => simp [eq_comm]

theorem next_eq_some {key : String} {src src' : RecordSource} {o : Option Json}
    (h : (next key).run src = some (o, src')) : src' = src.rest ∧ o = src.field? 0 key := by
  cases src with
  | members ms =>
    obtain ⟨hunique, rfl⟩ := next_members_eq_some.1 h
    refine ⟨rfl, ?_⟩
    rw [RecordSource.field?, ← List.head?_filter, unique?_eq_some_iff.1 hunique]
    cases o <;> rfl
  | items js =>
    cases js with
    | nil =>
      cases h
      exact ⟨rfl, rfl⟩
    | cons j js =>
      cases h
      exact ⟨rfl, rfl⟩

theorem withDefault_eq_some {key : String} {missing a : α} {d : Decoder α}
    {src rest : RecordSource} : (withDefault key missing d).run src = some (a, rest) ↔
      ∃ o, (next key).run src = some (o, rest) ∧ FieldIs d.Gives missing a o := by
  rw [withDefault, bind_eq_some]
  refine exists_congr fun o => ⟨?_, fun ⟨hnext, hvalue⟩ => ⟨rest, hnext, ?_⟩⟩
  · rintro ⟨mid, hnext, hvalue⟩
    cases o with
    | none =>
      cases hvalue
      exact ⟨hnext, rfl⟩
    | some j =>
      have hvalue : (d j).bind (fun v => some (v, mid)) = some (a, rest) := hvalue
      obtain ⟨v, hv, heq⟩ := Option.bind_eq_some_iff.1 hvalue
      cases heq
      exact ⟨hnext, hv⟩
  · cases o with
    | none =>
      cases hvalue
      rfl
    | some j =>
      show (d j).bind (fun v => some (v, rest)) = _
      rw [show d j = some a from hvalue]
      rfl

/-- A field that may be missing, and the fields after it. -/
theorem withDefault_bind_eq_some {key : String} {missing : α} {d : Decoder α} {f : α → Fields β}
    {src src' : RecordSource} {b : β}
    (h : (withDefault key missing d >>= f).run src = some (b, src')) :
    ∃ a, FieldIs d.Gives missing a (src.field? 0 key) ∧ (f a).run src.rest = some (b, src') := by
  obtain ⟨a, mid, hfield, hf⟩ := bind_eq_some.1 h
  obtain ⟨o, hnext, hvalue⟩ := withDefault_eq_some.1 hfield
  obtain ⟨rfl, rfl⟩ := next_eq_some hnext
  exact ⟨a, hvalue, hf⟩

end Fields

theorem Decoder.record_eq_some {fields : Fields α} {j : Json} {a : α}
    (h : Decoder.record fields j = some a) :
    ∃ src src', j.source? = some src ∧ fields.run src = some (a, src') := by
  unfold Decoder.record at h
  split at h
  · obtain ⟨⟨_, src'⟩, hrun, rfl⟩ := Option.map_eq_some_iff.1 h
    exact ⟨_, src', rfl, hrun⟩
  · split at h
    · next hrun =>
      cases h
      exact ⟨_, _, rfl, hrun⟩
    · cases h
  · cases h

end ClusterInventory
