import ClusterInventory.Proofs.Object.Order
import ClusterInventory.Proofs.Record.Overflow

/-!
# Two generations of scheduled jobs

An object that is held as a value reads as a scheduled job of the present generation exactly when
it can be mapped as one of the earlier generation, and the two records differ in their version only
(`generations_agree`). Read from text the two differ in more: what no field is named for is passed
over in one and held in the other (`passed_over_not_held`).
-/

namespace ClusterInventory

open Json (Held lookup)

namespace Object

variable {room : Nat} {ms : List (String × Json)}

/-- The document without the names of its type. -/
def withoutType (ms : List (String × Json)) : Json :=
  .obj (ms.filter fun m => m.1 != "apiVersion" && m.1 != "kind")

theorem get?_withoutType {key : String} (hversion : key ≠ "apiVersion") (hkind : key ≠ "kind")
    (ms : List (String × Json)) : (withoutType ms).get? key = lookup key ms :=
  Json.lookup_filter (p := fun key => key != "apiVersion" && key != "kind")
    (by simp [hversion, hkind]) ms

/-- A part whose field is not null is there if the field is. -/
theorem part?_withoutType {α : Type} {view : Json → α} {key : String}
    (hversion : key ≠ "apiVersion") (hkind : key ≠ "kind") (hnull : lookup key ms ≠ some .null) :
    part? (withoutType ms) key view = (lookup key ms).map view := by
  unfold part? field?
  rw [get?_withoutType hversion hkind]
  split
  · next h => exact absurd h hnull
  · rfl

theorem part?_withoutType_of_null {α : Type} {view : Json → α} {key : String}
    (hversion : key ≠ "apiVersion") (hkind : key ≠ "kind")
    (h : lookup key ms = none ∨ lookup key ms = some .null) :
    part? (withoutType ms) key view = none := by
  unfold part? field?
  rw [get?_withoutType hversion hkind]
  obtain h | h := h <;> rw [h] <;> rfl

/-- The value of a field conforms to a type, if there is one and it is not null. -/
def FieldConforms (s : Schema) (room : Nat) (ms : List (String × Json)) (key : String) : Prop :=
  ∀ v, lookup key ms = some v → v ≠ .null → s.check (room - 1) v = .ok ()

def cronJobFields : List (String × Schema) :=
  [("apiVersion", .name "batch/v1"), ("kind", .name "CronJob"), ("metadata", .objectMeta),
    ("spec", .cronJobSpec), ("status", .cronJobStatus)]

/-- A scheduled job without the names of its type conforms if its three fields do. -/
theorem check_cronJob_iff (h : (ms.map (·.1)).Nodup) :
    Schema.cronJob.check room (withoutType ms) = .ok () ↔
      FieldConforms .objectMeta room ms "metadata" ∧ FieldConforms .cronJobSpec room ms "spec" ∧
        FieldConforms .cronJobStatus room ms "status" := by
  have hrecord : Schema.cronJob = .record "CronJob" cronJobFields := rfl
  rw [hrecord, withoutType, Schema.check, Schema.checkFields_iff]
  constructor
  · intro hms
    have hfield {key : String} {s : Schema} (hs : cronJobFields.lookup key = some s)
        (hversion : key ≠ "apiVersion") (hkind : key ≠ "kind") : FieldConforms s room ms key := by
      intro v hv hnull
      have hmem : (key, v) ∈ ms.filter fun m => m.1 != "apiVersion" && m.1 != "kind" :=
        List.mem_filter.2 ⟨Json.mem_of_lookup hv, by simp [hversion, hkind]⟩
      exact (hms _ hmem s hs).resolve_left fun h => hnull h.1
    exact ⟨hfield rfl (by simp) (by simp), hfield rfl (by simp) (by simp),
      hfield rfl (by simp) (by simp)⟩
  · rintro ⟨hmeta, hspec, hstatus⟩ ⟨key, v⟩ hm s hs
    obtain ⟨hmem, hkey⟩ := List.mem_filter.1 hm
    have hv : lookup key ms = some v := (Json.lookup_eq_some_iff h).2 hmem
    obtain ⟨before, after, hfields, -⟩ := List.lookup_eq_some_iff.1 hs
    have hknown : (key, s) ∈ cronJobFields := hfields ▸ by simp
    refine or_iff_not_imp_left.2 fun hnull => ?_
    -- of the five fields that are known, the two that name the type are left out
    simp only [cronJobFields, List.mem_cons, Prod.mk.injEq, List.not_mem_nil, or_false] at hknown
    rcases hknown with ⟨rfl, rfl⟩ | ⟨rfl, rfl⟩ | ⟨rfl, rfl⟩ | ⟨rfl, rfl⟩ | ⟨rfl, rfl⟩
    · simp at hkey
    · simp at hkey
    · exact hmeta v hv fun h => hnull ⟨h, rfl⟩
    · exact hspec v hv fun h => hnull ⟨h, rfl⟩
    · exact hstatus v hv fun h => hnull ⟨h, rfl⟩

/-- The scheduled job that members stand for. -/
def CronJob.ofMembers (ms : List (String × Json)) : CronJob :=
  { objectMeta := .ofObject (withoutType ms)
    spec := part? (withoutType ms) "spec" CronJobSpec.ofJson
    status := part? (withoutType ms) "status" CronJobStatus.ofJson }

theorem CronJob.reader_eq_ok_iff {o : CronJob} :
    CronJob.reader room (withoutType ms) = .ok o ↔
      Schema.cronJob.check room (withoutType ms) = .ok () ∧ CronJob.ofMembers ms = o :=
  Schema.reader_eq_ok_iff

/-- What is kept of an object of any type, in the order of its text. -/
def Dynamic.dataOf (ms : List (String × Json)) : Json :=
  .obj (ms.filter fun m => m.1 != "metadata")

/-- The object of any type that members stand for. -/
def Dynamic.ofMembers (ms : List (String × Json)) : Dynamic :=
  { objectMeta := ((lookup "metadata" ms).map Meta.ofJson).getD {}, data := (dataOf ms).sorted }

theorem Dynamic.data_of_reader {d : Dynamic} (h : Dynamic.reader room (.obj ms) = .ok d) :
    d.data = (Dynamic.ofMembers ms).data := by
  have hkept {m : Meta} (hd : (Schema.kept.check room (Dynamic.dataOf ms) >>= fun _ =>
      pure { objectMeta := m, data := (Dynamic.dataOf ms).sorted }) = .ok d) :
      d.data = (Dynamic.ofMembers ms).data := by
    obtain ⟨_, -, ⟨⟩⟩ := Schema.bind_eq_ok_iff.1 hd
    rfl
  unfold Dynamic.reader at h
  simp only at h
  split at h
  · cases h
  · exact hkept h
  · obtain ⟨m, -, h⟩ := Schema.bind_eq_ok_iff.1 h
    exact hkept h

/-- Any object that is held as a value can be read if its metadata can. -/
theorem Dynamic.reader_eq_ok_iff (h : (Json.obj ms).Held room) {d : Dynamic} :
    Dynamic.reader room (.obj ms) = .ok d ↔
      (∀ v, lookup "metadata" ms = some v → Schema.objectMeta.check (room - 1) v = .ok ()) ∧
        Dynamic.ofMembers ms = d := by
  have hdata : Schema.kept.check room (dataOf ms) = .ok () :=
    Schema.checkKept_of_held (h.filter _) (Nat.le_refl room)
  have hnodup := h.nodup
  unfold Dynamic.reader Dynamic.ofMembers
  rw [dataOf] at hdata ⊢
  simp only [Json.unique?_of_nodup hnodup]
  cases lookup "metadata" ms with
  | none => simp [hdata, bind, Except.bind, pure, Except.pure]
  | some v =>
    cases hread : Meta.reader (room - 1) v with
    | ok m =>
      obtain ⟨hcheck, rfl⟩ := Schema.reader_eq_ok_iff.1 hread
      simp [hread, hdata, hcheck, bind, Except.bind, pure, Except.pure]
    | error e =>
      have hcheck : Schema.objectMeta.check (room - 1) v ≠ .ok () := fun hcheck => by
        cases hread.symm.trans (Schema.reader_eq_ok_iff.2 ⟨hcheck, rfl⟩)
      simp [hread, hcheck, bind, Except.bind]

end Object

/-- The record with another version. -/
def Record.Workload.withVersion (w : Record.Workload) (version : String) : Record.Workload :=
  { w with typeMeta := { w.typeMeta with apiVersion := version } }

namespace CronJobObject

open Object (CronJob CronJobSpec CronJobStatus Schema)
open Record.Workload (ofCronJobParts)

variable {room : Nat} {ms : List (String × Json)} {j : Json}

/-! ## Reading the parts of the earlier generation -/

theorem readPart_of_check {α : Type} {s : Schema} {view : Json → α}
    (h : s.check Json.maxDepth j = .ok ()) : readPart (s.reader view) j = .value (view j) := by
  unfold readPart Object.Reader.whole
  rw [Schema.reader_eq_ok_iff.2 ⟨h, rfl⟩]

theorem readPart_of_not_check {α : Type} {s : Schema} (view : Json → α)
    (h : s.check Json.maxDepth j ≠ .ok ()) :
    ∃ chain, readPart (s.reader view) j = .failed chain := by
  unfold readPart Object.Reader.whole
  cases hread : s.reader view Json.maxDepth j with
  | ok a => exact absurd (Schema.reader_eq_ok_iff.1 hread).1 h
  | error e => exact ⟨_, rfl⟩

/-- A part that is held as a value is read from among sorted members if it conforms. -/
theorem readPart_sorted {α : Type} {s : Schema} {view : Json → α}
    (hview : Object.IgnoresOrder view) (h : j.Held room) (hroom : room ≤ Json.maxDepth)
    (hcheck : s.check room j = .ok ()) : readPart (s.reader view) j.sorted = .value (view j) := by
  have hsorted : s.check Json.maxDepth j.sorted = .ok () :=
    (Schema.check_sorted_iff h (Nat.le_refl room) hroom).2 hcheck
  rw [readPart_of_check hsorted, hview h]

theorem get?_data {key : String} (hkey : key ≠ "metadata") :
    (Object.Dynamic.ofMembers ms).data.get? key = (lookup key ms).map Json.sorted := by
  unfold Object.Dynamic.ofMembers
  rw [Json.get?_sorted]
  exact congrArg _ (Json.lookup_filter (p := (· != "metadata")) (by simp [hkey]) ms)

/-- The parts are read unless one of them does not conform. -/
theorem checks_of_readParts (hspec : lookup "spec" ms = some j)
    (h : ∀ chain, readParts (Object.Dynamic.ofMembers ms) ≠ .failed chain) :
    Schema.cronJobSpec.check Json.maxDepth j.sorted = .ok () ∧
      ∀ v, lookup "status" ms = some v →
        Schema.cronJobStatus.check Json.maxDepth v.sorted = .ok () := by
  unfold readParts at h
  simp only [get?_data (by decide : "spec" ≠ "metadata"),
    get?_data (by decide : "status" ≠ "metadata"), hspec, Option.map_some] at h
  have hcheck : Schema.cronJobSpec.check Json.maxDepth j.sorted = .ok () := by
    by_contra hcheck
    obtain ⟨chain, hchain⟩ := readPart_of_not_check CronJobSpec.ofJson hcheck
    exact h chain (by rw [CronJobSpec.reader, hchain]; rfl)
  refine ⟨hcheck, fun v hv => ?_⟩
  by_contra hstatus
  obtain ⟨chain, hchain⟩ := readPart_of_not_check CronJobStatus.ofJson hstatus
  refine h chain ?_
  rw [CronJobSpec.reader, readPart_of_check hcheck]
  simp only [hv, Option.map_some, Attempt.value_bind]
  rw [CronJobStatus.reader, hchain]
  rfl

/-- Parts that conform are read as those of the present generation are. -/
theorem readParts_of_conforms (h : (Json.obj ms).Held room) (hroom : room ≤ Json.maxDepth)
    (hspec : lookup "spec" ms = some j) (hnull : j ≠ .null)
    (hstatus : lookup "status" ms ≠ some .null)
    (hconforms : Object.FieldConforms .cronJobSpec room ms "spec")
    (hconforms' : Object.FieldConforms .cronJobStatus room ms "status") :
    readParts (Object.Dynamic.ofMembers ms) =
      .value ((CronJob.ofMembers ms).spec.getD {}, (CronJob.ofMembers ms).status.getD {}) := by
  have hroom' : room - 1 ≤ Json.maxDepth := Nat.le_trans (Nat.sub_le room 1) hroom
  have hread : readPart CronJobSpec.reader j.sorted = .value (CronJobSpec.ofJson j) :=
    readPart_sorted CronJobSpec.ignoresOrder (h.lookup hspec) hroom' (hconforms j hspec hnull)
  have hparts : CronJob.ofMembers ms =
      { objectMeta := .ofObject (Object.withoutType ms), spec := some (CronJobSpec.ofJson j)
        status := (lookup "status" ms).map CronJobStatus.ofJson } := by
    unfold CronJob.ofMembers
    rw [Object.part?_withoutType (by decide) (by decide) (by simp [hspec, hnull]),
      Object.part?_withoutType (by decide) (by decide) hstatus, hspec, Option.map_some]
  unfold readParts
  simp only [get?_data (by decide : "spec" ≠ "metadata"),
    get?_data (by decide : "status" ≠ "metadata"), hspec, Option.map_some, hread, hparts,
    Attempt.value_bind]
  cases hv : lookup "status" ms with
  | none => rfl
  | some v =>
    have hread' : readPart CronJobStatus.reader v.sorted = .value (CronJobStatus.ofJson v) :=
      readPart_sorted CronJobStatus.ignoresOrder (h.lookup hv) hroom'
        (hconforms' v hv fun heq => hstatus (heq ▸ hv))
    simp only [Option.map_some, hread']
    rfl

/-- Without a specification the earlier generation is not mapped. -/
theorem toWorkload_of_null {d : Object.Dynamic} (hd : Object.Dynamic.reader room (.obj ms) = .ok d)
    (hspec : lookup "spec" ms = none ∨ lookup "spec" ms = some .null) :
    ∃ chain, (v1beta1 d).toWorkload = .failed chain := by
  have hdata : d.data.get? "spec" = (lookup "spec" ms).map Json.sorted :=
    Object.Dynamic.data_of_reader hd ▸ get?_data (by decide)
  rw [toWorkload_v1beta1]
  unfold readParts
  rw [hdata]
  obtain hspec | hspec := hspec
  · exact ⟨["missing spec"], by rw [hspec]; rfl⟩
  · exact ⟨_, by rw [hspec]; rfl⟩

theorem ofCronJobParts_ne_failed (version : String) (m : Object.Meta) (spec : CronJobSpec)
    (status : CronJobStatus) (chain : List String) :
    ofCronJobParts version m spec status ≠ .failed chain :=
  (Record.Workload.counts_ofCronJobParts version m spec status).ne_failed chain

/-- Scheduled jobs of the same parts are mapped to records that differ in their version only, if
they are mapped. -/
theorem ofCronJobParts_withVersion (version version' : String) (m : Object.Meta)
    (spec : CronJobSpec) (status : CronJobStatus) :
    ofCronJobParts version' m spec status =
      (·.withVersion version') <$> ofCronJobParts version m spec status := by
  unfold ofCronJobParts
  simp only [map_bind]
  rfl

theorem objectMeta_ofMembers (h : lookup "metadata" ms ≠ some .null) :
    (Object.Dynamic.ofMembers ms).objectMeta = (CronJob.ofMembers ms).objectMeta := by
  show _ = (Object.part? (Object.withoutType ms) "metadata" Object.Meta.ofJson).getD {}
  rw [Object.part?_withoutType (by decide) (by decide) h]
  rfl

/-- An object that is held as a value, nested no deeper than there is room: its specification is
there, and none of its parts is null. -/
structure Whole (room : Nat) (ms : List (String × Json)) : Prop where
  held : (Json.obj ms).Held room
  room_le : room ≤ Json.maxDepth
  spec : ∃ j, lookup "spec" ms = some j ∧ j ≠ .null
  metadata_ne_null : lookup "metadata" ms ≠ some .null
  status_ne_null : lookup "status" ms ≠ some .null

namespace Whole

/-- What is read in either generation, if it conforms. -/
theorem reader_cronJob_iff (h : Whole room ms) {o : CronJob} :
    CronJob.reader room (Object.withoutType ms) = .ok o ↔
      (Object.FieldConforms .objectMeta room ms "metadata" ∧
        Object.FieldConforms .cronJobSpec room ms "spec" ∧
        Object.FieldConforms .cronJobStatus room ms "status") ∧ CronJob.ofMembers ms = o := by
  rw [CronJob.reader_eq_ok_iff, Object.check_cronJob_iff h.held.nodup]

theorem reader_dynamic_iff (h : Whole room ms) {d : Object.Dynamic} :
    Object.Dynamic.reader room (.obj ms) = .ok d ↔
      Object.FieldConforms .objectMeta room ms "metadata" ∧ Object.Dynamic.ofMembers ms = d := by
  rw [Object.Dynamic.reader_eq_ok_iff h.held]
  refine and_congr_left fun _ => forall₂_congr fun v hv => ?_
  have hnull : v ≠ .null := fun heq => h.metadata_ne_null (heq ▸ hv)
  exact ⟨fun hcheck _ => hcheck, fun hcheck => hcheck hnull⟩

/-- Where the parts conform, the earlier generation is mapped as the present one. -/
theorem toWorkload_eq (h : Whole room ms)
    (hspec : Object.FieldConforms .cronJobSpec room ms "spec")
    (hstatus : Object.FieldConforms .cronJobStatus room ms "status") :
    (v1beta1 (Object.Dynamic.ofMembers ms)).toWorkload =
      ofCronJobParts "v1beta1" (CronJob.ofMembers ms).objectMeta
        ((CronJob.ofMembers ms).spec.getD {}) ((CronJob.ofMembers ms).status.getD {}) := by
  obtain ⟨j, hj, hnull⟩ := h.spec
  rw [toWorkload_v1beta1, readParts_of_conforms h.held h.room_le hj hnull
    h.status_ne_null hspec hstatus, Attempt.value_bind, objectMeta_ofMembers h.metadata_ne_null]

/-- Where the earlier generation is mapped, the parts conform. -/
theorem conforms_of_toWorkload (h : Whole room ms)
    (hmapped : ∀ chain, (v1beta1 (Object.Dynamic.ofMembers ms)).toWorkload ≠ .failed chain) :
    Object.FieldConforms .cronJobSpec room ms "spec" ∧
      Object.FieldConforms .cronJobStatus room ms "status" := by
  obtain ⟨j, hj, -⟩ := h.spec
  have hread : ∀ chain, readParts (Object.Dynamic.ofMembers ms) ≠ .failed chain :=
    fun chain hchain => hmapped chain (by rw [toWorkload_v1beta1, hchain]; rfl)
  obtain ⟨hspec, hstatus⟩ := checks_of_readParts hj hread
  have hroom : room - 1 ≤ Json.maxDepth := Nat.le_trans (Nat.sub_le room 1) h.room_le
  refine ⟨fun v hv _ => ?_, fun v hv _ => ?_⟩
  · cases hj.symm.trans hv
    exact (Schema.check_sorted_iff (h.held.lookup hv) (Nat.le_refl _) hroom).1 hspec
  · exact (Schema.check_sorted_iff (h.held.lookup hv) (Nat.le_refl _) hroom).1 (hstatus v hv)

end Whole

/-- How the two generations of scheduled jobs agree, for the members of any object.

* Where the object is held as a value, with a specification and without null in place of a part, it
  reads as a job of the present generation exactly when mapping it as one of the earlier generation
  does not fail. The outcomes then are the same, and so are the records but for their version;
  there are records where no processor time overflows.
* Where there is no specification, or null in its place, the present generation is mapped as if it
  had an empty one, and the earlier one gives a single error and no record. -/
theorem generations_agree (room : Nat) (ms : List (String × Json)) :
    (Whole room ms →
      ((∃ o, CronJob.reader room (Object.withoutType ms) = .ok o) ↔
        ∃ d, Object.Dynamic.reader room (.obj ms) = .ok d ∧
          ∀ chain, (v1beta1 d).toWorkload ≠ .failed chain) ∧
      ∀ o d, CronJob.reader room (Object.withoutType ms) = .ok o →
        Object.Dynamic.reader room (.obj ms) = .ok d →
        (v1beta1 d).toWorkload = (·.withVersion "v1beta1") <$> (v1 o).toWorkload ∧
        (∀ w, (v1 o).toWorkload = .value w → w.typeMeta.apiVersion = "v1") ∧
        ((∀ t ∈ (v1 o).processorTimes, ¬ Quantity.Overflows t) →
          ∃ w, (v1 o).toWorkload = .value w)) ∧
    (lookup "spec" ms = none ∨ lookup "spec" ms = some .null →
      (∀ o, CronJob.reader room (Object.withoutType ms) = .ok o →
        ∃ w, (v1 o).toWorkload = .value w ∧
          ofCronJobParts "v1" o.objectMeta {} (o.status.getD {}) = .value w) ∧
      ∀ d, Object.Dynamic.reader room (.obj ms) = .ok d → ∀ domain subject, ∃ message,
        mapGuarded domain subject toWorkload [v1beta1 d] =
          ([], [.ofRecord domain (subject (v1beta1 d)) message])) := by
  refine ⟨fun h => ⟨⟨?_, ?_⟩, ?_⟩, fun hspec => ⟨?_, ?_⟩⟩
  · rintro ⟨o, ho⟩
    obtain ⟨⟨hmeta, hspec, hstatus⟩, -⟩ := h.reader_cronJob_iff.1 ho
    refine ⟨Object.Dynamic.ofMembers ms, h.reader_dynamic_iff.2 ⟨hmeta, rfl⟩, fun chain => ?_⟩
    rw [h.toWorkload_eq hspec hstatus]
    exact ofCronJobParts_ne_failed _ _ _ _ _
  · rintro ⟨d, hd, hmapped⟩
    obtain ⟨hmeta, rfl⟩ := h.reader_dynamic_iff.1 hd
    obtain ⟨hspec, hstatus⟩ := h.conforms_of_toWorkload hmapped
    exact ⟨_, h.reader_cronJob_iff.2 ⟨⟨hmeta, hspec, hstatus⟩, rfl⟩⟩
  · intro o d ho hd
    obtain ⟨⟨-, hspec, hstatus⟩, rfl⟩ := h.reader_cronJob_iff.1 ho
    obtain ⟨-, rfl⟩ := h.reader_dynamic_iff.1 hd
    refine ⟨?_, fun w hw => ?_, fun hfits => ?_⟩
    · rw [h.toWorkload_eq hspec hstatus, ofCronJobParts_withVersion "v1"]
      rfl
    · rw [(records_toWorkload hw).typeMeta_eq]
      rfl
    · exact (Record.Workload.counts_ofCronJobParts ..).value hfits
  · intro o ho
    obtain ⟨-, rfl⟩ := CronJob.reader_eq_ok_iff.1 ho
    have hnone : (CronJob.ofMembers ms).spec = none := Object.part?_withoutType_of_null
      (by decide) (by decide) hspec
    have hcounts := Record.Workload.counts_ofCronJobParts "v1" (CronJob.ofMembers ms).objectMeta {}
      ((CronJob.ofMembers ms).status.getD {})
    have htimes : ({} : CronJobSpec).processorTimes = [] := rfl
    obtain ⟨w, hw⟩ := hcounts.value (by simp [htimes])
    refine ⟨w, ?_, hw⟩
    rw [toWorkload, hnone]
    exact hw
  · intro d hd domain subject
    obtain ⟨chain, hchain⟩ := toWorkload_of_null hd hspec
    exact ⟨causeText chain, by simp [mapGuarded, guarded, hchain, Except.toOption]⟩

/-- A scheduled job with a specification, whose members stand in the order of a text. -/
def nightly : List (String × Json) :=
  [("kind", .str "CronJob"), ("apiVersion", .str "batch/v1beta1"),
    ("metadata", .obj [("namespace", .str "ops"), ("name", .str "nightly")]),
    ("spec", .obj [("schedule", .str "0 3 * * *"), ("jobTemplate", .obj [("spec", .obj [("template",
      .obj [("spec", .obj [("containers", .arr [.obj [("name", .str "backup"),
        ("resources", .obj [("limits", .obj
          [("memory", .str "1Gi"), ("cpu", .str "250m")])])]])])])])])]),
    ("status", .obj [("lastScheduleTime", .str "2024-05-01T03:00:00Z")])]

theorem whole_nightly : Whole Json.maxDepth nightly where
  held := by simp [nightly, Json.maxDepth]
  room_le := Nat.le_refl _
  spec := ⟨_, rfl, by simp⟩
  metadata_ne_null := by simp [nightly, lookup]
  status_ne_null := by simp [nightly, lookup]

/-- A scheduled job without a specification. -/
def unscheduled : List (String × Json) := [("metadata", .obj [("name", .str "nightly")])]

theorem generations_agree_nightly :
    (∃ o d w, CronJob.reader Json.maxDepth (Object.withoutType nightly) = .ok o ∧
      Object.Dynamic.reader Json.maxDepth (.obj nightly) = .ok d ∧
      (v1 o).processorTimes = ["250m"] ∧
      (v1 o).toWorkload = .value w ∧ w.typeMeta.apiVersion = "v1" ∧
      (v1beta1 d).toWorkload = .value (w.withVersion "v1beta1")) ∧
    ∃ o d w message, CronJob.reader Json.maxDepth (Object.withoutType unscheduled) = .ok o ∧
      Object.Dynamic.reader Json.maxDepth (.obj unscheduled) = .ok d ∧
      (v1 o).toWorkload = .value w ∧
      mapGuarded "workloads" (·.objectMeta.shownName) toWorkload [v1beta1 d] =
        ([], [.ofRecord "workloads" "nightly" message]) := by
  constructor
  · obtain ⟨hreads, halike⟩ := (generations_agree Json.maxDepth nightly).1 whole_nightly
    obtain ⟨d, hd, -⟩ := hreads.1 ⟨_, rfl⟩
    obtain ⟨hsame, hversion, hmapped⟩ := halike _ d rfl hd
    have htimes : (v1 (CronJob.ofMembers nightly)).processorTimes = ["250m"] := rfl
    obtain ⟨w, hw⟩ := hmapped fun t ht => by
      obtain rfl : t = "250m" := List.mem_singleton.1 (htimes ▸ ht)
      decide +kernel
    refine ⟨_, d, w, rfl, hd, htimes, hw, hversion w hw, ?_⟩
    rw [hsame, hw]
    rfl
  · obtain ⟨hpresent, hearlier⟩ :=
      (generations_agree Json.maxDepth unscheduled).2 (.inl rfl)
    obtain ⟨w, hw, -⟩ := hpresent _ rfl
    obtain ⟨message, herror⟩ := hearlier _ rfl "workloads" (·.objectMeta.shownName)
    exact ⟨_, _, w, message, rfl, rfl, hw, herror⟩

/-- A specification that holds what stands for nothing, under a key that names no field. -/
def overfull : List (String × Json) :=
  [("metadata", .obj [("name", .str "nightly")]),
    ("spec", .obj [("schedule", .str "0 3 * * *"), ("x", .unreadable)])]

/-- A specification that does not conform, and after it one that does. -/
def repeated : List (String × Json) :=
  [("metadata", .obj [("name", .str "nightly")]), ("spec", .obj [("schedule", .int 5)]),
    ("spec", .obj [("schedule", .str "0 3 * * *")])]

/-- In the text of an object the present generation passes over what the earlier one would have to
hold, and minds a field that is repeated later on. -/
theorem passed_over_not_held :
    ((∃ o, CronJob.reader Json.maxDepth (Object.withoutType overfull) = .ok o) ∧
      ∀ d, Object.Dynamic.reader Json.maxDepth (.obj overfull) ≠ .ok d) ∧
    (∀ o, CronJob.reader Json.maxDepth (Object.withoutType repeated) ≠ .ok o) ∧
      ∃ d w, Object.Dynamic.reader Json.maxDepth (.obj repeated) = .ok d ∧
        (v1beta1 d).toWorkload = .value w := by
  refine ⟨⟨⟨_, rfl⟩, fun d hd => ?_⟩, fun o ho => ?_, _, _, rfl, rfl⟩
  · cases hd
  · cases ho

end CronJobObject

end ClusterInventory
