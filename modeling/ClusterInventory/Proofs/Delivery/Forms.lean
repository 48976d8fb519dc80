import ClusterInventory.Proofs.Delivery.Acknowledgments
import ClusterInventory.Proofs.Json.Held
import ClusterInventory.Proofs.Json.Variations
import Mathlib.Logic.Relation

/-!
# Forms of acknowledgments

An acknowledgment is written without its empty texts and unset flags, and is read back from that
(`decoder_toJson`). Servers write it in forms of their own: with members that are not known here,
and without members that hold a default. `acks_keep_through_forms` says that none of these forms
matters.
-/

namespace ClusterInventory.Delivery

open Json (nil_eq_slots cons_slots memberOf_eq_slots slots_append)

/-! ## Written and read back -/

/-- A text as it is written, which is not at all when it is empty. -/
def shown (s : String) : Option Json := if s != "" then some (.str s) else none

theorem textMember_eq_slots (key s : String) : textMember key s = Json.slots [(key, shown s)] :=
  Json.memberIf_eq_slots _ key (.str s)

section Reads

variable {key : String} {l : List (String × Option Json)}

theorem reads_text {s : String} (h : l.filter (·.1 == key) = [(key, shown s)]) :
    Reads (textField key) (Json.slots l) s :=
  .skipped h rfl fun hempty => by simpa using hempty

/-- A flag is written when it is set, be it to false. -/
theorem reads_flag {o : Option Bool} (h : l.filter (·.1 == key) = [(key, o.map .bool)]) :
    Reads (Fields.optional key Decoder.bool) (Json.slots l) o :=
  .optional h fun _ _ => rfl

end Reads

namespace ClusterAck

def slots (c : ClusterAck) : List (String × Option Json) :=
  texts.map fun f => (f.key, shown (f.value c))

theorem toJson_eq (c : ClusterAck) : c.toJson = .obj (Json.slots c.slots) := by
  simp only [toJson, textMember_eq_slots, slots_append]
  rfl

theorem decoder_toJson (c : ClusterAck) : decoder c.toJson = some c := by
  rw [toJson_eq]
  refine Decoder.record_slots (.bind (reads_text rfl) ?_)
  repeat refine .bind (reads_text rfl) ?_
  exact .pure c

@[simp] theorem fits_toJson {n : Nat} (c : ClusterAck) : c.toJson.Fits (n + 1) := by
  simp [toJson, textMember]

theorem get?_toJson (c : ClusterAck) {f : RecordField ClusterAck String} (hf : f ∈ texts) :
    c.toJson.get? f.key = shown (f.value c) := by
  rw [toJson_eq]
  exact Json.lookup_slots (by simp [slots, texts]) (List.mem_map.2 ⟨f, hf, rfl⟩)

end ClusterAck

namespace ServiceLevel

def slots (s : ServiceLevel) : List (String × Option Json) :=
  flags.map (fun f => (f.key, (f.value s).map .bool)) ++ [(url.key, shown (url.value s))]

theorem toJson_eq (s : ServiceLevel) : s.toJson = .obj (Json.slots s.slots) := by
  simp only [toJson, textMember_eq_slots, memberOf_eq_slots, slots_append]
  rfl

theorem decoder_toJson (s : ServiceLevel) : decoder s.toJson = some s := by
  rw [toJson_eq]
  refine Decoder.record_slots (.bind (reads_flag rfl) ?_)
  repeat refine .bind (reads_flag rfl) ?_
  exact .bind (reads_text rfl) (.pure s)

@[simp] theorem fits_toJson {n : Nat} (s : ServiceLevel) : s.toJson.Fits (n + 1) := by
  simp [toJson, textMember]

theorem nodup_slots (s : ServiceLevel) : (s.slots.map (·.1)).Nodup := by
  simp [slots, flags, url]

theorem get?_flag (s : ServiceLevel) {f : RecordField ServiceLevel (Option Bool)}
    (hf : f ∈ flags) : s.toJson.get? f.key = (f.value s).map .bool := by
  rw [toJson_eq]
  exact Json.lookup_slots s.nodup_slots
    (List.mem_append_left _ (List.mem_map.2 ⟨f, hf, rfl⟩))

theorem get?_url (s : ServiceLevel) : s.toJson.get? url.key = shown s.customOperationsUrl := by
  rw [toJson_eq]
  exact Json.lookup_slots s.nodup_slots (List.mem_append_right _ (.head _))

end ServiceLevel

namespace AckMetaData

/-- The services that are agreed on stand among the texts, whether or not there are any. -/
def slots (m : AckMetaData) : List (String × Option Json) :=
  (texts.map fun f => (f.key, shown (f.value m))).insertIdx service.number
    (service.key, some m.serviceLevel.toJson)

theorem toJson_eq (m : AckMetaData) : m.toJson = .obj (Json.slots m.slots) := by
  simp only [toJson, textMember_eq_slots, nil_eq_slots, cons_slots, slots_append]
  rfl

theorem decoder_toJson (m : AckMetaData) : decoder m.toJson = some m := by
  rw [toJson_eq]
  refine Decoder.record_slots (.bind (reads_text rfl) ?_)
  repeat refine .bind (reads_text rfl) ?_
  exact .bind (.withDefault rfl m.serviceLevel.decoder_toJson) (.bind (reads_text rfl) (.pure m))

@[simp] theorem fits_toJson {n : Nat} (m : AckMetaData) : m.toJson.Fits (n + 2) := by
  simp [toJson, textMember]

theorem get?_toJson (m : AckMetaData) {f : RecordField AckMetaData String} (hf : f ∈ texts) :
    m.toJson.get? f.key = shown (f.value m) := by
  rw [toJson_eq]
  exact Json.lookup_slots (by simp [slots, texts, service])
    ((List.mem_insertIdx (by simp [texts, service])).2 (.inr (List.mem_map.2 ⟨f, hf, rfl⟩)))

end AckMetaData

namespace AckResponse

def slots (a : AckResponse) : List (String × Option Json) :=
  [("cluster", some a.cluster.toJson), ("meta_data", some a.metaData.toJson),
    ("message", a.message.map .str)]

theorem toJson_eq (a : AckResponse) : a.toJson = .obj (Json.slots a.slots) := by
  simp only [toJson, nil_eq_slots, cons_slots, memberOf_eq_slots, slots_append]
  rfl

theorem decoder_toJson (a : AckResponse) : decoder a.toJson = some a := by
  rw [toJson_eq]
  exact Decoder.record_slots
    (.bind (.withDefault rfl a.cluster.decoder_toJson)
      (.bind (.withDefault rfl a.metaData.decoder_toJson) (.bind (.stringIf rfl) (.pure a))))

theorem fits_toJson {n : Nat} (a : AckResponse) : a.toJson.Fits (n + 3) := by
  simp [toJson]

theorem get?_message (a : AckResponse) : a.toJson.get? "message" = a.message.map .str := by
  rw [toJson_eq]
  exact Json.lookup_slots (by simp [slots]) (.tail _ (.tail _ (.head _)))

end AckResponse

/-- An answer that stands for success and has the text of an acknowledgment is read as it. -/
theorem Receipt.read_toJson {status : Nat} (h : IsSuccess status) (a : AckResponse) :
    (Receipt.answer status (Text.Utf8.bytes a.toJson.text)).read = .ok a := by
  have hfits : a.toJson.Fits 3 := a.fits_toJson
  have hack : ackOf? (Text.Utf8.bytes a.toJson.text) = some a := by
    rw [ackOf?, Json.parseBytes?_text hfits.exact, Option.bind_some, a.decoder_toJson]
  rw [read_answer, if_pos h, hack]

theorem DeliveryMetadata.decoder_toJson (m : DeliveryMetadata) : decoder m.toJson = some m := by
  simp only [toJson, contentMembers, nil_eq_slots, cons_slots]
  exact Decoder.record_slots
    (.bind (.required rfl (Decoder.instant_instant m.updated))
      (.bind (.required rfl m.cluster.decoder_toJson)
        (.bind (.required rfl m.metaData.decoder_toJson) (.pure m))))

theorem DeliveryMetadata.fits_toJson {n : Nat} (m : DeliveryMetadata) : m.toJson.Fits (n + 3) := by
  simp [toJson, contentMembers]

/-! ## Other forms -/

def textForm (key : String) : FieldForm := .plain key "" Decoder.string

def flagForm (key : String) : FieldForm := .plain key none (Decoder.optional Decoder.bool)

def ClusterAck.forms : List FieldForm := texts.map (textForm ·.key)

def ServiceLevel.forms : List FieldForm := flags.map (flagForm ·.key) ++ [textForm url.key]

def AckMetaData.forms : List FieldForm :=
  (texts.map (textForm ·.key)).insertIdx service.number
    (.of service.key {} ServiceLevel.decoder (Json.Varies ServiceLevel.forms))

def AckResponse.forms : List FieldForm :=
  [.of "cluster" {} ClusterAck.decoder (Json.Varies ClusterAck.forms),
    .of "meta_data" {} AckMetaData.decoder (Json.Varies AckMetaData.forms),
    .plain "message" none (Decoder.optional Decoder.string)]

theorem ClusterAck.ignores_varies : decoder.Ignores (Json.Varies forms) := by
  refine Decoder.record_ignores (.plain fun _ => ?_) (by decide)
  repeat refine .plain fun _ => ?_
  exact .pure _

theorem ServiceLevel.ignores_varies : decoder.Ignores (Json.Varies forms) := by
  refine Decoder.record_ignores (.plain fun _ => ?_) (by decide)
  repeat refine .plain fun _ => ?_
  exact .pure _

theorem AckMetaData.ignores_varies : decoder.Ignores (Json.Varies forms) := by
  refine Decoder.record_ignores (.plain fun _ => ?_) (by decide)
  repeat refine .plain fun _ => ?_
  exact .withDefault ServiceLevel.ignores_varies fun _ => .plain fun _ => .pure _

theorem AckResponse.ignores_varies : decoder.Ignores (Json.Varies forms) :=
  Decoder.record_ignores
    (.withDefault ClusterAck.ignores_varies fun _ =>
      .withDefault AckMetaData.ignores_varies fun _ => .plain fun _ => .pure _)
    (by decide)

/-- Acknowledgments are read back from their texts, also where those come as the answer to a
delivery, though empty texts and unset flags are left out of them; a flag that is set to false
stays, and so does a message that is empty. What is read as an acknowledgment is read as the same
one after any number of changes at any level, each of which adds a member that is not known there or
leaves out one that holds the default of its field. -/
theorem acks_keep_through_forms :
    (∀ m : DeliveryMetadata, m.toJson.depth ≤ Json.maxDepth ∧
      (Json.parse? m.toJson.text).bind DeliveryMetadata.decoder = some m) ∧
    (∀ a : AckResponse, a.toJson.depth ≤ Json.maxDepth ∧
      (Json.parse? a.toJson.text).bind AckResponse.decoder = some a ∧
      ∀ status, IsSuccess status →
        (Receipt.answer status (Text.Utf8.bytes a.toJson.text)).read = .ok a) ∧
    (∀ c : ClusterAck, ∀ f ∈ ClusterAck.texts, c.toJson.get? f.key = shown (f.value c)) ∧
    (∀ s : ServiceLevel,
      (∀ f ∈ ServiceLevel.flags, s.toJson.get? f.key = (f.value s).map .bool) ∧
        s.toJson.get? ServiceLevel.url.key = shown s.customOperationsUrl) ∧
    (∀ m : AckMetaData, ∀ f ∈ AckMetaData.texts, m.toJson.get? f.key = shown (f.value m)) ∧
    (∀ a : AckResponse, a.toJson.get? "message" = a.message.map .str) ∧
    ∀ j j' a, AckResponse.decoder j = some a →
      Relation.ReflTransGen (Json.Varies AckResponse.forms) j j' →
      AckResponse.decoder j' = some a := by
  refine ⟨fun m => ?_, fun a => ?_, fun c f => c.get?_toJson,
    fun s => ⟨fun f => s.get?_flag, s.get?_url⟩, fun m f => m.get?_toJson, fun a => a.get?_message,
    fun j j' a hj hvaries => ?_⟩
  · have hfits : m.toJson.Fits 3 := m.fits_toJson
    refine ⟨Nat.le_trans hfits.depth_le (by decide), ?_⟩
    rw [Json.parse?_text hfits.exact, Option.bind_some, m.decoder_toJson]
  · have hfits : a.toJson.Fits 3 := a.fits_toJson
    refine ⟨Nat.le_trans hfits.depth_le (by decide), ?_, fun _ h => Receipt.read_toJson h a⟩
    rw [Json.parse?_text hfits.exact, Option.bind_some, a.decoder_toJson]
  · induction hvaries with
    | refl => exact hj
    | tail _ hstep ih => exact AckResponse.ignores_varies _ _ _ hstep ih

/-- The document of a sparse acknowledgment, which is left of a longer one. -/
theorem acks_keep_through_forms_sparse :
    let long : Json := .obj [
      ("cluster", .obj [("name", .str "prod1"), ("operator_name", .str "")]),
      ("meta_data", .obj [("region", .str ""), ("service_level", .obj
        [("has_technical_operations", .null), ("has_custom_operations", .bool true)])]),
      ("message", .null)]
    let sparse : Json := .obj [
      ("cluster", .obj [("name", .str "prod1")]),
      ("meta_data", .obj [("service_level", .obj
        [("has_custom_operations", .bool true), ("has_support", .bool true)])])]
    let ack : AckResponse :=
      { cluster := { name := "prod1" }
        metaData := { serviceLevel := { hasCustomOperations := some true } } }
    AckResponse.decoder long = some ack ∧
      Relation.ReflTransGen (Json.Varies AckResponse.forms) long sparse ∧
      AckResponse.decoder sparse = some ack := by
  intro long sparse ack
  have hlong : AckResponse.decoder long = some ack := by decide
  have hvaries : Relation.ReflTransGen (Json.Varies AckResponse.forms) long sparse := by
    have operator := List.mem_of_getElem? (i := 1) (l := ClusterAck.forms) rfl
    have region := List.mem_of_getElem? (i := 3) (l := AckMetaData.forms) rfl
    have service := List.mem_of_getElem? (i := 7) (l := AckMetaData.forms) rfl
    have flag := List.mem_of_getElem? (i := 0) (l := ServiceLevel.forms) rfl
    have cluster := List.mem_of_getElem? (i := 0) (l := AckResponse.forms) rfl
    have metaData := List.mem_of_getElem? (i := 1) (l := AckResponse.forms) rfl
    have message := List.mem_of_getElem? (i := 2) (l := AckResponse.forms) rfl
    refine .head (.within [] [_, _] cluster (.leftOut [_] [] operator rfl)) ?_
    refine .head (.within [_] [_] metaData (.leftOut [] [_] region rfl)) ?_
    refine .head (.within [_] [_] metaData (.within [] [] service (.leftOut [] [_] flag rfl))) ?_
    refine .head (.leftOut [_, _] [] message rfl) ?_
    exact .single (.within [_] [] metaData (.within [] [] service (.added [_] [] (by decide))))
  obtain ⟨-, -, -, -, -, -, hkeep⟩ := acks_keep_through_forms
  exact ⟨hlong, hvaries, hkeep long sparse ack hlong hvaries⟩

end ClusterInventory.Delivery
