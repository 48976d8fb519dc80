import ClusterInventory.Proofs.Record.RoundTrip
import ClusterInventory.Proofs.Workloads.Plain

/-!
# The inventory read back from its text

`decodes_from_text`: the text of an inventory is one that is read as far as it nests, and reads
as that inventory, as long as the free-form documents of its workloads have no floats and do not
nest too deep. Those that the mappers build never do.
-/

namespace ClusterInventory.Inventory

open Json (nil_eq_slots cons_slots slots_append)

/-- The document of an inventory decodes to that inventory. -/
theorem decoder_toJson (inv : Inventory) : decoder inv.toJson = some inv := by
  simp only [toJson, leadingMembers, contentMembers, Json.strings, nil_eq_slots, cons_slots,
    slots_append, List.cons_append, List.nil_append]
  exact Decoder.record_slots
    (.bind (.required rfl (Decoder.uint32_int inv.version)) <| .bind (.string rfl) <|
      .bind (.required rfl (Decoder.instant_instant inv.collectedAt)) <| .bind (.bool rfl) <|
      .bind (.listOrNone rfl fun _ _ => rfl) <|
      .bind (.withDefault rfl inv.cluster.decoder_toJson) <|
      .bind (.listOrNone rfl fun n _ => n.decoder_toJson) <|
      .bind (.listOrNone rfl fun n _ => n.decoder_toJson) <|
      .bind (.withDefault rfl inv.storage.decoder_toJson) <|
      .bind (.listOrNone rfl fun p _ => p.decoder_toJson) <|
      .bind (.withDefault rfl inv.customResources.decoder_toJson) <|
      .bind (.listOrNone rfl fun w _ => w.decoder_toJson) (.pure inv))

theorem fits_toJson {inv : Inventory} (h : ∀ w ∈ inv.workloads, w.IsPlain) :
    inv.toJson.Fits 102 := by
  have hworkload : ∀ w ∈ inv.workloads, w.toJson.Fits 100 := fun w hw =>
    Record.Workload.fits_toJson (h w hw).spec.fits (h w hw).status.fits
  simpa [toJson, leadingMembers, contentMembers] using hworkload

/-- The text of an inventory reads as that inventory, and nests no deeper than is read, if the
documents of its workloads are plain. So are those of all workloads that the mappers build, and
of all that a pass lists. -/
theorem decodes_from_text :
    (∀ inv : Inventory, (∀ w ∈ inv.workloads, w.IsPlain) →
      inv.toJson.depth ≤ Json.maxDepth ∧
        (Json.parse? inv.toJson.text).bind decoder = some inv) ∧
    (∀ o : Workloads.Objects, ∀ src ∈ o.sources, ∀ w, src.record = .value w → w.IsPlain) ∧
    ∀ {σ : Type} (fetch : Ownership.Fetcher σ) (o : Workloads.Objects) (world : σ),
      ∀ w ∈ (Workloads.assemble fetch o world).1, w.IsPlain := by
  refine ⟨fun inv h => ?_, fun _ _ hsrc _ hw => Workloads.isPlain_of_mem_sources hsrc hw,
    fun _ _ _ _ hw => Workloads.isPlain_of_mem_assemble hw⟩
  have hfits := fits_toJson h
  refine ⟨Nat.le_trans hfits.depth_le (by decide), ?_⟩
  rw [Json.parse?_text hfits.exact, Option.bind_some, decoder_toJson]

/-- An inventory that was collected in a leap second, with odd texts, an empty namespace and a
year before the first. -/
def oddInventory : Inventory where
  version := 4294967295
  clientVersion := "a \"quoted\" \\ text\n\x01 \u266f"
  collectedAt :=
    ⟨(Date.make? 2016 12 31).getD .epoch, (TimeOfDay.make? 23 59 60 1).getD .midnight⟩
  collectionErrors := [""]
  cluster := { customerId := Int64.minValue }
  namespaces := [⟨{ (default : Record.ObjectMeta) with
    labels := .ofList [("", "\t")]
    creationTimestamp := some ⟨(Date.make? (-44) 3 15).getD .epoch, .midnight⟩ }⟩]
  workloads := [{
    typeMeta := .ofKind "" "v1" "Pod"
    objectMeta := { (default : Record.ObjectMeta) with «namespace» := some "" }
    spec := .object [("replicas", .null), ("names", .list [.str "\r", .int64 (-1)])]
    status := .emptyObject
    rootOwner := some ⟨"Job", "batch", "v1", "", some ""⟩ }]

theorem oddInventory_decodes_from_text :
    (∀ w ∈ oddInventory.workloads, w.IsPlain) ∧
      oddInventory.toJson.depth ≤ Json.maxDepth ∧
        (Json.parse? oddInventory.toJson.text).bind decoder = some oddInventory := by
  have hplain : ∀ w ∈ oddInventory.workloads, w.IsPlain :=
    List.forall_mem_singleton.2 ⟨.object (by simp [Document.Plain.list]), .emptyObject⟩
  exact ⟨hplain, decodes_from_text.1 oddInventory hplain⟩

end ClusterInventory.Inventory
