import ClusterInventory.Proofs.Ownership.Chain
import ClusterInventory.Proofs.Workloads.Merge
import ClusterInventory.Proofs.Workloads.Sources

/-!
# What each object contributes to a pass

`Contributes` says what one object adds to the list of workloads and to the errors, by what its
mapper gives and how the search for its root owner ends. `contributes_contribute` is all that is
known of `contribute`; what holds of a whole pass follows by induction over its objects.
-/

namespace ClusterInventory.Workloads

open Ownership (Fetcher Session Resolution Outcome resolve)
open Record (Workload RootOwner)

/-- What one object contributes, given the outcome of the search for its root owner. -/
inductive Contributes (src : Source) (outcome : Outcome) : Contribution → Prop
  | failed {chain : List String} : src.record = .failed chain →
    Contributes src outcome
      { errors := [.ofRecord domainName src.subject (causeText chain)] }
  | broken {b : Breakdown} : src.record = .broken b →
    Contributes src outcome
      { errors := [.ofRecord domainName src.subject s!"mapper panicked: {b.message}"] }
  | rooted {w : Workload} {res : Resolution} : src.record = .value w → outcome = .ok (some res) →
    Contributes src outcome
      { records := [{ w with rootOwner := some res.root }], placeholders := [res.placeholder] }
  | rootless {w : Workload} : src.record = .value w → w.rootOwner = none → outcome = .ok none →
    Contributes src outcome { records := [w] }
  | unresolved {w : Workload} {e : Ownership.ResolveError} : src.record = .value w →
    w.rootOwner = none → outcome = .error e →
    Contributes src outcome
      { records := [w], errors := [.ofRecord domainName src.subject e.message] }

variable {σ : Type} {fetch : Fetcher σ} {src : Source} {s : Session σ}

section Contribute

theorem contribute_of_failed {chain : List String} (h : src.record = .failed chain)
    (fetch : Fetcher σ) (s : Session σ) : contribute fetch src s =
      ({ errors := [.ofRecord domainName src.subject (causeText chain)] }, s) := by
  simp only [contribute, h, guarded]

theorem contribute_of_broken {b : Breakdown} (h : src.record = .broken b)
    (fetch : Fetcher σ) (s : Session σ) : contribute fetch src s =
      ({ errors := [.ofRecord domainName src.subject s!"mapper panicked: {b.message}"] }, s) := by
  simp only [contribute, h, guarded]

theorem contribute_of_value {w : Workload} (h : src.record = .value w)
    (fetch : Fetcher σ) (s : Session σ) : contribute fetch src s =
      (.ofResolved src.subject w (resolve fetch src.objectMeta s).1,
        (resolve fetch src.objectMeta s).2) := by
  simp only [contribute, h, guarded]

theorem contributes_contribute (hsrc : src.Faithful) (fetch : Fetcher σ) (s : Session σ) :
    Contributes src (resolve fetch src.objectMeta s).1 (contribute fetch src s).1 := by
  cases h : src.record with
  | failed chain =>
    rw [contribute_of_failed h]
    exact .failed h
  | broken b =>
    rw [contribute_of_broken h]
    exact .broken h
  | value w =>
    obtain ⟨_, _, hrec⟩ := hsrc w h
    rw [contribute_of_value h]
    rcases hout : (resolve fetch src.objectMeta s).1 with e | _ | res
    · exact .unresolved h hrec.rootOwner_eq rfl
    · exact .rootless h hrec.rootOwner_eq rfl
    · exact .rooted h rfl

end Contribute

/-! ## The records and the roots of a contribution -/

namespace Contributes

variable {outcome : Outcome} {c : Contribution}

/-- An object gives at most one record, and that is told from others as the object is. -/
theorem keys_sublist (hsrc : src.Faithful) (h : Contributes src outcome c) :
    (c.records.map recordKey).Sublist [src.key] := by
  cases h with
  | failed => exact List.nil_sublist _
  | broken => exact List.nil_sublist _
  | rooted h => rw [← hsrc.recordKey h]; exact .refl _
  | rootless h => rw [← hsrc.recordKey h]; exact .refl _
  | unresolved h => rw [← hsrc.recordKey h]; exact .refl _

/-- The root owner of a record is the workload that the placeholder beside it stands for. -/
theorem root_mem_placeholders (h : Contributes src outcome c)
    (hout : ∀ res, outcome = .ok (some res) → res.root.id = res.placeholder.id) {w : Workload}
    {r : RootOwner} (hw : w ∈ c.records) (hr : w.rootOwner = some r) :
    r.id ∈ ids c.placeholders := by
  cases h with
  | failed => cases hw
  | broken => cases hw
  | rooted _ hres =>
    cases List.mem_singleton.1 hw
    cases hr
    exact List.mem_singleton.2 (hout _ hres)
  | rootless _ hnone =>
    cases List.mem_singleton.1 hw
    cases hnone.symm.trans hr
  | unresolved _ hnone =>
    cases List.mem_singleton.1 hw
    cases hnone.symm.trans hr

/-- There is a placeholder only beside a record whose root owner was found. -/
theorem exists_of_mem_placeholders (h : Contributes src outcome c) {p : Workload}
    (hp : p ∈ c.placeholders) : ∃ w res, src.record = .value w ∧ outcome = .ok (some res) ∧
      p = res.placeholder := by
  cases h with
  | rooted hw hres => exact ⟨_, _, hw, hres, List.mem_singleton.1 hp⟩
  | failed => cases hp
  | broken => cases hp
  | rootless => cases hp
  | unresolved => cases hp

theorem placeholder_rootOwner (h : Contributes src outcome c)
    (hout : ∀ res, outcome = .ok (some res) → res.placeholder.rootOwner = none) {p : Workload}
    (hp : p ∈ c.placeholders) : p.rootOwner = none := by
  obtain ⟨_, res, _, hres, rfl⟩ := h.exists_of_mem_placeholders hp
  exact hout res hres

end Contributes

/-! ## A row of objects -/

theorem contributions_cons (fetch : Fetcher σ) (src : Source) (srcs : List Source) (s : Session σ) :
    contributions fetch (src :: srcs) s =
      ((contribute fetch src s).1 :: (contributions fetch srcs (contribute fetch src s).2).1,
        (contributions fetch srcs (contribute fetch src s).2).2) :=
  rfl

/-- Every contribution to a pass is that of one of its objects. -/
theorem exists_of_mem_contributions {srcs : List Source} {c : Contribution}
    (h : c ∈ (contributions fetch srcs s).1) :
    ∃ src ∈ srcs, ∃ s', c = (contribute fetch src s').1 := by
  induction srcs generalizing s with
  | nil => cases h
  | cons src srcs ih =>
    rw [contributions_cons] at h
    rcases List.mem_cons.1 h with rfl | h
    · exact ⟨src, .head _, s, rfl⟩
    · obtain ⟨src', hmem, hc⟩ := ih h
      exact ⟨src', .tail _ hmem, hc⟩

/-- The records of a row are told from each other as the objects are. -/
theorem keys_contributions_sublist {srcs : List Source} (h : ∀ src ∈ srcs, src.Faithful)
    (fetch : Fetcher σ) (s : Session σ) :
    (((contributions fetch srcs s).1.flatMap (·.records)).map recordKey).Sublist
      (srcs.map Source.key) := by
  induction srcs generalizing s with
  | nil => exact .slnil
  | cons src srcs ih =>
    rw [contributions_cons, List.flatMap_cons, List.map_append, List.map_cons,
      ← List.singleton_append]
    have hsrc := h src (.head _)
    exact ((contributes_contribute hsrc fetch s).keys_sublist hsrc).append
      (ih (fun src' hmem => h src' (.tail _ hmem)) _)

end ClusterInventory.Workloads
