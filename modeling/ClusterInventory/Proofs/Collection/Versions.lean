import ClusterInventory.Proofs.Collection.Independence
import ClusterInventory.Proofs.Collection.Run

/-!
# The versions in published snapshots

A snapshot that a cycle collects starts out with the version of the schema; one that stands for an
unreachable cluster takes over what is in the store, and a fresh store holds a snapshot without it.
`version_of_runs` says which snapshots of a run carry which version.
-/

namespace ClusterInventory.Collection

variable {σ : Type}

/-- The cycle reached the cluster. -/
def CycleReport.Reached (r : CycleReport σ) : Prop := ∃ domains, r.acquired = .ok domains

/-- The domains of a live cluster write nothing but records. -/
theorem writesRecords_of_mem_liveDomains (h : Api.Handle σ) {d : Domain σ}
    (hd : d ∈ liveDomains h) : d.WritesRecords := by
  rw [← Part.map_domain_all, List.mem_map] at hd
  obtain ⟨p, -, rfl⟩ := hd
  intro inv world written outcome world' hcollect
  rw [collect_domain] at hcollect
  obtain ⟨r, world₁, -, hpure⟩ := Calls.bind_eq_some.1 hcollect
  cases (Calls.pure_eq_some.1 hpure).1
  exact p.sameHead_put inv r.1

namespace Orchestrator.Runs

variable {o : Orchestrator σ} {history : List (CycleReport σ)} {r : CycleReport σ}
  {past : List (CycleReport σ)} {store : SnapshotStore}

/-- What a run had published at some point of it, it had published by a run. -/
theorem of_append {later : List (CycleReport σ)} (h : o.Runs (later ++ past) store) :
    ∃ store', o.Runs past store' := by
  induction later generalizing store with
  | nil => exact ⟨store, h⟩
  | cons q later ih =>
    cases h with
    | collected hpast => exact ih hpast
    | failed hpast => exact ih hpast

theorem clientVersion_eq (h : o.Runs (r :: past) store) :
    store.current.clientVersion = o.clientVersion := by
  cases hr : r.acquired with
  | ok domains =>
    obtain ⟨hd, _, _, _, hcollect, _⟩ := h.of_collected hr
    obtain ⟨_, hcollects⟩ := collectAll_eq_some_iff.1 hcollect
    exact (hcollects.sameHead hd).clientVersion
  | error chain =>
    rw [(h.of_failed hr).1]
    rfl

/-- The version comes with the first snapshot that is collected, and stays. -/
theorem version_of_reached (h : o.Runs history store) {q : CycleReport σ} (hmem : q ∈ history)
    (hq : q.Reached) : store.current.version = inventoryVersion := by
  induction h with
  | fresh => cases hmem
  | collected _ hacquire hd hcycle _ =>
    obtain ⟨inv, _, _, hcollect, _, rfl, _⟩ := (runCycle_of_value hacquire).1 hcycle
    obtain ⟨_, hcollects⟩ := collectAll_eq_some_iff.1 hcollect
    exact (hcollects.sameHead hd).version
  | failed _ hacquire hcycle ih =>
    rw [runCycle_of_failed hacquire, failedSnapshot_eq] at hcycle
    cases hcycle
    cases hmem with
    | head => exact absurd hq (by rintro ⟨_, ⟨⟩⟩)
    | tail _ hpast => exact ih hpast

/-- Before, there is none: the snapshot is still made of the one of a fresh store. -/
theorem version_of_never_reached (h : o.Runs history store) (hq : ∀ q ∈ history, ¬q.Reached) :
    store.current.version = 0 := by
  induction h with
  | fresh => rfl
  | @collected _ _ _ _ _ _ _ domains _ _ _ _ _ _ => exact absurd ⟨domains, rfl⟩ (hq _ (.head _))
  | failed _ hacquire hcycle ih =>
    rw [runCycle_of_failed hacquire, failedSnapshot_eq] at hcycle
    cases hcycle
    exact ih fun q hpast => hq q (.tail _ hpast)

end Orchestrator.Runs

/-- Which version the snapshots of a run carry, from a fresh store on, for each of its cycles and
all that were taken before it. Every snapshot names the client version of the orchestrator. It
carries the version of the schema exactly when the cluster has been reached by then, be it in this
cycle or in one before; up to that point the version is zero. The domains of a live cluster can take
part in such runs: none of them writes anything but records. -/
theorem version_of_runs (o : Orchestrator σ) {later past : List (CycleReport σ)}
    {r : CycleReport σ} {store : SnapshotStore} (h : o.Runs (later ++ r :: past) store) :
    r.published.clientVersion = o.clientVersion ∧
    (r.published.version = inventoryVersion ↔ ∃ q ∈ r :: past, q.Reached) ∧
    ((∀ q ∈ r :: past, ¬q.Reached) → r.published.version = 0) ∧
    ∀ (c : Api.Handle σ), ∀ d ∈ liveDomains c, d.WritesRecords := by
  obtain ⟨before, hrun⟩ := h.of_append
  rw [← hrun.current]
  refine ⟨hrun.clientVersion_eq, ⟨?_, ?_⟩, hrun.version_of_never_reached,
    fun c _ => writesRecords_of_mem_liveDomains c⟩
  · intro hversion
    by_contra hnever
    have hzero := hrun.version_of_never_reached fun q hq hreached => hnever ⟨q, hq, hreached⟩
    rw [hzero] at hversion
    exact absurd hversion (by decide)
  · rintro ⟨q, hq, hreached⟩
    exact hrun.version_of_reached hq hreached

/-- A cluster that is reached on the second of three attempts; the world counts the attempts. -/
def reachedLater : Orchestrator Nat where
  acquire n := some (if n = 1 then .value [complains] else .failed ["no such file"], n)
  clientVersion := "0.1.0"

/-- The version comes with the second snapshot and is still in the third one, which stands for an
unreachable cluster like the first. -/
theorem version_of_runs_reachedLater : ∃ (third second first : CycleReport Nat)
    (store : SnapshotStore), reachedLater.Runs [third, second, first] store ∧
      first.published.version = 0 ∧ first.published.clientVersion = "0.1.0" ∧
      second.published.version = inventoryVersion ∧ third.published.version = inventoryVersion ∧
      third.published.collectionErrors = ["cluster: acquiring cluster handle: no such file"] := by
  have hdomains : ∀ d ∈ [complains], d.WritesRecords :=
    List.forall_mem_singleton.2 writesRecords_complains
  have hfirst := Orchestrator.Runs.failed (o := reachedLater) .fresh
    (show reachedLater.acquire 0 = some _ from rfl)
    (show reachedLater.runCycle .epoch _ 0 = some _ from rfl)
  have hsecond := Orchestrator.Runs.collected hfirst
    (show reachedLater.acquire 1 = some _ from rfl) hdomains
    (show reachedLater.runCycle .epoch _ 1 = some _ from rfl)
  have hthird := Orchestrator.Runs.failed hsecond
    (show reachedLater.acquire 2 = some _ from rfl)
    (show reachedLater.runCycle .epoch _ 2 = some _ from rfl)
  obtain ⟨hclient, -, hzero, -⟩ := version_of_runs reachedLater
    (show reachedLater.Runs ([_, _] ++ _ :: _) _ from hthird)
  obtain ⟨-, hversion, -, -⟩ := version_of_runs reachedLater
    (show reachedLater.Runs ([] ++ _ :: _) _ from hthird)
  obtain ⟨-, hversion', -, -⟩ := version_of_runs reachedLater
    (show reachedLater.Runs ([_] ++ _ :: _) _ from hthird)
  refine ⟨_, _, _, _, hthird, hzero ?_, hclient, hversion'.2 ⟨_, .head _, _, rfl⟩,
    hversion.2 ⟨_, .tail _ (.head _), _, rfl⟩, rfl⟩
  rintro q hq ⟨_, hok⟩
  cases List.mem_singleton.1 hq
  cases hok

/-- A cluster that is never reached. -/
def neverReached : Orchestrator Unit where
  acquire _ := some (.failed ["no such file"], ())
  clientVersion := "0.1.0"

/-- The first snapshot of a run does not carry the version of the schema when the cluster is not
reached, though it does name the client. -/
theorem neverReached_publishes_without_version : ∃ (first : CycleReport Unit)
    (store : SnapshotStore), neverReached.Runs [first] store ∧
      first.published.clientVersion = "0.1.0" ∧ first.published.version = 0 ∧
      first.published.version ≠ inventoryVersion :=
  ⟨_, _, .failed .fresh (show neverReached.acquire () = some _ from rfl)
    (show neverReached.runCycle .epoch _ () = some _ from rfl), rfl, rfl, by decide⟩

end ClusterInventory.Collection
