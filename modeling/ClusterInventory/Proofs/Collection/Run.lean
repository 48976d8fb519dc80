import ClusterInventory.Proofs.Collection.Cycle

/-!
# Snapshots over a run of cycles

`Orchestrator.Runs` is a run of cycles on a fresh store, of any length and with any mix of cycles
that reach the cluster and cycles that do not; what the cluster does between two cycles is left
open. `snapshot_of_runs` says what stands in the store after its last cycle.
-/

namespace ClusterInventory.Collection

variable {σ : Type}

/-- One cycle of a run: when it took place, what taking hold of the cluster gave, the world that
the domains were collected in, and what the cycle published and reported. -/
structure CycleReport (σ : Type) where
  moment : Instant
  acquired : Except (List String) (List (Domain σ))
  world : σ
  published : Inventory
  outcome : Except Breakdown CycleOutcome

/-- The snapshot of the last cycle that reached the cluster. The cycles are given last first. -/
def lastCollected : List (CycleReport σ) → Inventory
  | [] => {}
  | r :: past =>
    match r.acquired with
    | .ok _ => r.published
    | .error _ => lastCollected past

namespace Orchestrator

/-- Cycles that were taken one after the other from a fresh store on, given last first. Each finds
the world in any state, and collects domains that write nothing but records. -/
inductive Runs (o : Orchestrator σ) : List (CycleReport σ) → SnapshotStore → Prop
  | fresh : Runs o [] {}
  | collected {past : List (CycleReport σ)} {store store' : SnapshotStore} {now : Instant}
      {world world₁ world' : σ} {domains : List (Domain σ)}
      {outcome : Except Breakdown CycleOutcome} :
      Runs o past store → o.acquire world = some (.value domains, world₁) →
      (∀ d ∈ domains, d.WritesRecords) →
      o.runCycle now store world = some ((outcome, store'), world') →
      Runs o (⟨now, .ok domains, world₁, store'.current, outcome⟩ :: past) store'
  | failed {past : List (CycleReport σ)} {store store' : SnapshotStore} {now : Instant}
      {world world₁ world' : σ} {chain : List String} {outcome : Except Breakdown CycleOutcome} :
      Runs o past store → o.acquire world = some (.failed chain, world₁) →
      o.runCycle now store world = some ((outcome, store'), world') →
      Runs o (⟨now, .error chain, world₁, store'.current, outcome⟩ :: past) store'

end Orchestrator

/-- The snapshot that stays when the cluster cannot be reached: the records, and the moment, of an
earlier one with the single error of this cycle. -/
def keptSnapshot (clientVersion : String) (chain : List String) (kept : Inventory) : Inventory :=
  { kept with
    clientVersion
    collectionSucceeded := false
    collectionErrors := ["cluster: acquiring cluster handle: " ++ causeText chain] }

theorem failedSnapshot_eq (clientVersion : String) (chain : List String) (before : Inventory) :
    failedSnapshot clientVersion (causeText chain) before =
      keptSnapshot clientVersion chain before := by
  have htext : (CollectError.ofDomain Record.Cluster.domainName
      s!"acquiring cluster handle: {causeText chain}").text =
        "cluster: acquiring cluster handle: " ++ causeText chain := by
    rw [CollectError.text_ofDomain]
    exact String.append_assoc.symm
  rw [failedSnapshot, htext]
  rfl

/-- Failing again keeps what was kept before. -/
theorem keptSnapshot_keptSnapshot (clientVersion : String) (chain chain' : List String)
    (kept : Inventory) :
    keptSnapshot clientVersion chain (keptSnapshot clientVersion chain' kept) =
      keptSnapshot clientVersion chain kept :=
  rfl

namespace Orchestrator.Runs

variable {o : Orchestrator σ} {r : CycleReport σ} {past : List (CycleReport σ)}
  {store : SnapshotStore}

theorem epoch {history : List (CycleReport σ)} (h : o.Runs history store) :
    store.epoch = history.length := by
  induction h with
  | fresh => rfl
  | collected _ hacquire _ hcycle ih =>
    obtain ⟨_, _, _, _, _, rfl, _⟩ := (runCycle_of_value hacquire).1 hcycle
    rw [SnapshotStore.publish_epoch, ih, List.length_cons]
  | failed _ hacquire hcycle ih =>
    rw [runCycle_of_failed hacquire] at hcycle
    cases hcycle
    rw [SnapshotStore.publish_epoch, ih, List.length_cons]

theorem current (h : o.Runs (r :: past) store) : store.current = r.published := by
  cases h <;> rfl

/-- The store holds the last snapshot that was collected, or what is kept of it. -/
theorem kept (h : o.Runs past store) (chain : List String) :
    keptSnapshot o.clientVersion chain store.current =
      keptSnapshot o.clientVersion chain (lastCollected past) := by
  induction h with
  | fresh => rfl
  | collected => rfl
  | failed _ hacquire hcycle ih =>
    rw [runCycle_of_failed hacquire, failedSnapshot_eq] at hcycle
    cases hcycle
    rw [SnapshotStore.publish_current, keptSnapshot_keptSnapshot, ih]
    rfl

/-- What a cycle that reached the cluster leaves in the store: the domains collected into a fresh
snapshot. -/
theorem of_collected (h : o.Runs (r :: past) store) {domains : List (Domain σ)}
    (hr : r.acquired = .ok domains) :
    (∀ d ∈ domains, d.WritesRecords) ∧ ∃ world₂ world' delivered,
      collectAll domains (.start o.clientVersion r.moment) r.world =
        some (store.current, world₂) ∧
      o.deliver store.current world₂ = some (delivered, world') ∧
      r.outcome = delivered.map fun delivered =>
        .collected store.current.collectionSucceeded store.current.collectionErrors.length
          delivered := by
  cases h with
  | collected _ hacquire hd hcycle =>
    cases hr
    obtain ⟨_, world₂, delivered, hcollect, hdeliver, rfl, houtcome⟩ :=
      (runCycle_of_value hacquire).1 hcycle
    exact ⟨hd, world₂, _, delivered, hcollect, hdeliver, houtcome⟩
  | failed => cases hr

theorem of_failed (h : o.Runs (r :: past) store) {chain : List String}
    (hr : r.acquired = .error chain) :
    store.current = keptSnapshot o.clientVersion chain (lastCollected past) ∧
      r.outcome = .ok (.acquireFailed (causeText chain)) := by
  cases h with
  | collected => cases hr
  | failed hpast hacquire hcycle =>
    cases hr
    rw [runCycle_of_failed hacquire, failedSnapshot_eq, hpast.kept] at hcycle
    cases hcycle
    exact ⟨rfl, rfl⟩

end Orchestrator.Runs

open Orchestrator in
/-- What a run leaves in the store after its last cycle, however the cycles before it went.

* The epoch is the number of cycles, and the snapshot is that of the last one.
* It counts as a success exactly when it has no errors.
* When the cluster was reached, the snapshot is what the domains of this cycle wrote into a fresh
  one. All of them ran, in their order, and its errors are theirs, in this order; of a domain that
  broke off there is a single one. The outcome tells of the same success and number of errors.
* When it was not, everything but the account of errors is that of the last snapshot that was
  collected, or of the empty one, and the only error is that of this cycle.

Cycles come to an end whenever taking hold of the cluster, its domains and the publisher do. -/
theorem snapshot_of_runs (o : Orchestrator σ) {r : CycleReport σ} {past : List (CycleReport σ)}
    {store : SnapshotStore} (h : o.Runs (r :: past) store) :
    (store.epoch = past.length + 1 ∧ store.current = r.published) ∧
    (store.current.collectionSucceeded = true ↔ store.current.collectionErrors = []) ∧
    (∀ domains, r.acquired = .ok domains → ∃ reports world₂ world' delivered,
      collectAll domains (.start o.clientVersion r.moment) r.world =
        some (store.current, world₂) ∧
      Collects domains (.start o.clientVersion r.moment) r.world reports store.current world₂ ∧
      reports.map (·.name) = domains.map (·.name) ∧
      store.current.collectionErrors = (reports.flatMap (·.errors)).map (·.text) ∧
      (∀ report ∈ reports, ∀ b, report.outcome = .error b →
        report.errors.map (·.text) = [report.name ++ ": domain panicked: " ++ b.message]) ∧
      (store.current.version = inventoryVersion ∧
        store.current.clientVersion = o.clientVersion ∧
        store.current.collectedAt = r.moment) ∧
      o.deliver store.current world₂ = some (delivered, world') ∧
      r.outcome = delivered.map fun delivered =>
        .collected store.current.collectionSucceeded store.current.collectionErrors.length
          delivered) ∧
    (∀ chain, r.acquired = .error chain →
      store.current = keptSnapshot o.clientVersion chain (lastCollected past) ∧
        r.outcome = .ok (.acquireFailed (causeText chain))) ∧
    (∀ (now : Instant) (world world₁ : σ),
      (∃ chain, o.acquire world = some (.failed chain, world₁)) ∨
        (∃ domains, o.acquire world = some (.value domains, world₁) ∧
          (∀ d ∈ domains, ∀ inv, Calls.Ends (d.collect inv)) ∧
          ∀ publish, o.publisher = some publish → ∀ inv, Calls.Ends (publish inv)) →
      ∃ outcome store' world', o.runCycle now store world = some ((outcome, store'), world')) := by
  refine ⟨⟨h.epoch, h.current⟩, ?_, ?_, fun chain hr => h.of_failed hr, ?_⟩
  · cases hr : r.acquired with
    | ok domains =>
      obtain ⟨hd, _, _, _, hcollect, _⟩ := h.of_collected hr
      obtain ⟨_, hcollects⟩ := collectAll_eq_some_iff.1 hcollect
      exact (hcollects.start hd).2
    | error chain =>
      rw [(h.of_failed hr).1]
      simp [keptSnapshot]
  · intro domains hr
    obtain ⟨hd, world₂, world', delivered, hcollect, hdeliver, houtcome⟩ := h.of_collected hr
    obtain ⟨reports, hcollects⟩ := collectAll_eq_some_iff.1 hcollect
    have hhead := hcollects.sameHead hd
    refine ⟨reports, world₂, world', delivered, hcollect, hcollects, hcollects.names,
      (hcollects.start hd).1, fun _ _ _ hb => DomainReport.errors_of_error hb,
      ⟨hhead.version, hhead.clientVersion, hhead.collectedAt⟩, hdeliver, houtcome⟩
  · rintro now world world₁ (⟨chain, hacquire⟩ | ⟨domains, hacquire, hdomains, hpublish⟩)
    · exact ⟨_, _, _, runCycle_of_failed hacquire⟩
    · exact exists_runCycle hacquire hdomains hpublish now store

/-- A domain that writes a record and breaks off. -/
def breaksOff : Domain Nat where
  name := "namespaces"
  collect inv := return ({ inv with namespaces := [default] }, .error (.text "boom"))

/-- A domain that writes nothing and gives an error. -/
def complains : Domain Nat where
  name := "storage"
  collect inv := return (inv, .ok [.ofDomain "storage" "listing storage classes: timed out"])

/-- A cluster that is reached once and never again; the world counts the attempts. -/
def reachedOnce : Orchestrator Nat where
  acquire := fun n =>
    if n = 0 then some (.value [breaksOff, complains], n + 1)
    else some (.failed ["inferring cluster config", "no such file"], n + 1)
  clientVersion := "0.1.0"

theorem writesRecords_breaksOff : breaksOff.WritesRecords := by
  intro inv world written outcome world' h
  cases h
  exact ⟨rfl, rfl, rfl, rfl, rfl⟩

theorem writesRecords_complains : complains.WritesRecords := by
  intro inv world written outcome world' h
  cases h
  exact .refl inv

/-- The cluster is reached in the first of three cycles: its record stays, its errors do not, and
the failures of the two other cycles do not add up. -/
theorem snapshot_of_runs_reachedOnce : ∃ (third second first : CycleReport Nat)
    (store : SnapshotStore), reachedOnce.Runs [third, second, first] store ∧
      first.published.collectionErrors =
        ["namespaces: domain panicked: boom", "storage: listing storage classes: timed out"] ∧
      store.epoch = 3 ∧ store.current.namespaces = [default] ∧
      store.current.collectedAt = first.moment ∧ store.current.collectionErrors =
        ["cluster: acquiring cluster handle: inferring cluster config: no such file"] := by
  have hdomains : ∀ d ∈ [breaksOff, complains], d.WritesRecords := by
    simp only [List.forall_mem_cons]
    exact ⟨writesRecords_breaksOff, writesRecords_complains, by simp⟩
  have hfirst := Orchestrator.Runs.collected (o := reachedOnce) .fresh
    (show reachedOnce.acquire 0 = some _ from rfl) hdomains
    (show reachedOnce.runCycle .epoch _ 0 = some _ from rfl)
  have hsecond := Orchestrator.Runs.failed hfirst
    (show reachedOnce.acquire 1 = some _ from rfl)
    (show reachedOnce.runCycle .epoch _ 1 = some _ from rfl)
  have hthird := Orchestrator.Runs.failed hsecond
    (show reachedOnce.acquire 2 = some _ from rfl)
    (show reachedOnce.runCycle .epoch _ 2 = some _ from rfl)
  obtain ⟨⟨hepoch, _⟩, _, _, hkept, _⟩ := snapshot_of_runs reachedOnce hthird
  obtain ⟨hcurrent, _⟩ := hkept _ rfl
  exact ⟨_, _, _, _, hthird, rfl, hepoch, by rw [hcurrent]; rfl, by rw [hcurrent]; rfl,
    by rw [hcurrent]; rfl⟩

end ClusterInventory.Collection
