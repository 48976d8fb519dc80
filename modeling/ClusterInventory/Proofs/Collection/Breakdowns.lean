import ClusterInventory.Proofs.Collection.Run

/-!
# Failures and breakdowns

A cycle is guarded against the breakdowns of its domains, but not against those of the two other
calls it makes: to take hold of the cluster, and to hand the snapshot on
(`Orchestrator.BreaksOff`). `error_iff_breaksOff` says that nothing else breaks a cycle off, and
`oks_or_breaksOff_of_runCycles` that cycles are taken until one does. `failures_of_cycles` says
where each failure is recorded.
-/

namespace ClusterInventory.Collection

open Api (Calls)

variable {σ : Type}

/-! ## What is recorded of a domain -/

/-- The errors of a domain stand in the snapshot, with those of the domains after it behind them,
unless one of these writes more than records. -/
theorem Collects.errors_kept {before after : List (Domain σ)} {d : Domain σ}
    {inv inv' : Inventory} {world world' : σ} {reports : List DomainReport}
    (h : Collects (before ++ d :: after) inv world reports inv' world')
    (hafter : ∀ d' ∈ after, d'.WritesRecords) :
    ∃ past report rest earlier, reports = past ++ report :: rest ∧ past.length = before.length ∧
      report.name = d.name ∧
      (∃ inv₁ written world₁ world₂,
        d.collect inv₁ world₁ = some ((written, report.outcome), world₂)) ∧
      inv'.collectionErrors =
        earlier ++ ((report :: rest).flatMap (·.errors)).map (·.text) ∧
      (report.errors ≠ [] → inv'.collectionSucceeded = false) := by
  induction before generalizing inv world reports with
  | nil =>
    cases h with
    | @cons _ _ _ written _ _ world₁ _ outcome rest hcollect hrest =>
      have hhead := hrest.sameHead hafter
      rw [Inventory.withErrors_append] at hhead
      refine ⟨[], ⟨d.name, outcome⟩, rest, written.collectionErrors, rfl, rfl, rfl,
        ⟨_, _, _, _, hcollect⟩, hhead.collectionErrors, fun herrors => ?_⟩
      rw [hhead.collectionSucceeded]
      simp [Inventory.withErrors, herrors]
  | cons d' before ih =>
    cases h with
    | cons hcollect hrest =>
      obtain ⟨past, report, rest, earlier, rfl, hpast, hkept⟩ := ih hrest
      exact ⟨_ :: past, report, rest, earlier, rfl, congrArg (· + 1) hpast, hkept⟩

namespace Orchestrator

variable {o : Orchestrator σ} {now : Instant} {store store' : SnapshotStore} {world world' : σ}
  {inv : Inventory}

/-! ## What is recorded of a delivery -/

/-- What a cycle makes of a publisher's answer. -/
def verdict : Attempt Unit → Except Breakdown (Option Bool)
  | .value () => .ok (some true)
  | .failed _ => .ok (some false)
  | .broken b => .error b

theorem deliver_of_none (h : o.publisher = none) (inv : Inventory) (world : σ) :
    o.deliver inv world = some (.ok none, world) := by
  unfold deliver
  rw [h]
  rfl

theorem deliver_iff_of_some {publish : Inventory → Calls σ (Attempt Unit)}
    (h : o.publisher = some publish) {delivered : Except Breakdown (Option Bool)} :
    o.deliver inv world = some (delivered, world') ↔
      ∃ answer, publish inv world = some (answer, world') ∧ delivered = verdict answer := by
  unfold deliver
  rw [h]
  constructor
  · intro hdeliver
    obtain ⟨answer, world₁, hpublish, hverdict⟩ := Calls.bind_eq_some.1 hdeliver
    cases answer <;> cases hverdict <;> exact ⟨_, hpublish, rfl⟩
  · rintro ⟨answer, hpublish, rfl⟩
    refine Calls.bind_eq_some.2 ⟨answer, world', hpublish, ?_⟩
    cases answer <;> rfl

/-! ## What breaks a cycle off -/

/-- One of the calls breaks off that a cycle is not guarded against. -/
inductive BreaksOff (o : Orchestrator σ) (now : Instant) (world : σ) (b : Breakdown) : Prop
  | acquiring {world' : σ} : o.acquire world = some (.broken b, world') → BreaksOff o now world b
  | handingOn {domains : List (Domain σ)} {inv : Inventory} {world₁ world₂ world' : σ}
      {publish : Inventory → Calls σ (Attempt Unit)} :
      o.acquire world = some (.value domains, world₁) →
      collectAll domains (.start o.clientVersion now) world₁ = some (inv, world₂) →
      o.publisher = some publish → publish inv world₂ = some (.broken b, world') →
      BreaksOff o now world b

/-- A cycle breaks off where taking hold of the cluster does, or handing the snapshot on, and
nowhere else. -/
theorem error_iff_breaksOff {outcome : Except Breakdown CycleOutcome}
    (h : o.runCycle now store world = some ((outcome, store'), world')) (b : Breakdown) :
    outcome = .error b ↔ o.BreaksOff now world b := by
  obtain ⟨acquired, world₁, hacquire⟩ := acquire_of_runCycle h
  cases acquired with
  | broken b' =>
    rw [runCycle_of_broken hacquire] at h
    cases h
    constructor
    · rintro ⟨⟩
      exact .acquiring hacquire
    · rintro (hbroken | ⟨hvalue, -, -, -⟩)
      · cases hacquire.symm.trans hbroken
        rfl
      · cases hacquire.symm.trans hvalue
  | failed chain =>
    rw [runCycle_of_failed hacquire] at h
    cases h
    constructor
    · rintro ⟨⟩
    · rintro (hbroken | ⟨hvalue, -, -, -⟩)
      · cases hacquire.symm.trans hbroken
      · cases hacquire.symm.trans hvalue
  | value domains =>
    obtain ⟨inv, world₂, delivered, hcollect, hdeliver, -, rfl⟩ := (runCycle_of_value hacquire).1 h
    constructor
    · intro houtcome
      cases hp : o.publisher with
      | none =>
        rw [deliver_of_none hp] at hdeliver
        cases hdeliver
        cases houtcome
      | some publish =>
        obtain ⟨answer, hpublish, rfl⟩ := (deliver_iff_of_some hp).1 hdeliver
        cases answer <;> cases houtcome
        exact .handingOn hacquire hcollect hp hpublish
    · rintro (hbroken | ⟨hvalue, hcollect', hp, hpublish⟩)
      · cases hacquire.symm.trans hbroken
      · cases hacquire.symm.trans hvalue
        cases hcollect.symm.trans hcollect'
        obtain ⟨answer, hpublish', rfl⟩ := (deliver_iff_of_some hp).1 hdeliver
        cases hpublish.symm.trans hpublish'
        rfl

/-! ## Cycles one after the other -/

/-- The calls that a cycle makes come to an end, in whatever world: with a value, with an error, or
by breaking off. -/
structure CallsEnd (o : Orchestrator σ) : Prop where
  acquire : Calls.Ends o.acquire
  collect : ∀ world domains world', o.acquire world = some (.value domains, world') →
    ∀ d ∈ domains, ∀ inv, Calls.Ends (d.collect inv)
  publish : ∀ publish, o.publisher = some publish → ∀ inv, Calls.Ends (publish inv)

theorem CallsEnd.ends_runCycle (h : o.CallsEnd) (now : Instant) (store : SnapshotStore) :
    Calls.Ends (o.runCycle now store) := by
  intro world
  obtain ⟨acquired, world₁, hacquire⟩ := h.acquire world
  cases acquired with
  | broken b => exact ⟨_, _, runCycle_of_broken hacquire⟩
  | failed chain => exact ⟨_, _, runCycle_of_failed hacquire⟩
  | value domains =>
    obtain ⟨outcome, store', world', hcycle⟩ :=
      exists_runCycle hacquire (h.collect _ _ _ hacquire) h.publish now store
    exact ⟨(outcome, store'), world', hcycle⟩

theorem CallsEnd.ends_runCycles (h : o.CallsEnd) (moments : List Instant) (store : SnapshotStore) :
    Calls.Ends (o.runCycles moments store) := by
  induction moments generalizing store with
  | nil => exact .pure _
  | cons now rest ih =>
    refine (h.ends_runCycle now store).bind ?_
    rintro ⟨_ | outcome, store₁⟩
    · exact .pure _
    · exact (ih store₁).bind fun _ => .pure _

/-- A cycle that does not break off publishes once. -/
theorem epoch_of_runCycle {outcome : CycleOutcome}
    (h : o.runCycle now store world = some ((.ok outcome, store'), world')) :
    store'.epoch = store.epoch + 1 := by
  obtain ⟨acquired, world₁, hacquire⟩ := acquire_of_runCycle h
  cases acquired with
  | broken b =>
    rw [runCycle_of_broken hacquire] at h
    cases h
  | failed chain =>
    rw [runCycle_of_failed hacquire] at h
    cases h
    rfl
  | value domains =>
    obtain ⟨_, _, _, -, -, rfl, -⟩ := (runCycle_of_value hacquire).1 h
    rfl

/-- Either all cycles are taken, or the last one that is breaks off. -/
theorem oks_or_breaksOff_of_runCycles {moments : List Instant}
    {outcomes : List (Except Breakdown CycleOutcome)}
    (h : o.runCycles moments store world = some ((outcomes, store'), world')) :
    (∃ done : List CycleOutcome, outcomes = done.map .ok ∧ done.length = moments.length ∧
      store'.epoch = store.epoch + moments.length) ∨
    ∃ (done : List CycleOutcome) (b : Breakdown), outcomes = done.map .ok ++ [.error b] ∧
      done.length < moments.length ∧ ∃ now ∈ moments, ∃ world, o.BreaksOff now world b := by
  induction moments generalizing store world outcomes with
  | nil =>
    cases h
    exact .inl ⟨[], rfl, rfl, rfl⟩
  | cons now rest ih =>
    obtain ⟨⟨outcome, store₁⟩, world₁, hcycle, hrest⟩ := Calls.bind_eq_some.1 h
    cases outcome with
    | error b =>
      cases hrest
      exact .inr ⟨[], b, rfl, Nat.zero_lt_succ _, now, .head _, world,
        (error_iff_breaksOff hcycle b).1 rfl⟩
    | ok outcome =>
      obtain ⟨⟨later, store₂⟩, world₂, hlater, hpure⟩ := Calls.bind_eq_some.1 hrest
      cases hpure
      obtain ⟨done, rfl, hlength, hepoch⟩ | ⟨done, b, rfl, hlength, now', hnow', hbreaks⟩ :=
        ih hlater
      · refine .inl ⟨outcome :: done, rfl, congrArg (· + 1) hlength, ?_⟩
        rw [hepoch, epoch_of_runCycle hcycle, List.length_cons]
        omega
      · exact .inr ⟨outcome :: done, b, rfl, Nat.succ_lt_succ hlength, now', .tail _ hnow', hbreaks⟩

end Orchestrator

open Orchestrator in
/-- Where the failures of a cycle are recorded, and what breaks it off.

* When the calls of a cycle come to an end, so does the cycle, and so do cycles one after the other.
* A cycle gives a breakdown exactly when taking hold of the cluster, or handing the snapshot on,
  breaks off. In all other cases it gives an outcome.
* When the cluster cannot be reached, outcome and snapshot tell why.
* The errors of a domain, of which one that broke off has a single one, stand in the snapshot,
  which then is no success, unless a domain after it writes more than records. The outcome tells
  how many errors stand there.
* When the publisher refuses the snapshot, the outcome tells so.
* Cycles go on, each with a publication, until one breaks off; none is taken after that. -/
theorem failures_of_cycles (o : Orchestrator σ) :
    (o.CallsEnd → ∀ now store, Calls.Ends (o.runCycle now store)) ∧
    (o.CallsEnd → ∀ moments store, Calls.Ends (o.runCycles moments store)) ∧
    (∀ {now store store' world world' outcome},
      o.runCycle now store world = some ((outcome, store'), world') →
      (∀ b, outcome = .error b ↔ o.BreaksOff now world b) ∧
      (∀ chain world₁, o.acquire world = some (.failed chain, world₁) →
        outcome = .ok (.acquireFailed (causeText chain)) ∧
          store' = store.publish (keptSnapshot o.clientVersion chain store.current)) ∧
      (∀ before d after world₁,
        o.acquire world = some (.value (before ++ d :: after), world₁) →
        (∀ d' ∈ after, d'.WritesRecords) →
        ∃ (report : DomainReport) (earlier later : List String),
          report.name = d.name ∧
          (∃ inv written world₂ world₃,
            d.collect inv world₂ = some ((written, report.outcome), world₃)) ∧
          store'.current.collectionErrors =
            earlier ++ report.errors.map (·.text) ++ later ∧
          (report.errors ≠ [] → store'.current.collectionSucceeded = false) ∧
          (∀ b, report.outcome = .error b →
            report.errors.map (·.text) = [d.name ++ ": domain panicked: " ++ b.message])) ∧
      (∀ domains world₁, o.acquire world = some (.value domains, world₁) →
        ∃ delivered world₂,
          collectAll domains (.start o.clientVersion now) world₁ =
            some (store'.current, world₂) ∧
          o.deliver store'.current world₂ = some (delivered, world') ∧
          outcome = delivered.map (fun delivered =>
            .collected store'.current.collectionSucceeded store'.current.collectionErrors.length
              delivered) ∧
          ∀ publish, o.publisher = some publish → ∃ answer,
            publish store'.current world₂ = some (answer, world') ∧
            delivered = verdict answer)) ∧
    (∀ {moments store store' world world' outcomes},
      o.runCycles moments store world = some ((outcomes, store'), world') →
      (∃ done : List CycleOutcome, outcomes = done.map .ok ∧ done.length = moments.length ∧
        store'.epoch = store.epoch + moments.length) ∨
      ∃ (done : List CycleOutcome) (b : Breakdown), outcomes = done.map .ok ++ [.error b] ∧
        done.length < moments.length ∧ ∃ now ∈ moments, ∃ world, o.BreaksOff now world b) := by
  refine ⟨fun h => h.ends_runCycle, fun h => h.ends_runCycles, ?_,
    fun h => oks_or_breaksOff_of_runCycles h⟩
  intro now store store' world world' outcome h
  refine ⟨error_iff_breaksOff h, ?_, ?_, ?_⟩
  · intro chain world₁ hacquire
    rw [runCycle_of_failed hacquire, failedSnapshot_eq] at h
    cases h
    exact ⟨rfl, rfl⟩
  · intro before d after world₁ hacquire hafter
    obtain ⟨inv, world₂, _, hcollect, -, rfl, -⟩ := (runCycle_of_value hacquire).1 h
    obtain ⟨reports, hcollects⟩ := collectAll_eq_some_iff.1 hcollect
    obtain ⟨_, report, rest, earlier, -, -, hname, hreport, herrors, hfailed⟩ :=
      hcollects.errors_kept hafter
    refine ⟨report, earlier, (rest.flatMap (·.errors)).map (·.text), hname, hreport, ?_, hfailed,
      fun b hb => ?_⟩
    · rw [SnapshotStore.publish_current, herrors, List.flatMap_cons, List.map_append,
        List.append_assoc]
    · rw [← hname]
      exact DomainReport.errors_of_error hb
  · intro domains world₁ hacquire
    obtain ⟨inv, world₂, delivered, hcollect, hdeliver, rfl, rfl⟩ :=
      (runCycle_of_value hacquire).1 h
    exact ⟨delivered, world₂, hcollect, hdeliver, rfl,
      fun publish hp => (deliver_iff_of_some hp).1 hdeliver⟩

/-- A cluster that is reached once, with a publisher that refuses the snapshot. -/
def refused : Orchestrator Nat :=
  { reachedOnce with publisher := some fun _ n => some (.failed ["status 503"], n) }

theorem callsEnd_refused : refused.CallsEnd where
  acquire world := by
    cases world <;> exact ⟨_, _, rfl⟩
  collect := by
    rintro (_ | n) domains world' h d hd inv
    · cases h
      simp only [List.mem_cons, List.not_mem_nil, or_false] at hd
      obtain rfl | rfl := hd <;> exact .pure _
    · cases h
  publish := by
    rintro _ ⟨⟩ inv world
    exact ⟨_, _, rfl⟩

/-- A domain breaks off, the publisher refuses the snapshot, and then the cluster is out of reach:
all of it is recorded, and the cycles go on. -/
theorem failures_of_cycles_refused :
    (∀ moments, Calls.Ends (refused.runCycles moments {})) ∧
    ∃ store₁ world₁ store' world' unreached,
      refused.runCycle .epoch {} 0 =
        some ((.ok (.collected false 2 (some false)), store₁), world₁) ∧
      "namespaces: domain panicked: boom" ∈ store₁.current.collectionErrors ∧
      (∀ b, ¬ refused.BreaksOff .epoch 0 b) ∧
      refused.runCycles [.epoch, .epoch, .epoch] {} 0 =
        some (([.ok (.collected false 2 (some false)), .ok unreached, .ok unreached], store'),
          world') ∧
      unreached = .acquireFailed "inferring cluster config: no such file" ∧ store'.epoch = 3 := by
  obtain ⟨-, hends, hcycle, hcycles⟩ := failures_of_cycles refused
  refine ⟨fun moments => hends callsEnd_refused moments {}, _, _, _, _, _, rfl, ?_, ?_, rfl, rfl,
    ?_⟩
  · have hafter : ∀ d ∈ [complains], d.WritesRecords :=
      List.forall_mem_singleton.2 writesRecords_complains
    obtain ⟨-, -, hdomain, -⟩ := hcycle (show refused.runCycle .epoch {} 0 = some _ from rfl)
    obtain ⟨⟨_, outcome⟩, earlier, later, -, ⟨_, _, _, _, hbroken⟩, herrors, -, htext⟩ :=
      hdomain [] breaksOff [complains] _ rfl hafter
    cases hbroken
    rw [herrors, htext _ rfl]
    simp [breaksOff, Breakdown.message]
  · intro b hbreaks
    obtain ⟨hbroken, -⟩ := hcycle (show refused.runCycle .epoch {} 0 = some _ from rfl)
    cases (hbroken b).2 hbreaks
  · obtain ⟨_, -, -, hepoch⟩ | ⟨done, b, houtcomes, -⟩ :=
      hcycles (show refused.runCycles [.epoch, .epoch, .epoch] {} 0 = some _ from rfl)
    · exact hepoch
    · have hlast := congrArg List.getLast? houtcomes
      rw [List.getLast?_concat] at hlast
      cases hlast

/-! ## Breakdowns that are not recorded -/

/-- A cluster whose second attempt to take hold of it breaks off. -/
def collapsing : Orchestrator Nat where
  acquire n := some (if n = 1 then .broken (.text "boom") else .value [], n + 1)
  clientVersion := "0.1.0"

/-- A publisher that breaks off. -/
def dropping : Orchestrator Nat where
  acquire n := some (.value [], n)
  publisher := some fun _ n => some (.broken (.text "boom"), n)
  clientVersion := "0.1.0"

/-- A domain that takes all errors out of the snapshot. -/
def absolves : Domain Nat where
  name := "storage"
  collect inv := return ({ inv with collectionSucceeded := true, collectionErrors := [] }, .ok [])

/-- A cluster with a domain that breaks off, and one after it that hides this. -/
def lenient : Orchestrator Nat where
  acquire n := some (.value [breaksOff, absolves], n)
  clientVersion := "0.1.0"

/-- What a cycle is not guarded against ends the cycles for good. The breakdown is in no snapshot:
in the first case readers keep the one from before, in the second the last one counts as a success.
Nor does the breakdown of a domain have to stay recorded. -/
theorem unguarded_breakdowns :
    (∃ store' world', collapsing.runCycles [.epoch, .epoch, .epoch] {} 0 =
        some (([.ok (.collected true 0 none), .error (.text "boom")], store'), world') ∧
      store'.epoch = 1 ∧ store'.current = .start "0.1.0" .epoch) ∧
    (∃ store' world', dropping.runCycles [.epoch, .epoch, .epoch] {} 0 =
        some (([.error (.text "boom")], store'), world') ∧
      store'.current = .start "0.1.0" .epoch) ∧
    ∃ store' world', lenient.runCycle .epoch {} 0 =
        some ((.ok (.collected true 0 none), store'), world') ∧
      store'.current.collectionSucceeded = true ∧ store'.current.collectionErrors = [] :=
  ⟨⟨_, _, rfl, rfl, rfl⟩, ⟨_, _, rfl, rfl⟩, ⟨_, _, rfl, rfl, rfl⟩⟩

end ClusterInventory.Collection
