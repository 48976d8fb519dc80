import ClusterInventory.Proofs.Collection.Simulation

/-!
# What is handed on, and when

A cycle publishes in the store of its world, so whoever takes a snapshot is called while the store
stands as it does at that moment. An orchestrator that is *watched* keeps an account of every call
of its publisher; apart from that, its cycle is the one with the store beside the world
(`cycle_watched_iff`). A `Course` is a row of such cycles, each at any moment and in any world;
`handed_of_course` compares what it handed on with what it published.
-/

namespace ClusterInventory.Collection

open Api (Calls Component)

variable {σ : Type}

/-! ## A world with a store and an account -/

/-- A snapshot that was handed on, and the store as it stood at that moment. -/
structure Handover where
  snapshot : Inventory
  store : SnapshotStore

/-- A world, a store in it, and all that was handed on, the first first. -/
structure Scene (σ : Type) where
  world : σ
  store : SnapshotStore := {}
  handed : List Handover := []

namespace Scene

/-- The scene in which it is noted that a snapshot is handed on. -/
def note (s : Scene σ) (inv : Inventory) : Scene σ :=
  { s with handed := s.handed ++ [⟨inv, s.store⟩] }

def worldComponent : Component (Scene σ) σ where
  get := world
  set s world := { s with world }
  get_set _ _ := rfl
  set_get _ := rfl
  set_set _ _ _ := rfl

def storeComponent : Component (Scene σ) SnapshotStore where
  get := store
  set s store := { s with store }
  get_set _ _ := rfl
  set_get _ := rfl
  set_set _ _ _ := rfl

end Scene

open Scene (worldComponent storeComponent)

/-- What a cycle reports of the snapshot that it collected. -/
def outcomeOf (inv : Inventory) (delivered : Option Bool) : CycleOutcome :=
  .collected inv.collectionSucceeded inv.collectionErrors.length delivered

/-! ## Orchestrators that are watched -/

namespace Orchestrator

/-- The same orchestrator in a scene. Each call of its publisher is noted before the publisher does
anything. -/
def watched (o : Orchestrator σ) : Orchestrator (Scene σ) :=
  { o.lift worldComponent with
    publisher := o.publisher.map fun publish inv s =>
      worldComponent.lift (publish inv) (s.note inv) }

/-- What a cycle hands on that got this answer from the cluster and left the store like this. -/
def handovers (o : Orchestrator σ) : Attempt (List (Domain σ)) → SnapshotStore → List Handover
  | .value _, store => if o.publisher.isSome then [⟨store.current, store⟩] else []
  | .failed _, _ => []
  | .broken _, _ => []

variable {o : Orchestrator σ} {now : Instant} {s s' : Scene σ} {world₁ : σ}

/-- To hand a snapshot on is noted first, if there is somebody to take it. -/
theorem deliver_watched (o : Orchestrator σ) (inv : Inventory) (s : Scene σ) :
    o.watched.deliver inv s =
      worldComponent.lift (o.deliver inv) (if o.publisher.isSome then s.note inv else s) := by
  unfold deliver
  cases hp : o.publisher with
  | none => simp [watched, hp, lift_pure]
  | some publish =>
    simp only [watched, hp, Option.map_some, Option.isSome_some, if_true]
    rw [lift_bind]
    show Option.bind _ _ = Option.bind _ _
    congr 1
    funext r
    rcases r with ⟨_ | _ | _, s'⟩ <;> rfl

/-- What a watched cycle does with the snapshot that it published. -/
theorem deliver_watched_iff {inv : Inventory} {delivered : Except Breakdown (Option Bool)} :
    o.watched.deliver inv s = some (delivered, s') ↔
      ∃ world', o.deliver inv s.world = some (delivered, world') ∧
        s' = { world := world', store := s.store
               handed := s.handed ++ if o.publisher.isSome then [⟨inv, s.store⟩] else [] } := by
  -- the world is that of `s`, whether or not the snapshot is noted
  have hnote : (if o.publisher.isSome then s.note inv else s) =
      { s with handed := s.handed ++ if o.publisher.isSome then [⟨inv, s.store⟩] else [] } := by
    cases o.publisher.isSome with
    | true => rfl
    | false =>
      simp only [Bool.false_eq_true, if_false, List.append_nil]
  rw [deliver_watched, hnote]
  exact lift_eq_some worldComponent

/-- A watched cycle is the cycle on its store and in its world, and notes what it hands on. -/
theorem cycle_watched_iff {acquired : Attempt (List (Domain σ))}
    {outcome : Except Breakdown CycleOutcome} (h : o.acquire s.world = some (acquired, world₁)) :
    o.watched.cycle storeComponent now s = some (outcome, s') ↔ ∃ store' world',
      o.runCycle now s.store s.world = some ((outcome, store'), world') ∧
        s' = { world := world', store := store'
               handed := s.handed ++ o.handovers acquired store' } := by
  have hacquire : o.watched.acquire s =
      some (liftDomains worldComponent acquired, { s with world := world₁ }) :=
    acquire_lift worldComponent h
  cases acquired with
  | broken b =>
    rw [runCycle_of_broken h, cycle_of_broken hacquire]
    constructor
    · intro hcycle
      cases hcycle
      exact ⟨_, _, rfl, by rw [handovers, List.append_nil]⟩
    · rintro ⟨_, _, hcycle, rfl⟩
      cases hcycle
      rw [handovers, List.append_nil]
  | failed chain =>
    rw [runCycle_of_failed h, cycle_of_failed hacquire]
    constructor
    · intro hcycle
      cases hcycle
      exact ⟨_, _, rfl, by rw [handovers, List.append_nil]; rfl⟩
    · rintro ⟨_, _, hcycle, rfl⟩
      cases hcycle
      rw [handovers, List.append_nil]
      rfl
  | value domains =>
    rw [cycle_of_value hacquire]
    simp only [runCycle_of_value h]
    constructor
    · rintro ⟨inv, _, delivered, hscene, hpublished, houtcome⟩
      rw [collectAll_lift] at hscene
      obtain ⟨world₂, hcollect, rfl⟩ := (lift_eq_some worldComponent).1 hscene
      obtain ⟨world', hdeliver, rfl⟩ := deliver_watched_iff.1 hpublished
      exact ⟨_, world', ⟨inv, world₂, delivered, hcollect, hdeliver, rfl, houtcome⟩, rfl⟩
    · rintro ⟨_, world', ⟨inv, world₂, delivered, hcollect, hdeliver, rfl, houtcome⟩, rfl⟩
      refine ⟨inv, { s with world := world₂ }, delivered, ?_,
        deliver_watched_iff.2 ⟨world', hdeliver, rfl⟩, houtcome⟩
      rw [collectAll_lift]
      exact (lift_eq_some worldComponent).2 ⟨world₂, hcollect, rfl⟩

end Orchestrator

/-! ## Rows of cycles -/

/-- One cycle of a row: when it took place and in which world, what taking hold of the cluster gave
it, how it left the store, and what it reported. -/
structure WatchedCycle (σ : Type) where
  moment : Instant
  found : σ
  acquired : Attempt (List (Domain σ))
  store : SnapshotStore
  outcome : Except Breakdown CycleOutcome

namespace WatchedCycle

/-- The cluster was reached. -/
def reached (c : WatchedCycle σ) : Bool :=
  match c.acquired with
  | .value _ => true
  | .failed _ => false
  | .broken _ => false

/-- The snapshot of the cycle, handed on while the store is as the cycle leaves it. -/
def handover (c : WatchedCycle σ) : Handover := ⟨c.store.current, c.store⟩

end WatchedCycle

/-- Cycles that are taken one after the other, the first first. Each takes place at any moment and
finds the world in any state. -/
inductive Orchestrator.Course (o : Orchestrator σ) :
    Scene σ → List (WatchedCycle σ) → Scene σ → Prop
  | done {s : Scene σ} : Course o s [] s
  | cycle {s s₁ s' : Scene σ} {now : Instant} {found world₁ : σ}
      {acquired : Attempt (List (Domain σ))} {outcome : Except Breakdown CycleOutcome}
      {rest : List (WatchedCycle σ)} :
      o.acquire found = some (acquired, world₁) →
      o.watched.cycle storeComponent now { s with world := found } = some (outcome, s₁) →
      Course o s₁ rest s' →
      Course o s (⟨now, found, acquired, s₁.store, outcome⟩ :: rest) s'

/-- What a cycle reports of a snapshot that it handed on, by the answer that it got. -/
def reportOf (inv : Inventory) : Attempt Unit → Except Breakdown CycleOutcome
  | .value () => .ok (outcomeOf inv (some true))
  | .failed _ => .ok (outcomeOf inv (some false))
  | .broken b => .error b

namespace WatchedCycle

/-- The cycle ran on the store that it found, and what it made of it. The store is the same for
every answer that the publisher gives to the snapshot. -/
def RanOn (o : Orchestrator σ) (before : SnapshotStore) (c : WatchedCycle σ) : Prop :=
  (∃ world', o.runCycle c.moment before c.found = some ((c.outcome, c.store), world')) ∧
  ∃ world₁, o.acquire c.found = some (c.acquired, world₁) ∧
    match c.acquired with
    | .value domains => ∃ inv world₂,
        collectAll domains (.start o.clientVersion c.moment) world₁ = some (inv, world₂) ∧
        c.store = before.publish inv ∧
        match o.publisher with
        | none => c.outcome = .ok (outcomeOf inv none)
        | some publish => ∃ answer world',
            publish inv world₂ = some (answer, world') ∧ c.outcome = reportOf inv answer
    | .failed chain =>
        c.store = before.publish
          (failedSnapshot o.clientVersion (causeText chain) before.current) ∧
        c.outcome = .ok (.acquireFailed (causeText chain))
    | .broken b => c.store = before ∧ c.outcome = .error b

end WatchedCycle

/-- The store went from one cycle to the next. -/
def Carried (o : Orchestrator σ) : SnapshotStore → List (WatchedCycle σ) → SnapshotStore → Prop
  | before, [], after => after = before
  | before, c :: rest, after => c.RanOn o before ∧ Carried o c.store rest after

namespace Orchestrator

variable {o : Orchestrator σ}

/-- What is reported of a snapshot is the answer of whoever takes it. -/
theorem report_of_deliver {inv : Inventory} {world world' : σ}
    {delivered : Except Breakdown (Option Bool)}
    (h : o.deliver inv world = some (delivered, world')) :
    match o.publisher with
    | none => delivered.map (outcomeOf inv) = .ok (outcomeOf inv none)
    | some publish => ∃ answer, publish inv world = some (answer, world') ∧
        delivered.map (outcomeOf inv) = reportOf inv answer := by
  unfold deliver at h
  cases hp : o.publisher with
  | none =>
    rw [hp] at h
    obtain ⟨rfl, -⟩ := Calls.pure_eq_some.1 h
    rfl
  | some publish =>
    rw [hp] at h
    obtain ⟨answer, world₁, hpublish, hpure⟩ := Calls.bind_eq_some.1 h
    cases answer
    all_goals
      obtain ⟨rfl, rfl⟩ := Calls.pure_eq_some.1 hpure
      exact ⟨_, hpublish, rfl⟩

theorem ranOn_of_runCycle {before store' : SnapshotStore} {now : Instant}
    {found world₁ world' : σ} {acquired : Attempt (List (Domain σ))}
    {outcome : Except Breakdown CycleOutcome} (h : o.acquire found = some (acquired, world₁))
    (hcycle : o.runCycle now before found = some ((outcome, store'), world')) :
    (⟨now, found, acquired, store', outcome⟩ : WatchedCycle σ).RanOn o before := by
  refine ⟨⟨world', hcycle⟩, world₁, h, ?_⟩
  cases acquired with
  | broken b =>
    rw [runCycle_of_broken h] at hcycle
    cases hcycle
    exact ⟨rfl, rfl⟩
  | failed chain =>
    rw [runCycle_of_failed h] at hcycle
    cases hcycle
    exact ⟨rfl, rfl⟩
  | value domains =>
    obtain ⟨inv, world₂, delivered, hcollect, hdeliver, rfl, rfl⟩ :=
      (runCycle_of_value h).1 hcycle
    refine ⟨inv, world₂, hcollect, rfl, ?_⟩
    have hreport := report_of_deliver hdeliver
    cases hp : o.publisher with
    | none =>
      rw [hp] at hreport
      exact hreport
    | some publish =>
      rw [hp] at hreport
      obtain ⟨answer, hpublish, heq⟩ := hreport
      exact ⟨answer, world', hpublish, heq⟩

end Orchestrator

/-! ## Nothing comes back from whoever takes the snapshots -/

/-- In worlds that `R` relates the cluster is reached alike and gives the same. They may differ in
what the publisher alone knows of. -/
structure Orchestrator.SeesAlike (o : Orchestrator σ) (R : σ → σ → Prop) : Prop where
  acquire : Follows (fun _ => True) R o.acquire o.acquire
  collect : ∀ world domains world₁, o.acquire world = some (.value domains, world₁) →
    ∀ d ∈ domains, ∀ inv, Follows (fun _ => True) R (d.collect inv) (d.collect inv)

theorem follows_collectAll {R : σ → σ → Prop} {domains : List (Domain σ)}
    (h : ∀ d ∈ domains, ∀ inv, Follows (fun _ => True) R (d.collect inv) (d.collect inv))
    (inv : Inventory) :
    Follows (fun _ => True) R (collectAll domains inv) (collectAll domains inv) := by
  induction domains generalizing inv with
  | nil => exact .pure inv
  | cons d rest ih =>
    have hinto : Follows (fun _ => True) R (d.collectInto inv) (d.collectInto inv) :=
      (h d (.head _) inv).bind fun _ => .pure _
    exact hinto.bind (ih fun d' hmem => h d' (.tail _ hmem))

section Noninterference

variable {o : Orchestrator σ} {R : σ → σ → Prop} {before after after' : SnapshotStore}
  {publisher : Option (Inventory → Calls σ (Attempt Unit))}

/-- The store that a cycle leaves does not depend on who takes its snapshot. -/
theorem WatchedCycle.RanOn.store_eq {c c' : WatchedCycle σ} (h : c.RanOn o before)
    (h' : c'.RanOn { o with publisher } before) (hR : o.SeesAlike R)
    (hmoment : c'.moment = c.moment) (hfound : R c.found c'.found) : c'.store = c.store := by
  obtain ⟨-, world₁, hacquire, h⟩ := h
  obtain ⟨-, world₁', hacquire', h'⟩ := h'
  obtain ⟨-, halike⟩ := hR.acquire _ _ _ hacquire trivial
  obtain ⟨_, hreached, hR₁⟩ := halike c'.found hfound
  obtain ⟨hsame, rfl⟩ := Prod.mk.inj (Option.some.inj (hacquire'.symm.trans hreached))
  rw [hsame] at h'
  cases hacquired : c.acquired with
  | broken b =>
    rw [hacquired] at h h'
    rw [h.1, h'.1]
  | failed chain =>
    rw [hacquired] at h h'
    rw [h.1, h'.1]
  | value domains =>
    rw [hacquired] at hacquire h h'
    obtain ⟨inv, world₂, hcollect, hstore, -⟩ := h
    obtain ⟨inv', world₂', hcollect', hstore', -⟩ := h'
    -- the domains collect the same, since the worlds that they begin in are alike
    have hdomains := follows_collectAll (hR.collect _ _ _ hacquire)
      (.start o.clientVersion c.moment)
    obtain ⟨_, hcollected, -⟩ := (hdomains _ _ _ hcollect trivial).2 _ hR₁
    rw [hmoment] at hcollect'
    cases hcollected.symm.trans hcollect'
    rw [hstore, hstore']

theorem Carried.stores_eq {cycles cycles' : List (WatchedCycle σ)}
    (h : Carried o before cycles after) (hR : o.SeesAlike R)
    (h' : Carried { o with publisher } before cycles' after')
    (hturns : List.Forall₂ (fun c c' => c'.moment = c.moment ∧ R c.found c'.found) cycles cycles') :
    cycles'.map (·.store) = cycles.map (·.store) := by
  induction hturns generalizing before with
  | nil => rfl
  | cons hturn _ ih =>
    have hstore := h.1.store_eq h'.1 hR hturn.1 hturn.2
    have hrest := h'.2
    rw [hstore] at hrest
    rw [List.map_cons, List.map_cons, hstore, ih h.2 hrest]

end Noninterference

namespace Orchestrator

variable {o : Orchestrator σ} {s s' : Scene σ} {cycles : List (WatchedCycle σ)}

/-- In a row of cycles the store goes from one cycle to the next. -/
theorem Course.carried (h : o.Course s cycles s') : Carried o s.store cycles s'.store := by
  induction h with
  | done => rfl
  | cycle hacquire hcycle _ ih =>
    obtain ⟨store', world', hrun, rfl⟩ := (cycle_watched_iff hacquire).1 hcycle
    exact ⟨ranOn_of_runCycle hacquire hrun, ih⟩

theorem Course.handed (h : o.Course s cycles s') :
    s'.handed = s.handed ++
      if o.publisher.isSome then (cycles.filter (·.reached)).map (·.handover) else [] := by
  induction h with
  | done => simp
  | @cycle _ _ _ _ _ _ acquired _ _ hacquire hcycle _ ih =>
    obtain ⟨store', world', hrun, rfl⟩ := (cycle_watched_iff hacquire).1 hcycle
    rw [ih, List.append_assoc]
    cases acquired with
    | value domains =>
      rw [handovers]
      cases o.publisher.isSome <;> rfl
    | failed chain => rfl
    | broken b => rfl

/-- A row of cycles is taken wherever its parts come to an end. -/
theorem exists_course
    (hacquire : ∀ world, ∃ acquired world₁, o.acquire world = some (acquired, world₁) ∧
      ∀ domains, acquired = .value domains → ∀ d ∈ domains, ∀ inv, Calls.Ends (d.collect inv))
    (hpublish : ∀ publish, o.publisher = some publish → ∀ inv, Calls.Ends (publish inv))
    (turns : List (Instant × σ)) (s : Scene σ) :
    ∃ cycles s', o.Course s cycles s' ∧ cycles.map (fun c => (c.moment, c.found)) = turns := by
  induction turns generalizing s with
  | nil => exact ⟨[], s, .done, rfl⟩
  | cons turn rest ih =>
    obtain ⟨acquired, world₁, hreach, hdomains⟩ := hacquire turn.2
    obtain ⟨outcome, store', world', hrun⟩ : ∃ outcome store' world',
        o.runCycle turn.1 s.store turn.2 = some ((outcome, store'), world') := by
      cases acquired with
      | broken b => exact ⟨_, _, _, runCycle_of_broken hreach⟩
      | failed chain => exact ⟨_, _, _, runCycle_of_failed hreach⟩
      | value domains =>
        exact exists_runCycle hreach (hdomains domains rfl) hpublish turn.1 s.store
    have hcycle := (cycle_watched_iff (s := { s with world := turn.2 }) hreach).2
      ⟨store', world', hrun, rfl⟩
    obtain ⟨cycles, s', hrest, hturns⟩ := ih _
    exact ⟨_, s', .cycle hreach hcycle hrest, by rw [List.map_cons, hturns]⟩

end Orchestrator

open Orchestrator in
/-- What is handed on in a row of cycles, and what was in the store each time. The cycles take place
at any moments and in any worlds, so their clusters, domains and publishers may answer anything.

* The snapshots of the cycles that reached the cluster are handed on, each once and in their order,
  and nothing else is. Each is the current one of the store when that happens, and the store stays
  like this to the end of its cycle.
* Each cycle is one of the orchestrator on the store that the one before it left. It publishes what
  its domains collected, or what is kept of the snapshot before, and what the publisher answers is
  seen in the report alone.
* With any other publisher, or none, the cycles leave the same in the store. They take place at the
  same moments, in worlds in which the cluster shows no difference; what the publishers made of the
  worlds may differ.

Such a row is taken wherever taking hold of the cluster, the domains and the publisher come to an
end. -/
theorem handed_of_course (o : Orchestrator σ) {s s' : Scene σ} {cycles : List (WatchedCycle σ)}
    (h : o.Course s cycles s') :
    (s'.handed = s.handed ++
      if o.publisher.isSome then (cycles.filter (·.reached)).map (·.handover) else []) ∧
    Carried o s.store cycles s'.store ∧
    (∀ R, o.SeesAlike R →
      ∀ (publisher : Option (Inventory → Calls σ (Attempt Unit))) (t t' : Scene σ)
        (cycles' : List (WatchedCycle σ)),
      Course { o with publisher } t cycles' t' → t.store = s.store →
      List.Forall₂ (fun c c' => c'.moment = c.moment ∧ R c.found c'.found) cycles cycles' →
      cycles'.map (·.store) = cycles.map (·.store)) ∧
    ((∀ world, ∃ acquired world₁, o.acquire world = some (acquired, world₁) ∧
        ∀ domains, acquired = .value domains → ∀ d ∈ domains, ∀ inv, Calls.Ends (d.collect inv)) →
      (∀ publish, o.publisher = some publish → ∀ inv, Calls.Ends (publish inv)) →
      ∀ (turns : List (Instant × σ)) (t : Scene σ), ∃ cycles' t', o.Course t cycles' t' ∧
        cycles'.map (fun c => (c.moment, c.found)) = turns) := by
  refine ⟨h.handed, h.carried, ?_, exists_course⟩
  intro R hR publisher t t' cycles' h' hstore hturns
  have hcarried := h'.carried
  rw [hstore] at hcarried
  exact h.carried.stores_eq hR hcarried hturns

/-- A cluster that is not reached on the second attempt, and a publisher that refuses what it gets
first. The world counts the attempts and the snapshots that were handed on. -/
def unsteady : Orchestrator (Nat × Nat) where
  acquire world :=
    some (if world.1 = 1 then .failed ["no such file"] else .value [], (world.1 + 1, world.2))
  publisher := some fun _ world =>
    some (if world.2 = 0 then .failed ["status 503"] else .value (), (world.1, world.2 + 1))
  clientVersion := "0.1.0"

/-- The cluster there does not see how many snapshots were handed on. -/
theorem seesAlike_unsteady : unsteady.SeesAlike fun w v => v.1 = w.1 where
  acquire := by
    rintro ⟨n, k⟩ a w' h -
    cases h
    exact ⟨trivial, by rintro ⟨_, k'⟩ rfl; exact ⟨_, rfl, rfl⟩⟩
  collect := by
    rintro ⟨n, k⟩ domains w' h d hd
    obtain ⟨hdomains, -⟩ := Prod.mk.inj (Option.some.inj h)
    split at hdomains
    · cases hdomains
    · cases hdomains
      cases hd

/-- Of three cycles the first and the last hand their snapshots on. The refusal of the first one is
told in its report, and in no snapshot: without a publisher the store is the same each time. -/
theorem handed_of_course_unsteady :
    ∃ (first second third : WatchedCycle (Nat × Nat)) (s' t' : Scene (Nat × Nat))
      (alone : List (WatchedCycle (Nat × Nat))),
      unsteady.Course { world := (0, 0) } [first, second, third] s' ∧
      s'.handed = [⟨first.store.current, first.store⟩, ⟨third.store.current, third.store⟩] ∧
      s'.handed.map (·.store.epoch) = [1, 3] ∧
      first.outcome = .ok (.collected true 0 (some false)) ∧
      second.outcome = .ok (.acquireFailed "no such file") ∧
      third.outcome = .ok (.collected true 0 (some true)) ∧
      third.store.current.collectionErrors = [] ∧
      Orchestrator.Course { unsteady with publisher := none } { world := (0, 0) } alone t' ∧
      alone.map (·.store) = [first.store, second.store, third.store] := by
  have hcourse : unsteady.Course { world := (0, 0) }
      [⟨.epoch, (0, 0), _, _, _⟩, ⟨.epoch, (1, 1), _, _, _⟩, ⟨.epoch, (2, 1), _, _, _⟩] _ :=
    .cycle rfl rfl (.cycle rfl rfl (.cycle rfl rfl .done))
  have halone : Orchestrator.Course { unsteady with publisher := none } { world := (0, 0) }
      [⟨.epoch, (0, 0), _, _, _⟩, ⟨.epoch, (1, 0), _, _, _⟩, ⟨.epoch, (2, 0), _, _, _⟩] _ :=
    .cycle rfl rfl (.cycle rfl rfl (.cycle rfl rfl .done))
  obtain ⟨hhanded, -, hothers, -⟩ := handed_of_course unsteady hcourse
  have hstores := hothers _ seesAlike_unsteady none _ _ _ halone rfl
    (.cons ⟨rfl, rfl⟩ (.cons ⟨rfl, rfl⟩ (.cons ⟨rfl, rfl⟩ .nil)))
  exact ⟨_, _, _, _, _, _, hcourse, hhanded, by rw [hhanded]; rfl, rfl, rfl, rfl, rfl, halone,
    hstores⟩

end ClusterInventory.Collection
