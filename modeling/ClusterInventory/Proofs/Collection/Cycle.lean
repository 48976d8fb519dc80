import ClusterInventory.Collection.Cycle

/-!
# What one cycle does

`Collects` is the course of the domains of a cycle, one after the other, with what became of each;
`collectAll_eq_some_iff` says that this is all that `collectAll` does. Of domains that write nothing
but records (`Domain.WritesRecords`) the account of errors is known (`Collects.start`). The cycle
itself is taken apart by what taking hold of the cluster gives (`cycle_of_broken`,
`cycle_of_failed`, `cycle_of_value`), and the same is said of one with its store beside the world
(`runCycle_of_broken`, `runCycle_of_failed`, `runCycle_of_value`).
-/

namespace ClusterInventory

namespace CollectError

theorem text_ofDomain (domain message : String) :
    (ofDomain domain message).text = domain ++ ": " ++ message :=
  rfl

end CollectError

namespace Inventory

/-- The two snapshots differ in records at most. -/
structure SameHead (a b : Inventory) : Prop where
  version : a.version = b.version
  clientVersion : a.clientVersion = b.clientVersion
  collectedAt : a.collectedAt = b.collectedAt
  collectionSucceeded : a.collectionSucceeded = b.collectionSucceeded
  collectionErrors : a.collectionErrors = b.collectionErrors

/-- The snapshot with the lines of further errors. -/
def withErrors (inv : Inventory) (errors : List CollectError) : Inventory :=
  { inv with
    collectionSucceeded := inv.collectionSucceeded && errors.isEmpty
    collectionErrors := inv.collectionErrors ++ errors.map (·.text) }

theorem withErrors_nil (inv : Inventory) : inv.withErrors [] = inv := by
  simp [withErrors]

theorem withErrors_append (inv : Inventory) (es es' : List CollectError) :
    (inv.withErrors es).withErrors es' = inv.withErrors (es ++ es') := by
  cases es <;> simp [withErrors]

theorem SameHead.refl (a : Inventory) : a.SameHead a := ⟨rfl, rfl, rfl, rfl, rfl⟩

theorem SameHead.trans {a b c : Inventory} (h : a.SameHead b) (h' : b.SameHead c) :
    a.SameHead c :=
  ⟨h.version.trans h'.version, h.clientVersion.trans h'.clientVersion,
    h.collectedAt.trans h'.collectedAt, h.collectionSucceeded.trans h'.collectionSucceeded,
    h.collectionErrors.trans h'.collectionErrors⟩

theorem SameHead.withErrors {a b : Inventory} (h : a.SameHead b) (es : List CollectError) :
    (a.withErrors es).SameHead (b.withErrors es) where
  version := h.version
  clientVersion := h.clientVersion
  collectedAt := h.collectedAt
  collectionSucceeded := congrArg (· && es.isEmpty) h.collectionSucceeded
  collectionErrors := congrArg (· ++ es.map (·.text)) h.collectionErrors

theorem foldl_recordError (errors : List CollectError) (inv : Inventory) :
    errors.foldl (fun inv e => inv.recordError e.text) inv = inv.withErrors errors := by
  induction errors generalizing inv with
  | nil => simp [withErrors]
  | cons e errors ih =>
    rw [List.foldl_cons, ih]
    simp [withErrors, recordError]

end Inventory

namespace Collection

open Api (Calls Component)

variable {σ ω α β : Type}

/-! ## Work that makes calls -/

namespace Calls

/-- Work comes to an end in every world. -/
def Ends (x : Calls σ α) : Prop := ∀ world, ∃ a world', x world = some (a, world')

theorem pure_eq_some {a b : α} {world world' : σ} :
    (pure a : Calls σ α) world = some (b, world') ↔ a = b ∧ world = world' := by
  show some (a, world) = some (b, world') ↔ _
  rw [Option.some.injEq, Prod.mk.injEq]

theorem bind_eq_some {x : Calls σ α} {f : α → Calls σ β} {b : β} {world world' : σ} :
    (x >>= f) world = some (b, world') ↔
      ∃ a world₁, x world = some (a, world₁) ∧ f a world₁ = some (b, world') := by
  simp [bind, StateT.bind, Option.bind_eq_some_iff]

theorem bind_of_eq_some {x : Calls σ α} {f : α → Calls σ β} {a : α} {world world₁ : σ}
    (h : x world = some (a, world₁)) : (x >>= f) world = f a world₁ := by
  simp [bind, StateT.bind, h]

theorem Ends.bind {x : Calls σ α} {f : α → Calls σ β} (hx : Ends x) (hf : ∀ a, Ends (f a)) :
    Ends (x >>= f) := by
  intro world
  obtain ⟨a, world₁, ha⟩ := hx world
  rw [bind_of_eq_some ha]
  exact hf a world₁

theorem Ends.pure (a : α) : Ends (pure a : Calls σ α) := fun world => ⟨a, world, rfl⟩

end Calls

/-! ## Work in a component of a world -/

section Lift

variable (c : Component ω σ)

theorem lift_eq_some {x : Calls σ α} {w w' : ω} {a : α} :
    c.lift x w = some (a, w') ↔ ∃ s, x (c.get w) = some (a, s) ∧ w' = c.set w s := by
  unfold Component.lift
  rw [Option.map_eq_some_iff]
  constructor
  · rintro ⟨⟨b, s⟩, hx, heq⟩
    cases heq
    exact ⟨s, hx, rfl⟩
  · rintro ⟨s, hx, rfl⟩
    exact ⟨(a, s), hx, rfl⟩

theorem lift_pure (a : α) : c.lift (pure a : Calls σ α) = pure a := by
  funext w
  exact congrArg (fun w => some (a, w)) (c.set_get w)

theorem lift_bind (x : Calls σ α) (f : α → Calls σ β) :
    c.lift (x >>= f) = c.lift x >>= fun a => c.lift (f a) := by
  funext w
  show Option.map _ (Option.bind _ _) = Option.bind (Option.map _ _) _
  cases x (c.get w) with
  | none => rfl
  | some r =>
    simp only [Option.bind_some, Option.map_some, Component.lift, c.get_set, c.set_set]

theorem collectInto_lift (d : Domain σ) (inv : Inventory) :
    (d.lift c).collectInto inv = c.lift (d.collectInto inv) := by
  unfold Domain.collectInto
  rw [lift_bind]
  simp only [lift_pure]
  rfl

theorem collectAll_lift (domains : List (Domain σ)) (inv : Inventory) :
    collectAll (domains.map (Domain.lift c)) inv = c.lift (collectAll domains inv) := by
  induction domains generalizing inv with
  | nil => exact (lift_pure c inv).symm
  | cons d rest ih =>
    rw [List.map_cons, collectAll, collectAll, collectInto_lift, lift_bind]
    simp only [ih]

theorem acquire_lift {o : Orchestrator σ} {acquired : Attempt (List (Domain σ))} {w : ω} {s : σ}
    (h : o.acquire (c.get w) = some (acquired, s)) :
    (o.lift c).acquire w = some (liftDomains c acquired, c.set w s) :=
  Calls.bind_of_eq_some ((lift_eq_some c).2 ⟨s, h, rfl⟩)

theorem deliver_lift (o : Orchestrator σ) (inv : Inventory) :
    (o.lift c).deliver inv = c.lift (o.deliver inv) := by
  unfold Orchestrator.deliver Orchestrator.lift
  cases o.publisher with
  | none => exact (lift_pure c _).symm
  | some publish =>
    simp only [Option.map_some, lift_bind]
    congr 1
    funext answer
    cases answer <;> exact (lift_pure c _).symm

end Lift

/-! ## The domains of a cycle -/

/-- A domain that writes nothing but records. -/
def Domain.WritesRecords (d : Domain σ) : Prop :=
  ∀ inv world written outcome world',
    d.collect inv world = some ((written, outcome), world') → written.SameHead inv

/-- What a domain came to: the errors that it gave back, or its breakdown. -/
structure DomainReport where
  name : String
  outcome : Except Breakdown (List CollectError)

namespace DomainReport

/-- The errors of the domain. One that broke off has a single one. -/
def errors (r : DomainReport) : List CollectError := Domain.errorsOf r.name r.outcome

theorem errors_of_error {r : DomainReport} {b : Breakdown} (h : r.outcome = .error b) :
    r.errors.map (·.text) = [r.name ++ ": domain panicked: " ++ b.message] := by
  have hmark : r.name ++ ": domain panicked: " = r.name ++ ": " ++ "domain panicked: " := by
    rw [String.append_assoc]
    rfl
  rw [errors, h, hmark, String.append_assoc]
  rfl

end DomainReport

/-- Domains run one after the other, from the snapshot `inv` on. Each is given what the one before
it left, with the errors up to then, whatever became of that one. -/
inductive Collects :
    List (Domain σ) → Inventory → σ → List DomainReport → Inventory → σ → Prop
  | nil {inv : Inventory} {world : σ} : Collects [] inv world [] inv world
  | cons {d : Domain σ} {rest : List (Domain σ)} {inv written inv' : Inventory}
      {world world₁ world' : σ} {outcome : Except Breakdown (List CollectError)}
      {reports : List DomainReport} :
      d.collect inv world = some ((written, outcome), world₁) →
      Collects rest (written.withErrors (DomainReport.errors ⟨d.name, outcome⟩)) world₁ reports
        inv' world' →
      Collects (d :: rest) inv world (⟨d.name, outcome⟩ :: reports) inv' world'

theorem collectInto_eq_some {d : Domain σ} {inv inv' : Inventory} {world world' : σ} :
    d.collectInto inv world = some (inv', world') ↔ ∃ written outcome,
      d.collect inv world = some ((written, outcome), world') ∧
        inv' = written.withErrors (DomainReport.errors ⟨d.name, outcome⟩) := by
  unfold Domain.collectInto
  rw [Calls.bind_eq_some]
  constructor
  · rintro ⟨⟨written, outcome⟩, world₁, hd, h⟩
    obtain ⟨rfl, rfl⟩ := Calls.pure_eq_some.1 h
    exact ⟨written, outcome, hd, Inventory.foldl_recordError ..⟩
  · rintro ⟨written, outcome, hd, rfl⟩
    exact ⟨(written, outcome), world', hd,
      Calls.pure_eq_some.2 ⟨Inventory.foldl_recordError .., rfl⟩⟩

theorem collectAll_eq_some_iff {domains : List (Domain σ)} {inv inv' : Inventory}
    {world world' : σ} :
    collectAll domains inv world = some (inv', world') ↔
      ∃ reports, Collects domains inv world reports inv' world' := by
  induction domains generalizing inv world with
  | nil =>
    constructor
    · intro h
      obtain ⟨rfl, rfl⟩ := Calls.pure_eq_some.1 h
      exact ⟨[], .nil⟩
    · rintro ⟨_, ⟨⟩⟩
      rfl
  | cons d rest ih =>
    rw [collectAll, Calls.bind_eq_some]
    constructor
    · rintro ⟨inv₁, world₁, hinto, hrest⟩
      obtain ⟨written, outcome, hd, rfl⟩ := collectInto_eq_some.1 hinto
      obtain ⟨reports, hrest⟩ := ih.1 hrest
      exact ⟨_, .cons hd hrest⟩
    · rintro ⟨_, hall⟩
      cases hall with
      | cons hd hrest =>
        exact ⟨_, _, collectInto_eq_some.2 ⟨_, _, hd, rfl⟩, ih.2 ⟨_, hrest⟩⟩

namespace Collects

variable {domains : List (Domain σ)} {inv inv' : Inventory} {world world' : σ}
  {reports : List DomainReport}

/-- Every domain runs, once and in its place. -/
theorem names (h : Collects domains inv world reports inv' world') :
    reports.map (·.name) = domains.map (·.name) := by
  induction h with
  | nil => rfl
  | cons _ _ ih => rw [List.map_cons, List.map_cons, ih]

/-- Around the records nothing changes but the account of errors, which grows by those of each
domain. -/
theorem sameHead (h : Collects domains inv world reports inv' world')
    (hd : ∀ d ∈ domains, d.WritesRecords) :
    inv'.SameHead (inv.withErrors (reports.flatMap (·.errors))) := by
  induction h with
  | nil => rw [List.flatMap_nil, Inventory.withErrors_nil]; exact .refl _
  | cons hcollect _ ih =>
    have hwritten := hd _ (.head _) _ _ _ _ _ hcollect
    have hrest := ih fun d hmem => hd d (.tail _ hmem)
    rw [Inventory.withErrors_append] at hrest
    rw [List.flatMap_cons]
    exact hrest.trans (hwritten.withErrors _)

/-- A fresh snapshot counts as a success exactly when no domain had an error. -/
theorem start {clientVersion : String} {now : Instant}
    (h : Collects domains (.start clientVersion now) world reports inv' world')
    (hd : ∀ d ∈ domains, d.WritesRecords) :
    inv'.collectionErrors = (reports.flatMap (·.errors)).map (·.text) ∧
      (inv'.collectionSucceeded = true ↔ inv'.collectionErrors = []) := by
  have hhead := h.sameHead hd
  have herrors : inv'.collectionErrors = (reports.flatMap (·.errors)).map (·.text) :=
    hhead.collectionErrors
  refine ⟨herrors, ?_⟩
  rw [hhead.collectionSucceeded, herrors, List.map_eq_nil_iff]
  simp only [Inventory.withErrors, Inventory.start, Bool.true_and, List.isEmpty_iff]

end Collects

theorem ends_collectAll {domains : List (Domain σ)}
    (hd : ∀ d ∈ domains, ∀ inv, Calls.Ends (d.collect inv)) (inv : Inventory) :
    Calls.Ends (collectAll domains inv) := by
  induction domains generalizing inv with
  | nil => exact .pure inv
  | cons d rest ih =>
    have hinto : Calls.Ends (d.collectInto inv) :=
      (hd d (.head _) inv).bind fun _ => .pure _
    exact hinto.bind (ih fun d' hmem => hd d' (.tail _ hmem))

/-! ## The cycle -/

theorem publishIn_eq (store : Component ω SnapshotStore) (inv : Inventory) (w : ω) :
    publishIn store inv w = some ((), store.set w ((store.get w).publish inv)) :=
  rfl

namespace Orchestrator

section Cycle

variable {o : Orchestrator ω} {store : Component ω SnapshotStore} {now : Instant} {w w₁ : ω}

theorem cycle_of_broken {b : Breakdown} (h : o.acquire w = some (.broken b, w₁)) :
    o.cycle store now w = some (.error b, w₁) := by
  unfold cycle
  rw [Calls.bind_of_eq_some h]
  rfl

theorem cycle_of_failed {chain : List String} (h : o.acquire w = some (.failed chain, w₁)) :
    o.cycle store now w = some (.ok (.acquireFailed (causeText chain)),
      store.set w₁ ((store.get w₁).publish
        (failedSnapshot o.clientVersion (causeText chain) (store.get w₁).current))) := by
  unfold cycle
  rw [Calls.bind_of_eq_some h]
  rfl

/-- What a cycle has collected is handed on in a world in which it has been published. -/
theorem cycle_of_value {domains : List (Domain ω)} (h : o.acquire w = some (.value domains, w₁))
    {outcome : Except Breakdown CycleOutcome} {w' : ω} :
    o.cycle store now w = some (outcome, w') ↔ ∃ inv w₂ delivered,
      collectAll domains (.start o.clientVersion now) w₁ = some (inv, w₂) ∧
      o.deliver inv (store.set w₂ ((store.get w₂).publish inv)) = some (delivered, w') ∧
      outcome = delivered.map fun delivered =>
        .collected inv.collectionSucceeded inv.collectionErrors.length delivered := by
  unfold cycle
  rw [Calls.bind_of_eq_some h]
  simp only [Calls.bind_eq_some, Calls.pure_eq_some, publishIn_eq]
  constructor
  · rintro ⟨inv, w₂, hcollect, _, _, hpublish, delivered, _, hdeliver, rfl, rfl⟩
    cases hpublish
    exact ⟨inv, w₂, delivered, hcollect, hdeliver, rfl⟩
  · rintro ⟨inv, w₂, delivered, hcollect, hdeliver, rfl⟩
    exact ⟨inv, w₂, hcollect, (), _, rfl, delivered, w', hdeliver, rfl, rfl⟩

end Cycle

variable {o : Orchestrator σ} {now : Instant} {store store' : SnapshotStore}
  {world world₁ world' : σ} {outcome : Except Breakdown CycleOutcome}

theorem runCycle_eq_some :
    o.runCycle now store world = some ((outcome, store'), world') ↔
      (o.lift .fst).cycle .snd now (world, store) = some (outcome, world', store') := by
  simp only [runCycle, Option.bind_eq_bind, Option.bind_eq_some_iff]
  constructor
  · rintro ⟨⟨_, _, _⟩, hcycle, heq⟩
    cases heq
    exact hcycle
  · exact fun hcycle => ⟨_, hcycle, rfl⟩

theorem acquire_of_runCycle (h : o.runCycle now store world = some ((outcome, store'), world')) :
    ∃ acquired world₁, o.acquire world = some (acquired, world₁) := by
  obtain ⟨_, _, hlift, -⟩ := Calls.bind_eq_some.1 (runCycle_eq_some.1 h)
  obtain ⟨acquired, _, hacquire, -⟩ := Calls.bind_eq_some.1 hlift
  obtain ⟨world₁, hacquire, -⟩ := (lift_eq_some _).1 hacquire
  exact ⟨acquired, world₁, hacquire⟩

theorem runCycle_of_broken {b : Breakdown} (h : o.acquire world = some (.broken b, world₁)) :
    o.runCycle now store world = some ((.error b, store), world₁) := by
  have hacquire : (o.lift .fst).acquire (world, store) = some (.broken b, world₁, store) :=
    acquire_lift .fst (w := (world, store)) h
  exact runCycle_eq_some.2 (cycle_of_broken hacquire)

theorem runCycle_of_failed {chain : List String}
    (h : o.acquire world = some (.failed chain, world₁)) :
    o.runCycle now store world =
      some ((.ok (.acquireFailed (causeText chain)),
        store.publish (failedSnapshot o.clientVersion (causeText chain) store.current)),
          world₁) := by
  have hacquire : (o.lift .fst).acquire (world, store) = some (.failed chain, world₁, store) :=
    acquire_lift .fst (w := (world, store)) h
  exact runCycle_eq_some.2 (cycle_of_failed hacquire)

theorem runCycle_of_value {domains : List (Domain σ)}
    (h : o.acquire world = some (.value domains, world₁)) :
    o.runCycle now store world = some ((outcome, store'), world') ↔
      ∃ inv world₂ delivered,
        collectAll domains (.start o.clientVersion now) world₁ = some (inv, world₂) ∧
        o.deliver inv world₂ = some (delivered, world') ∧ store' = store.publish inv ∧
        outcome = delivered.map fun delivered =>
          .collected inv.collectionSucceeded inv.collectionErrors.length delivered := by
  have hacquire : (o.lift .fst).acquire (world, store) =
      some (.value (domains.map (Domain.lift .fst)), world₁, store) :=
    acquire_lift .fst (w := (world, store)) h
  rw [runCycle_eq_some, cycle_of_value hacquire]
  simp only [collectAll_lift, deliver_lift, lift_eq_some]
  constructor
  · rintro ⟨inv, _, delivered, ⟨world₂, hcollect, rfl⟩, ⟨_, hdeliver, heq⟩, houtcome⟩
    cases heq
    exact ⟨inv, world₂, delivered, hcollect, hdeliver, rfl, houtcome⟩
  · rintro ⟨inv, world₂, delivered, hcollect, hdeliver, rfl, houtcome⟩
    exact ⟨inv, _, delivered, ⟨world₂, hcollect, rfl⟩, ⟨world', hdeliver, rfl⟩, houtcome⟩

theorem ends_deliver (h : ∀ publish, o.publisher = some publish → ∀ inv, Calls.Ends (publish inv))
    (inv : Inventory) : Calls.Ends (o.deliver inv) := by
  unfold deliver
  cases hp : o.publisher with
  | none => exact .pure _
  | some publish =>
    refine (h publish hp inv).bind fun answer => ?_
    cases answer <;> exact .pure _

/-- A cycle comes to an end when its parts do. -/
theorem exists_runCycle {domains : List (Domain σ)}
    (hacquire : o.acquire world = some (.value domains, world₁))
    (hdomains : ∀ d ∈ domains, ∀ inv, Calls.Ends (d.collect inv))
    (hpublish : ∀ publish, o.publisher = some publish → ∀ inv, Calls.Ends (publish inv))
    (now : Instant) (store : SnapshotStore) :
    ∃ outcome store' world', o.runCycle now store world = some ((outcome, store'), world') := by
  obtain ⟨inv, world₂, hcollect⟩ := ends_collectAll hdomains (.start o.clientVersion now) world₁
  obtain ⟨delivered, world', hdeliver⟩ := ends_deliver hpublish inv world₂
  exact ⟨_, _, world', (runCycle_of_value hacquire).2
    ⟨inv, world₂, delivered, hcollect, hdeliver, rfl, rfl⟩⟩

end Orchestrator

end Collection

end ClusterInventory
