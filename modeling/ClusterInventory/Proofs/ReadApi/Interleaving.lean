import ClusterInventory.Proofs.Collection.Cycle
import ClusterInventory.Proofs.Delivery.Acknowledgments
import ClusterInventory.ReadApi.Router

/-!
# What readers see while a collection goes on

A `Service` is a collection and the read API beside it. The collection works in steps, each of which
no reader sees half done (`Service.work`): it takes hold of the cluster, collects one domain,
replaces the snapshot, counts it, makes a delivery, or keeps the acknowledgment. Requests, and
changes of the cluster and of the identity that signs, come between any two steps.
`answers_of_run` says what is answered at every moment. Steps that nothing comes between make up the
cycle of an orchestrator (`proceeds_of_runCycle`).
-/

namespace ClusterInventory.ReadApi

open Api (Calls)
open Collection (Domain Orchestrator CycleOutcome collectAll failedSnapshot)
open Credentials (Manager)
open Delivery (AckCache Collector DeliveryError DeliveryMetadata deliver latest latest_append send)

variable {σ : Type}

/-- A source of domains, the name under which snapshots are made, and who takes them and where, if
anybody does. -/
structure Setup (σ : Type) where
  acquire : Calls σ (Attempt (List (Domain σ)))
  clientVersion : String
  destination : Option (Collector σ × String) := none

/-- What a collection is about to do. -/
inductive Phase (σ : Type) where
  | resting
  | collecting (left : List (Domain σ)) (inv : Inventory)
  /-- A snapshot is fresh unless it stands for a cluster that was not reached. -/
  | publishing (inv : Inventory) (isFresh : Bool)
  | counting (inv : Inventory) (isFresh : Bool)
  | delivering (inv : Inventory)
  | acknowledging (metadata : DeliveryMetadata)
  /-- The collection broke off, and there will be no other cycle. -/
  | over (b : Breakdown)

structure Service (σ : Type) where
  world : σ
  manager : Manager
  store : SnapshotStore := {}
  acks : AckCache := none
  phase : Phase σ := .resting
  /-- The snapshots that were published so far, the first first. Nothing reads this. -/
  published : List Inventory := []
  /-- The results of the deliveries so far, the first first. Nothing reads this. -/
  deliveries : List (Except DeliveryError DeliveryMetadata) := []

inductive Event (σ : Type) where
  /-- The collection makes a step, at this moment and with this salt for a signature. -/
  | work (now : Instant) (salt : List UInt8)
  /-- The cluster and the manager of the identity have become these. -/
  | elsewhere (world : σ) (manager : Manager)
  | request (method uri : String)

namespace Phase

/-- What follows from what taking hold of the cluster gave, where the store has `current`. -/
def ofAcquired (clientVersion : String) (now : Instant) (current : Inventory) :
    Attempt (List (Domain σ)) → Phase σ
  | .value domains => .collecting domains (.start clientVersion now)
  | .failed chain => .publishing (failedSnapshot clientVersion (causeText chain) current) false
  | .broken b => .over b

/-- What follows from the end of a cycle. -/
def ofOutcome : Except Breakdown CycleOutcome → Phase σ
  | .ok _ => .resting
  | .error b => .over b

end Phase

def Event.isRequest : Event σ → Bool
  | .request _ _ => true
  | _ => false

namespace Service

/-- One step of the collection. There is none where a call does not come to an end, or when the
collection is over. -/
def work (o : Setup σ) (now : Instant) (salt : List UInt8) (s : Service σ) : Option (Service σ) :=
  match s.phase with
  | .resting => (o.acquire s.world).map fun (acquired, world) =>
    { s with world, phase := .ofAcquired o.clientVersion now s.store.current acquired }
  | .collecting [] inv => some { s with phase := .publishing inv true }
  | .collecting (d :: left) inv => (d.collectInto inv s.world).map fun (inv, world) =>
    { s with world, phase := .collecting left inv }
  | .publishing inv isFresh => some { s with
      store := s.store.replace inv, phase := .counting inv isFresh
      published := s.published ++ [inv] }
  | .counting inv isFresh => some { s with
      store := s.store.advance, phase := if isFresh then .delivering inv else .resting }
  | .delivering inv =>
    match o.destination with
    | none => some { s with phase := .resting }
    | some (collector, endpoint) =>
      match send collector endpoint s.manager salt now inv s.world with
      | (.ok metadata, world) => some { s with world, phase := .acknowledging metadata }
      | (.error e, world) => some { s with
          world, phase := .resting, deliveries := s.deliveries ++ [.error e] }
  | .acknowledging metadata => some { s with
      acks := some metadata, phase := .resting, deliveries := s.deliveries ++ [.ok metadata] }
  | .over _ => none

/-- The answer to a request that comes at this moment. -/
def answer (s : Service σ) (method uri : String) : Option Response :=
  respond? (some (.ofStore s.store s.acks)) method uri

/-- What an event comes to: the answer to a request, and the service after the event. -/
def step (o : Setup σ) (s : Service σ) : Event σ → Option (List (Option Response) × Service σ)
  | .work now salt => (s.work o now salt).map ([], ·)
  | .elsewhere world manager => some ([], { s with world, manager })
  | .request method uri => some ([s.answer method uri], s)

/-- The answers that are given during some events, and the service after them. -/
def run (o : Setup σ) :
    Service σ → List (Event σ) → Option (List (Option Response) × Service σ)
  | s, [] => some ([], s)
  | s, e :: events => (s.step o e).bind fun (answers, s) =>
    (s.run o events).map fun (later, s) => (answers ++ later, s)

/-- The collection alone goes on from one state of the service to the other, at one moment. -/
def Proceeds (o : Setup σ) (now : Instant) (salt : List UInt8) (s s' : Service σ) : Prop :=
  ∃ n, s.run o (List.replicate n (.work now salt)) = some ([], s')

end Service

/-- What a publisher tells of a delivery. -/
def handedOn : Except DeliveryError DeliveryMetadata → Attempt Unit
  | .ok _ => .value ()
  | .error e => .failed [e.message]

/-- The orchestrator of a collection that nothing comes between, with the deliveries as its
publisher. -/
def Setup.orchestrator (o : Setup σ) (manager : Manager) (salt : List UInt8) (now : Instant) :
    Orchestrator σ where
  acquire := o.acquire
  publisher := o.destination.map fun (collector, endpoint) inv world =>
    let (result, world) := send collector endpoint manager salt now inv world
    some (handedOn result, world)
  clientVersion := o.clientVersion

/-! ## Whole snapshots -/

/-- Domains were collected into a snapshot one after the other, each in some world. -/
inductive Gathers : List (Domain σ) → Inventory → Inventory → Prop
  | none {inv : Inventory} : Gathers [] inv inv
  | next {done : List (Domain σ)} {d : Domain σ} {inv inv₁ inv₂ : Inventory} {world world' : σ} :
      Gathers done inv inv₁ → d.collectInto inv₁ world = some (inv₂, world') →
      Gathers (done ++ [d]) inv inv₂

/-- Snapshots that were published one after the other. Each was collected by all the domains that
taking hold of the cluster gave, or it is the one before, with the failure to do so. -/
inductive Setup.Publishes (o : Setup σ) : List Inventory → Prop
  | none : Publishes o []
  | collected {past : List Inventory} {domains : List (Domain σ)} {inv : Inventory} {now : Instant}
      {world world' : σ} :
      Publishes o past → o.acquire world = some (.value domains, world') →
      Gathers domains (.start o.clientVersion now) inv → Publishes o (past ++ [inv])
  | failed {past : List Inventory} {chain : List String} {world world' : σ} :
      Publishes o past → o.acquire world = some (.failed chain, world') →
      Publishes o
        (past ++ [failedSnapshot o.clientVersion (causeText chain) (past.getLast?.getD {})])

/-- The result is that of a delivery of the snapshot. -/
def Setup.Delivers (o : Setup σ) (inv : Inventory)
    (result : Except DeliveryError DeliveryMetadata) : Prop :=
  ∃ collector endpoint manager salt now world, o.destination = some (collector, endpoint) ∧
    (send collector endpoint manager salt now inv world).1 = result

/-! ## What holds at every moment -/

/-- What a collection has at hand for what it is about to do. -/
def Phase.Ready (o : Setup σ) (published : List Inventory) : Phase σ → Prop
  | .resting => True
  | .collecting left inv => ∃ done now world world',
      o.acquire world = some (.value (done ++ left), world') ∧
        Gathers done (.start o.clientVersion now) inv
  | .publishing inv _ => o.Publishes (published ++ [inv])
  | .counting inv _ => inv ∈ published
  | .delivering inv => inv ∈ published
  | .acknowledging metadata => ∃ inv ∈ published, o.Delivers inv (.ok metadata)
  | .over _ => True

namespace Service

variable {o : Setup σ} {now : Instant} {salt : List UInt8} {s s₁ s' : Service σ}

/-- What holds of a service at every moment. -/
structure Sound (o : Setup σ) (s : Service σ) : Prop where
  current : s.store.current = s.published.getLast?.getD {}
  acks : s.acks = latest s.deliveries
  published : o.Publishes s.published
  deliveries : ∀ result ∈ s.deliveries, ∃ inv ∈ s.published, o.Delivers inv result
  phase : s.phase.Ready o s.published

/-- All that a step of the collection does. -/
inductive Works (o : Setup σ) (now : Instant) (salt : List UInt8) (s : Service σ) :
    Service σ → Prop
  | acquired {acquired : Attempt (List (Domain σ))} {world : σ} :
      s.phase = .resting → o.acquire s.world = some (acquired, world) →
      Works o now salt s
        { s with world, phase := .ofAcquired o.clientVersion now s.store.current acquired }
  | finished {inv : Inventory} :
      s.phase = .collecting [] inv → Works o now salt s { s with phase := .publishing inv true }
  | collected {d : Domain σ} {left : List (Domain σ)} {inv inv' : Inventory} {world : σ} :
      s.phase = .collecting (d :: left) inv → d.collectInto inv s.world = some (inv', world) →
      Works o now salt s { s with world, phase := .collecting left inv' }
  | published {inv : Inventory} {isFresh : Bool} :
      s.phase = .publishing inv isFresh →
      Works o now salt s { s with
        store := s.store.replace inv, phase := .counting inv isFresh
        published := s.published ++ [inv] }
  | counted {inv : Inventory} {isFresh : Bool} :
      s.phase = .counting inv isFresh →
      Works o now salt s { s with
        store := s.store.advance, phase := if isFresh then .delivering inv else .resting }
  | kept {inv : Inventory} :
      s.phase = .delivering inv → o.destination = none →
      Works o now salt s { s with phase := .resting }
  | answered {inv : Inventory} {collector : Collector σ} {endpoint : String}
      {metadata : DeliveryMetadata} {world : σ} :
      s.phase = .delivering inv → o.destination = some (collector, endpoint) →
      send collector endpoint s.manager salt now inv s.world = (.ok metadata, world) →
      Works o now salt s { s with world, phase := .acknowledging metadata }
  | refused {inv : Inventory} {collector : Collector σ} {endpoint : String} {e : DeliveryError}
      {world : σ} :
      s.phase = .delivering inv → o.destination = some (collector, endpoint) →
      send collector endpoint s.manager salt now inv s.world = (.error e, world) →
      Works o now salt s { s with
        world, phase := .resting, deliveries := s.deliveries ++ [.error e] }
  | acknowledged {metadata : DeliveryMetadata} :
      s.phase = .acknowledging metadata →
      Works o now salt s { s with
        acks := some metadata, phase := .resting, deliveries := s.deliveries ++ [.ok metadata] }

theorem works_of_work (h : s.work o now salt = some s') : Works o now salt s s' := by
  unfold work at h
  split at h
  next hphase =>
    obtain ⟨⟨acquired, world⟩, hacquire, rfl⟩ := Option.map_eq_some_iff.1 h
    exact .acquired hphase hacquire
  next hphase => cases h; exact .finished hphase
  next hphase =>
    obtain ⟨⟨inv, world⟩, hcollect, rfl⟩ := Option.map_eq_some_iff.1 h
    exact .collected hphase hcollect
  next hphase => cases h; exact .published hphase
  next hphase => cases h; exact .counted hphase
  next hphase =>
    split at h
    next hnobody => cases h; exact .kept hphase hnobody
    next hdestination =>
      split at h
      next hsend => cases h; exact .answered hphase hdestination hsend
      next hsend => cases h; exact .refused hphase hdestination hsend
  next hphase => cases h; exact .acknowledged hphase
  next => cases h

theorem Sound.fresh (world : σ) (manager : Manager) : Sound o { world, manager } where
  current := rfl
  acks := rfl
  published := .none
  deliveries := fun _ hresult => absurd hresult List.not_mem_nil
  phase := trivial

/-- Taking hold of the cluster gives all that what follows from it needs. -/
theorem ready_ofAcquired {past : List Inventory} (hpast : o.Publishes past)
    {acquired : Attempt (List (Domain σ))} {world world' : σ}
    (h : o.acquire world = some (acquired, world')) :
    (Phase.ofAcquired o.clientVersion now (past.getLast?.getD {}) acquired).Ready o past := by
  cases acquired with
  | value domains => exact ⟨[], now, world, world', h, .none⟩
  | failed chain => exact .failed hpast h
  | broken b => trivial

theorem Sound.works (hs : s.Sound o) (h : Works o now salt s s') : s'.Sound o := by
  have hphase := hs.phase
  cases h with
  | acquired _ hacquire =>
    refine { hs with phase := ?_ }
    rw [hs.current]
    exact ready_ofAcquired hs.published hacquire
  | finished heq =>
    rw [heq] at hphase
    obtain ⟨done, now, world, world', hacquire, hgathers⟩ := hphase
    rw [List.append_nil] at hacquire
    exact { hs with phase := .collected hs.published hacquire hgathers }
  | collected heq hcollect =>
    rw [heq] at hphase
    obtain ⟨done, now, world, world', hacquire, hgathers⟩ := hphase
    rw [List.append_cons] at hacquire
    exact { hs with phase := ⟨_, now, world, world', hacquire, .next hgathers hcollect⟩ }
  | published heq =>
    rw [heq] at hphase
    refine { hs with current := ?_, published := hphase, deliveries := ?_, phase := ?_ }
    · rw [List.getLast?_concat]
      rfl
    · intro result hresult
      obtain ⟨inv, hinv, hdelivers⟩ := hs.deliveries result hresult
      exact ⟨inv, List.mem_append_left _ hinv, hdelivers⟩
    · exact List.mem_append_right _ (.head _)
  | @counted inv isFresh heq =>
    rw [heq] at hphase
    refine { hs with phase := ?_ }
    cases isFresh with
    | true => exact hphase
    | false => trivial
  | kept => exact { hs with phase := trivial }
  | answered heq hdestination hsend =>
    rw [heq] at hphase
    exact { hs with phase := ⟨_, hphase, _, _, _, _, _, _, hdestination, congrArg Prod.fst hsend⟩ }
  | refused heq hdestination hsend =>
    rw [heq] at hphase
    refine { hs with acks := ?_, deliveries := ?_, phase := trivial }
    · rw [latest_append, hs.acks]
      rfl
    · rw [List.forall_mem_append]
      exact ⟨hs.deliveries, List.forall_mem_singleton.2
        ⟨_, hphase, _, _, _, _, _, _, hdestination, congrArg Prod.fst hsend⟩⟩
  | acknowledged heq =>
    rw [heq] at hphase
    refine { hs with acks := ?_, deliveries := ?_, phase := trivial }
    · rw [latest_append]
      rfl
    · rw [List.forall_mem_append]
      exact ⟨hs.deliveries, List.forall_mem_singleton.2 hphase⟩

theorem Sound.step {e : Event σ} {answers : List (Option Response)} (hs : s.Sound o)
    (h : s.step o e = some (answers, s')) : s'.Sound o := by
  cases e with
  | work now salt =>
    obtain ⟨_, hwork, heq⟩ := Option.map_eq_some_iff.1 h
    cases heq
    exact hs.works (works_of_work hwork)
  | elsewhere world manager =>
    cases h
    exact { hs with }
  | request method uri =>
    cases h
    exact hs

theorem run_cons_eq_some {e : Event σ} {events : List (Event σ)}
    {answers : List (Option Response)} :
    s.run o (e :: events) = some (answers, s') ↔ ∃ now s₁ later,
      s.step o e = some (now, s₁) ∧ s₁.run o events = some (later, s') ∧
        answers = now ++ later := by
  simp only [run, Option.bind_eq_some_iff, Option.map_eq_some_iff, Prod.exists, Prod.mk.injEq]
  grind

theorem Sound.run {events : List (Event σ)} {answers : List (Option Response)} (hs : s.Sound o)
    (h : s.run o events = some (answers, s')) : s'.Sound o := by
  induction events generalizing s answers with
  | nil => cases h; exact hs
  | cons e events ih =>
    obtain ⟨_, _, _, hstep, hrun, -⟩ := run_cons_eq_some.1 h
    exact ih (hs.step hstep) hrun

/-- Without any request the collection goes on as it does with them. -/
theorem run_withoutRequests {events : List (Event σ)} {answers : List (Option Response)}
    (h : s.run o events = some (answers, s')) :
    s.run o (events.filter (!·.isRequest)) = some ([], s') := by
  induction events generalizing s answers with
  | nil => cases h; rfl
  | cons e events ih =>
    obtain ⟨_, _, _, hstep, hrun, -⟩ := run_cons_eq_some.1 h
    cases e with
    | request method uri =>
      cases hstep
      exact ih hrun
    | elsewhere world manager =>
      cases hstep
      exact run_cons_eq_some.2 ⟨[], _, [], rfl, ih hrun, rfl⟩
    | work now salt =>
      obtain ⟨_, _, heq⟩ := Option.map_eq_some_iff.1 hstep
      cases heq
      exact run_cons_eq_some.2 ⟨[], _, [], hstep, ih hrun, rfl⟩

/-- A request is answered, and all else goes on as it does without. -/
theorem run_request {events : List (Event σ)} {later : List (Option Response)}
    (h : s.run o events = some (later, s')) (method uri : String) :
    s.run o (.request method uri :: events) = some (s.answer method uri :: later, s') :=
  run_cons_eq_some.2 ⟨[s.answer method uri], s, later, rfl, h, rfl⟩

/-- The histories grow by a publication and by the end of a delivery, and by nothing else. -/
theorem histories_of_work (h : s.work o now salt = some s') :
    (s'.published = s.published ∨ ∃ inv isFresh,
      s.phase = .publishing inv isFresh ∧ s'.published = s.published ++ [inv]) ∧
    (s'.deliveries = s.deliveries ∨
      (∃ inv e, s.phase = .delivering inv ∧ s'.deliveries = s.deliveries ++ [.error e]) ∨
      ∃ metadata, s.phase = .acknowledging metadata ∧
        s'.deliveries = s.deliveries ++ [.ok metadata]) := by
  cases works_of_work h with
  | published heq => exact ⟨.inr ⟨_, _, heq, rfl⟩, .inl rfl⟩
  | refused heq => exact ⟨.inl rfl, .inr (.inl ⟨_, _, heq, rfl⟩)⟩
  | acknowledged heq => exact ⟨.inl rfl, .inr (.inr ⟨_, heq, rfl⟩)⟩
  | _ => exact ⟨.inl rfl, .inl rfl⟩

/-! ## Answers -/

theorem answer_inventory (s : Service σ) {uri : String} (h : uri ∈ ["/", "/api/v1/inventory"]) :
    s.answer "GET" uri = some (.document s.store.current.toJson) := by
  simp only [List.mem_cons, List.not_mem_nil, or_false] at h
  obtain rfl | rfl := h <;> rfl

theorem answer_metadata (s : Service σ) : s.answer "GET" "/api/v1/metadata" =
    some (.document ((s.acks.map DeliveryMetadata.toJson).getD (.obj []))) :=
  rfl

/-! ## Cycles that nothing comes between -/

namespace Proceeds

theorem refl (s : Service σ) : Proceeds o now salt s s := ⟨0, rfl⟩

theorem head (h : s.work o now salt = some s₁) (h' : Proceeds o now salt s₁ s') :
    Proceeds o now salt s s' := by
  obtain ⟨n, hrun⟩ := h'
  refine ⟨n + 1, run_cons_eq_some.2 ⟨[], s₁, [], ?_, hrun, rfl⟩⟩
  rw [step, h]
  rfl

/-- The domains are collected one after the other. -/
theorem collectAll {domains : List (Domain σ)} {inv inv' : Inventory} {world world' : σ}
    (h : Collection.collectAll domains inv world = some (inv', world'))
    (hrest : Proceeds o now salt { s with world := world', phase := .publishing inv' true } s') :
    Proceeds o now salt { s with world, phase := .collecting domains inv } s' := by
  induction domains generalizing inv world with
  | nil =>
    obtain ⟨rfl, rfl⟩ := Collection.Calls.pure_eq_some.1 h
    exact head rfl hrest
  | cons d left ih =>
    obtain ⟨inv₁, world₁, hinto, hleft⟩ := Collection.Calls.bind_eq_some.1 h
    refine head ?_ (ih hleft)
    show (d.collectInto inv world).map _ = _
    rw [hinto]
    rfl

/-- A snapshot is replaced, and counted. -/
theorem publish (s : Service σ) {inv : Inventory} {isFresh : Bool}
    (hrest : Proceeds o now salt { s with
      store := s.store.publish inv, phase := if isFresh then .delivering inv else .resting
      published := s.published ++ [inv] } s') :
    Proceeds o now salt { s with phase := .publishing inv isFresh } s' :=
  head rfl (head rfl hrest)

end Proceeds

/-- The service after a delivery of the snapshot, if there is somebody to take it. -/
def delivered (o : Setup σ) (now : Instant) (salt : List UInt8) (inv : Inventory)
    (s : Service σ) : Service σ :=
  match o.destination with
  | none => { s with phase := .resting }
  | some (collector, endpoint) =>
    let (result, acks, world) := deliver collector endpoint s.manager salt now inv s.acks s.world
    { s with world, acks, phase := .resting, deliveries := s.deliveries ++ [result] }

theorem proceeds_delivered (s : Service σ) (inv : Inventory) :
    Proceeds o now salt { s with phase := .delivering inv } (s.delivered o now salt inv) := by
  unfold delivered
  cases hdestination : o.destination with
  | none => exact .head (by simp only [work, hdestination]) (.refl _)
  | some destination =>
    obtain ⟨collector, endpoint⟩ := destination
    rcases hsend : send collector endpoint s.manager salt now inv s.world with ⟨result, world⟩
    cases result with
    | ok metadata =>
      have hwork : work o now salt { s with phase := .delivering inv } =
          some { s with world, phase := .acknowledging metadata } := by
        simp only [work, hdestination, hsend]
      simp only [deliver, hsend]
      exact .head hwork (.head rfl (.refl _))
    | error e =>
      simp only [deliver, hsend]
      exact .head (by simp only [work, hdestination, hsend]) (.refl _)

/-- The deliveries of the orchestrator are those of the service, and none of them breaks off. -/
theorem exists_deliver_orchestrator (o : Setup σ) (now : Instant) (salt : List UInt8)
    (inv : Inventory) (s : Service σ) : ∃ answer,
      (o.orchestrator s.manager salt now).deliver inv s.world =
        some (.ok answer, (s.delivered o now salt inv).world) := by
  unfold Orchestrator.deliver delivered Setup.orchestrator
  cases o.destination with
  | none => exact ⟨none, rfl⟩
  | some destination =>
    obtain ⟨collector, endpoint⟩ := destination
    rcases hsend : send collector endpoint s.manager salt now inv s.world with ⟨result, world⟩
    refine ⟨some result.isOk, ?_⟩
    simp only [Option.map_some]
    rw [Collection.Calls.bind_of_eq_some (a := handedOn result) (by rw [hsend])]
    cases result with
    | ok metadata => simp only [deliver, hsend]; rfl
    | error e => simp only [deliver, hsend]; rfl

theorem delivered_rests (o : Setup σ) (now : Instant) (salt : List UInt8) (inv : Inventory)
    (s : Service σ) : (s.delivered o now salt inv).phase = .resting ∧
      (s.delivered o now salt inv).store = s.store ∧
      (s.delivered o now salt inv).manager = s.manager := by
  unfold delivered
  split <;> exact ⟨rfl, rfl, rfl⟩

/-- Alone, and from rest, the collection takes the cycle of its orchestrator. -/
theorem proceeds_of_runCycle (hphase : s.phase = .resting)
    {outcome : Except Breakdown CycleOutcome} {store' : SnapshotStore} {world' : σ}
    (h : (o.orchestrator s.manager salt now).runCycle now s.store s.world =
      some ((outcome, store'), world')) :
    ∃ s', Proceeds o now salt s s' ∧ s'.store = store' ∧ s'.world = world' ∧
      s'.manager = s.manager ∧ s'.phase = .ofOutcome outcome := by
  obtain ⟨acquired, world₁, hacquire⟩ := Orchestrator.acquire_of_runCycle h
  have hwork : s.work o now salt = some { s with
      world := world₁
      phase := .ofAcquired o.clientVersion now s.store.current acquired } := by
    simp only [work, hphase, show o.acquire s.world = _ from hacquire, Option.map_some]
  cases acquired with
  | broken b =>
    cases (Orchestrator.runCycle_of_broken hacquire).symm.trans h
    exact ⟨_, .head hwork (.refl _), rfl, rfl, rfl, rfl⟩
  | failed chain =>
    cases (Orchestrator.runCycle_of_failed hacquire).symm.trans h
    exact ⟨_, .head hwork (.publish { s with world := world' } (.refl _)), rfl, rfl, rfl, rfl⟩
  | value domains =>
    obtain ⟨inv, world₂, _, hcollect, hdeliver, rfl, rfl⟩ :=
      (Orchestrator.runCycle_of_value hacquire).1 h
    let s₂ : Service σ := { s with
      world := world₂, store := s.store.publish inv, published := s.published ++ [inv] }
    obtain ⟨answer, hanswer⟩ := exists_deliver_orchestrator o now salt inv s₂
    cases hanswer.symm.trans hdeliver
    obtain ⟨hrests, hstore, hmanager⟩ := delivered_rests o now salt inv s₂
    have hdelivered : Proceeds o now salt { s₂ with phase := .delivering inv } _ :=
      proceeds_delivered s₂ inv
    exact ⟨_, .head hwork (.collectAll hcollect (.publish { s with world := world₂ } hdelivered)),
      hstore, rfl, hmanager, hrests⟩

end Service

open Service in
/-- What is answered after any row of events: steps of the collection, changes of the cluster and of
the identity, and requests, in any order.

* The inventory is answered with the text of the snapshot that was published last, or of the empty
  one. It does not matter what the collection is at, and which domains broke off.
* What is known from deliveries is answered with the text of what the last one that succeeded gave,
  and with an empty object when none has.
* Every snapshot that was published is whole, and every delivery was one of such a snapshot.
* A step of the collection publishes, or ends a delivery, only where it is about to do so.
* A request is answered, and changes neither the answers to later ones nor anything else. Without
  any request at all the service has come to the same.
* Alone, and from rest, the collection takes the cycle of its orchestrator. -/
theorem answers_of_run (o : Setup σ) {world : σ} {manager : Manager} {events : List (Event σ)}
    {answers : List (Option Response)} {s : Service σ}
    (h : run o { world, manager } events = some (answers, s)) :
    (∀ uri ∈ ["/", "/api/v1/inventory"], s.answer "GET" uri = some
      { status := 200, contentType := some "application/json"
        body := (s.published.getLast?.getD {}).toJson.text }) ∧
    s.answer "GET" "/api/v1/metadata" = some
      { status := 200, contentType := some "application/json"
        body := ((latest s.deliveries).map (·.toJson.text)).getD "\x7b\x7d" } ∧
    (o.Publishes s.published ∧
      ∀ result ∈ s.deliveries, ∃ inv ∈ s.published, o.Delivers inv result) ∧
    (∀ now salt s', s.work o now salt = some s' →
      (s'.published = s.published ∨ ∃ inv isFresh,
        s.phase = .publishing inv isFresh ∧ s'.published = s.published ++ [inv]) ∧
      (s'.deliveries = s.deliveries ∨
        (∃ inv e, s.phase = .delivering inv ∧ s'.deliveries = s.deliveries ++ [.error e]) ∨
        ∃ metadata, s.phase = .acknowledging metadata ∧
          s'.deliveries = s.deliveries ++ [.ok metadata])) ∧
    (∀ method uri afterwards later s', s.run o afterwards = some (later, s') →
      s.run o (.request method uri :: afterwards) = some (s.answer method uri :: later, s')) ∧
    run o { world, manager } (events.filter (!·.isRequest)) = some ([], s) ∧
    (∀ now salt outcome store' world', s.phase = .resting →
      (o.orchestrator s.manager salt now).runCycle now s.store s.world =
        some ((outcome, store'), world') →
      ∃ s', Proceeds o now salt s s' ∧ s'.store = store' ∧ s'.world = world' ∧
        s'.manager = s.manager ∧ s'.phase = .ofOutcome outcome) := by
  have hsound : s.Sound o := (Sound.fresh world manager).run h
  refine ⟨fun uri huri => ?_, ?_, ⟨hsound.published, hsound.deliveries⟩,
    fun now salt s' => histories_of_work, fun method uri _ _ _ hrun => run_request hrun method uri,
    run_withoutRequests h, fun now salt _ _ _ hphase => proceeds_of_runCycle hphase⟩
  · rw [answer_inventory s huri, hsound.current]
    rfl
  · rw [answer_metadata, hsound.acks]
    cases latest s.deliveries <;> rfl

/-- A cluster that is reached as long as somebody takes snapshots, with one domain that writes a
record and breaks off. -/
def interrupted : Setup (List Delivery.Receipt) where
  acquire world := some
    (if world.isEmpty then .failed ["no such file"]
      else .value [⟨"namespaces", fun inv =>
        return ({ inv with namespaces := [default] }, .error (.text "boom"))⟩], world)
  clientVersion := "0.1.0"
  destination := some (Delivery.scripted, "")

/-- Two answers of a server, the first an acknowledgment and the second a rejection. -/
def grudging : List Delivery.Receipt :=
  [Delivery.answerOf 200 "\x7b\"cluster\":\x7b\"name\":\"prod\"\x7d\x7d",
    Delivery.answerOf 503 ""]

/-- A request comes in the middle of the second of three cycles. -/
def threeCycles : List (Event (List Delivery.Receipt)) :=
  List.replicate 9 (.work .epoch []) ++ .request "GET" "/" :: List.replicate 5 (.work .epoch [])

/-- The first snapshot is acknowledged, the second one rejected, and the third cycle has just missed
the cluster. What is read is the second snapshot, and the first acknowledgment. -/
theorem answers_of_run_interrupted : ∃ answers s,
    Service.run interrupted { world := grudging, manager := .disabled } threeCycles =
        some (answers, s) ∧
      s.published.map (·.collectionErrors) =
        List.replicate 2 ["namespaces: domain panicked: boom"] ∧
      s.answer "GET" "/" = some
        { status := 200, contentType := some "application/json"
          body := (s.published.getLast?.getD {}).toJson.text } ∧
      s.answer "GET" "/api/v1/metadata" = some
        { status := 200, contentType := some "application/json"
          body := "\x7b\"updated\":\"1970-01-01T00:00:00Z\"," ++
            "\"cluster\":\x7b\"name\":\"prod\"\x7d," ++
            "\"meta_data\":\x7b\"service_level\":\x7b\x7d\x7d\x7d" } := by
  have hview : (Service.run interrupted { world := grudging, manager := .disabled }
      threeCycles).map (fun r => (r.2.published.map (·.collectionErrors), latest r.2.deliveries)) =
        some (List.replicate 2 ["namespaces: domain panicked: boom"],
          some { updated := .epoch, cluster := { name := "prod" }, metaData := {} }) := by
    decide +kernel
  obtain ⟨⟨answers, s⟩, hrun, hview⟩ := Option.map_eq_some_iff.1 hview
  obtain ⟨herrors, hlatest⟩ := Prod.mk.inj hview
  obtain ⟨hinventory, hmetadata, -⟩ := answers_of_run interrupted hrun
  refine ⟨answers, s, hrun, herrors, hinventory "/" (by decide), ?_⟩
  rw [hmetadata, hlatest]
  decide +kernel

end ClusterInventory.ReadApi
