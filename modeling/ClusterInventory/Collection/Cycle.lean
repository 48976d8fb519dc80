import ClusterInventory.Api.Component
import ClusterInventory.Collection.Domain
import ClusterInventory.Mapping.Cluster
import ClusterInventory.SnapshotStore

/-! Collection cycles. A cycle takes hold of the cluster, collects every domain into a fresh
snapshot, publishes that and hands it on. Where the cluster cannot be reached, the snapshot from
before is published again as a failed one, and nothing is handed on. -/

namespace ClusterInventory.Collection

open Api (Calls Component)

inductive CycleOutcome where
  /-- The cluster could not be reached. -/
  | acquireFailed (message : String)
  /-- A fresh snapshot was published; `delivered` is empty when nobody takes it. -/
  | collected (succeeded : Bool) (errors : Nat) (delivered : Option Bool)
  deriving DecidableEq, Repr

/-- What takes cycles: a source of domains, perhaps somebody who takes the snapshots, and the name
under which the snapshots are made. -/
structure Orchestrator (σ : Type) where
  acquire : Calls σ (Attempt (List (Domain σ)))
  publisher : Option (Inventory → Calls σ (Attempt Unit)) := none
  clientVersion : String

variable {σ ω : Type}

/-- The same domain in a world of which it only knows a component. -/
def Domain.lift (c : Component ω σ) (d : Domain σ) : Domain ω where
  name := d.name
  collect inv := c.lift (d.collect inv)

/-- The errors of a domain. One that broke off has a single one. -/
def Domain.errorsOf (name : String) :
    Except Breakdown (List CollectError) → List CollectError
  | .ok errors => errors
  | .error b => [.ofDomain name s!"domain panicked: {b.message}"]

/-- Collects a domain into a snapshot and records its errors there. What a domain wrote before it
broke off stays. -/
def Domain.collectInto (d : Domain σ) (inv : Inventory) : Calls σ Inventory := do
  let (inv, outcome) ← d.collect inv
  return (Domain.errorsOf d.name outcome).foldl (fun inv e => inv.recordError e.text) inv

/-- Collects domains, one after the other. -/
def collectAll : List (Domain σ) → Inventory → Calls σ Inventory
  | [], inv => return inv
  | d :: rest, inv => do collectAll rest (← d.collectInto inv)

/-- Publishes a snapshot in the store of a world. -/
def publishIn (store : Component ω SnapshotStore) (inv : Inventory) : Calls ω Unit :=
  modify fun w => store.set w ((store.get w).publish inv)

/-- The snapshot that says why the cluster could not be reached. Its records are those from
before. -/
def failedSnapshot (clientVersion message : String) (before : Inventory) : Inventory :=
  { before with clientVersion, collectionErrors := [] }.recordError
    (CollectError.ofDomain Record.Cluster.domainName
      s!"acquiring cluster handle: {message}").text

/-- The domains that were taken hold of, in a world of which they only know a component. -/
def liftDomains (c : Component ω σ) : Attempt (List (Domain σ)) → Attempt (List (Domain ω)) :=
  (·.bind fun domains => .value (domains.map (Domain.lift c)))

namespace Orchestrator

/-- Hands a snapshot on, if somebody takes it. -/
def deliver (o : Orchestrator σ) (inv : Inventory) : Calls σ (Except Breakdown (Option Bool)) :=
  match o.publisher with
  | none => return .ok none
  | some publish => do
    match ← publish inv with
    | .value () => return .ok (some true)
    | .failed _ => return .ok (some false)
    | .broken b => return .error b

/-- Takes a cycle that collects at the moment `now`, in a world with a store in it. Taking hold of
the cluster and handing the snapshot on may break the cycle off; no domain can. -/
def cycle (o : Orchestrator ω) (store : Component ω SnapshotStore) (now : Instant) :
    Calls ω (Except Breakdown CycleOutcome) := do
  match ← o.acquire with
  | .broken b => return .error b
  | .failed chain =>
    let message := causeText chain
    let before := (store.get (← get)).current
    publishIn store (failedSnapshot o.clientVersion message before)
    return .ok (.acquireFailed message)
  | .value domains =>
    let inv ← collectAll domains (.start o.clientVersion now)
    publishIn store inv
    let delivered ← o.deliver inv
    return delivered.map fun delivered =>
      .collected inv.collectionSucceeded inv.collectionErrors.length delivered

/-- The same orchestrator in a world of which it only knows a component. -/
def lift (c : Component ω σ) (o : Orchestrator σ) : Orchestrator ω where
  acquire := do return liftDomains c (← c.lift o.acquire)
  publisher := o.publisher.map fun publish inv => c.lift (publish inv)
  clientVersion := o.clientVersion

/-- Takes a cycle with a store beside the world. -/
def runCycle (o : Orchestrator σ) (now : Instant) (store : SnapshotStore) :
    Calls σ (Except Breakdown CycleOutcome × SnapshotStore) := fun world => do
  let (outcome, world, store) ← (o.lift .fst).cycle .snd now (world, store)
  return ((outcome, store), world)

/-- Takes a cycle at each of the given moments; ends with one that breaks off. -/
def runCycles (o : Orchestrator σ) :
    List Instant → SnapshotStore → Calls σ (List (Except Breakdown CycleOutcome) × SnapshotStore)
  | [], store => return ([], store)
  | now :: rest, store => do
    match ← o.runCycle now store with
    | (.error b, store) => return ([.error b], store)
    | (.ok outcome, store) =>
      let (outcomes, store) ← o.runCycles rest store
      return (.ok outcome :: outcomes, store)

end Orchestrator

/-- The number of cycles that have begun when so much time has passed: the first begins at once,
and each other one an interval after the one before. Cycles themselves take no time here. -/
def cyclesBegun (interval elapsed : Duration) : Nat :=
  elapsed.nanoseconds / interval.nanoseconds + 1

end ClusterInventory.Collection
