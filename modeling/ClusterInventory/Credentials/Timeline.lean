import ClusterInventory.Credentials.Manager

/-! Managers as time passes. Several loops may look after one manager, each with a wait of its own;
what one of them loads, the others find. -/

namespace ClusterInventory.Credentials

/-- A manager and, for each loop that looks after it, the time until that renews the identity
again. A loop without one has come to its end. -/
structure Watched where
  manager : Manager
  waits : List (Option Duration) := []
  deriving DecidableEq

namespace Watched

def watch (w : Watched) : Watched :=
  { w with waits := w.waits ++ [(Supervision.start w.manager).wait] }

def isOver (w : Watched) (loop : Nat) : Bool := (w.waits.getD loop none).isNone

/-- The loop that is next, and its wait. -/
def next? (w : Watched) : Option (Nat × Duration) :=
  ((w.waits.filterMap id).map (·.nanoseconds)).min?.map fun n =>
    (w.waits.idxOf (some ⟨n⟩), ⟨n⟩)

/-- Time passes in which nothing happens. -/
def rest (w : Watched) (span : Duration) : Watched :=
  { w with waits := w.waits.map fun wait => wait.map fun d =>
      ⟨d.nanoseconds - span.nanoseconds⟩ }

def wake (files : Files) (now : Instant) (w : Watched) (loop : Nat) : Watched :=
  let s := Supervision.wake files now ⟨w.manager, some ⟨0⟩⟩
  ⟨s.manager, w.waits.set loop s.wait⟩

/-- Time passes, given how much has passed before and a bound on the number of renewals. -/
def passFrom (files : Files) (clock : Duration → Instant) :
    Nat → Duration → Duration → Watched → Watched
  | 0, _, span, w => w.rest span
  | fuel + 1, elapsed, span, w =>
    match w.next? with
    | none => w
    | some (loop, wait) =>
      if span.nanoseconds < wait.nanoseconds then w.rest span
      else
        let elapsed : Duration := ⟨elapsed.nanoseconds + wait.nanoseconds⟩
        passFrom files clock fuel elapsed ⟨span.nanoseconds - wait.nanoseconds⟩
          ((w.rest wait).wake files (clock elapsed) loop)

/-- Time passes while the files stay as they are. The clock shows the moment after so much of it.
Waits are not empty after a renewal, which bounds the number of renewals. -/
def pass (files : Files) (clock : Duration → Instant) (span : Duration) (w : Watched) : Watched :=
  passFrom files clock ((span.nanoseconds + 1) * (w.waits.length + 1)) ⟨0⟩ span w

end Watched

end ClusterInventory.Credentials
