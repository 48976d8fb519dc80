import ClusterInventory.Api.Recording
import ClusterInventory.Collection.Cycle
import ClusterInventory.Collection.Live
import ClusterInventory.Settings.Basic

/-! Collections from recordings. -/

namespace ClusterInventory.Collection

/-- The number of pages at which a recorded listing counts as endless: more than there are
recorded answers. -/
def recordedPages (r : Api.Recording) : Nat := r.answers.length + 1

def recordedOrchestrator (s : Settings) (clientVersion : String) (r : Api.Recording) :
    Orchestrator Unit :=
  let options := s.connectionOptions
  { acquire := acquireLive (.ok
      { server := r.server, timeout := options.readTimeout, asUser := options.asUser })
      (recordedPages r)
    clientVersion }

/-- The snapshot that one cycle over a recording publishes, unless a listing does not end. -/
def recordedInventory? (s : Settings) (clientVersion : String) (r : Api.Recording) :
    Option Inventory := do
  let ((_, store), _) ← (recordedOrchestrator s clientVersion r).runCycle r.moment {} ()
  return store.current

end ClusterInventory.Collection
