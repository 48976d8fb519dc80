import ClusterInventory.Api.Discovery
import ClusterInventory.Api.Lookup

/-! A cluster that can be asked for its objects: a connection to its API, together with the catalog
of what that serves. -/

namespace ClusterInventory.Api

/-- Work that makes calls in a world. There is no outcome when a listing does not end. -/
abbrev Calls (σ : Type) := StateT σ Option

structure Handle (σ : Type) extends Connection σ where
  catalog : Catalog
  /-- The number of pages at which a listing counts as endless. -/
  pages : Nat

namespace Handle

variable {σ α : Type}

/-- Discovers what a server has, which makes a handle of a connection. -/
def acquire (c : Connection σ) (pages : Nat) (world : σ) : Except CallError (Handle σ) × σ :=
  let (catalog, world) := c.discover.run world
  (catalog.map fun catalog => { c with catalog, pages }, world)

/-- All objects of a listing, none if it is not there. -/
def list (h : Handle σ) (l : Listing α) : Calls σ (Except CallError (List α)) :=
  l.allOrEmpty h.toConnection h.pages

/-- A call whose answer is not a listing. -/
def once (h : Handle σ) (f : Connection σ → σ → Except CallError α × σ) :
    Calls σ (Except CallError α) :=
  fun world => some (f h.toConnection world)

/-- The listing of a kind, if that is served. -/
def listing? (h : Handle σ) (apiVersion kind : String) : Option (Listing Object.Dynamic) :=
  (h.catalog.find? apiVersion kind).map (·.resource.listing)

/-- All objects of a kind, none if it is not served. -/
def listKind (h : Handle σ) (apiVersion kind : String) :
    Calls σ (Except CallError (List Object.Dynamic)) :=
  match h.listing? apiVersion kind with
  | some l => h.list l
  | none => pure (.ok [])

def lookup (h : Handle σ) (r : ObjectRef) (world : σ) :
    Except CallError (Option Object.Dynamic) × σ :=
  h.toConnection.lookup h.catalog r world

end Handle

end ClusterInventory.Api
