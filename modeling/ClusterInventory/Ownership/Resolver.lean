import ClusterInventory.Api.Error
import ClusterInventory.Api.Resource
import ClusterInventory.Mapping.Meta
import ClusterInventory.Record.Workload
import Std.Data.HashMap

/-! Finding the root owner of an object: the walk from owner to controlling owner up to the one
that has none. A session remembers every object that was found or found missing, so that objects
with common owners share their look-ups; failures are not remembered. The walk stops at an owner
that it has met before, and after a number of steps. -/

namespace ClusterInventory.Ownership

open Api (ObjectRef CallError)

/-- A way to look up single objects, which may answer differently from call to call. No object
means that it is absent. -/
abbrev Fetcher (σ : Type) := ObjectRef → σ → Except CallError (Option Object.Dynamic) × σ

def maxHops : Nat := 32

/-- Why a walk came to no end. -/
inductive ResolveError where
  | fetch (owner : ObjectRef) (cause : CallError)
  | cycle (owner : ObjectRef)
  | tooLong
  deriving DecidableEq, Repr

namespace ResolveError

def message : ResolveError → String
  | .fetch owner cause => s!"getting owner {owner.text}: {cause.message}"
  | .cycle owner => s!"owner reference cycle at {owner.text}"
  | .tooLong => s!"owner chain exceeds {maxHops} hops"

end ResolveError

/-- A root owner, and the record that stands for it where no listing holds it. -/
structure Resolution where
  root : Record.RootOwner
  placeholder : Record.Workload

namespace Resolution

/-- The resolution at an object that has no controlling owner. Kind, group and version are those
by which it was referred to, all else is its own. -/
def ofRoot (r : ObjectRef) (m : Object.Meta) : Resolution :=
  let (group, version) := Api.splitApiVersion r.apiVersion
  let objectMeta := Record.ObjectMeta.ofObject m
  let typeMeta := Record.TypeMeta.ofKind group version r.kind
  { root :=
      { kind := r.kind, apiGroup := typeMeta.apiGroup, apiVersion := version
        name := objectMeta.name, «namespace» := objectMeta.namespace }
    placeholder := .placeholder typeMeta objectMeta }

end Resolution

/-- What a session remembers, and the world that it looks objects up in. -/
structure Session (σ : Type) where
  cache : Std.HashMap ObjectRef (Option Object.Dynamic)
  world : σ

variable {σ : Type}

namespace Session

/-- A session that remembers nothing. -/
def start (world : σ) : Session σ := ⟨∅, world⟩

/-- Looks an object up, unless it is remembered. -/
def lookup (fetch : Fetcher σ) (r : ObjectRef) (s : Session σ) :
    Except CallError (Option Object.Dynamic) × Session σ :=
  match s.cache[r]? with
  | some hit => (.ok hit, s)
  | none =>
    match fetch r s.world with
    | (.ok found, world) => (.ok found, { cache := s.cache.insert r found, world })
    | (.error e, world) => (.error e, { s with world })

end Session

/-- The address of an owner. Owners are looked for in the namespace that the walk started in. -/
def refOf («namespace» : Option String) (o : Object.OwnerReference) : ObjectRef :=
  { apiVersion := o.apiVersion, kind := o.kind, «namespace», name := o.name }

/-- Walks on to the owner `next`, after those in `visited`. -/
def walk (fetch : Fetcher σ) («namespace» : Option String) (visited : List ObjectRef)
    (next : ObjectRef) (s : Session σ) :
    Except ResolveError (Option Resolution) × Session σ :=
  if next ∈ visited then (.error (.cycle next), s)
  else if visited.length ≥ maxHops then (.error .tooLong, s)
  else
    match s.lookup fetch next with
    | (.error e, s) => (.error (.fetch next e), s)
    | (.ok none, s) => (.ok none, s)
    | (.ok (some found), s) =>
      match found.objectMeta.controller? with
      | some parent => walk fetch «namespace» (next :: visited) (refOf «namespace» parent) s
      | none => (.ok (some (.ofRoot next found.objectMeta)), s)
termination_by maxHops - visited.length

/-- The root owner of an object with this metadata. There is none when nothing controls the
object, or when some owner on the way is gone. -/
def resolve (fetch : Fetcher σ) (m : Object.Meta) (s : Session σ) :
    Except ResolveError (Option Resolution) × Session σ :=
  match m.controller? with
  | none => (.ok none, s)
  | some first => walk fetch m.namespace [] (refOf m.namespace first) s

end ClusterInventory.Ownership
