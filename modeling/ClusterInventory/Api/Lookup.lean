import ClusterInventory.Api.Catalog
import ClusterInventory.Api.Listing

/-! Looking up single objects by their addresses. -/

namespace ClusterInventory.Api

namespace Resource

/-- The path under which objects of a kind stand, in one namespace or in all. -/
def path (r : Resource) («namespace» : Option String) : String :=
  (if r.group.isEmpty then "/api/" else "/apis/") ++ r.apiVersion ++ "/" ++
    (match «namespace» with | some ns => "namespaces/" ++ ns ++ "/" | none => "") ++ r.plural

def listing (r : Resource) : Listing Object.Dynamic :=
  { target := r.path none, item := Object.Dynamic.reader }

end Resource

/-- An API error by which an object counts as absent. -/
def CallError.saysNotFound : CallError → Bool
  | .status e => e.reason == "NotFound"
  | _ => false

namespace Connection

variable {σ : Type}

/-- Gets the object at a target; nothing when it is not there. -/
def get? (c : Connection σ) (target : String) (world : σ) :
    Except CallError (Option Object.Dynamic) × σ :=
  match Request.ofTarget target with
  | .error fault => (.error (.unbuilt fault), world)
  | .ok r =>
    match c.call r Object.Dynamic.reader.decoder world with
    | (.ok found, world) => (.ok (some found), world)
    | (.error e, world) =>
      if e.saysNotFound || e.isNotFound then (.ok none, world) else (.error e, world)

/-- Looks an object up by its address. Objects of kinds that are not served are not asked for;
they are absent. -/
def lookup (c : Connection σ) (catalog : Catalog) (r : ObjectRef) (world : σ) :
    Except CallError (Option Object.Dynamic) × σ :=
  match catalog.find? r.apiVersion r.kind with
  | none => (.ok none, world)
  | some served =>
    let «namespace» := if served.namespaced then r.namespace else none
    c.get? (served.resource.path «namespace» ++ "/" ++ r.name) world

end Connection

end ClusterInventory.Api
