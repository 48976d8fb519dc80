import ClusterInventory.Text.Split

/-! Kinds of objects that an API serves, and the addresses by which objects name each other. -/

namespace ClusterInventory.Api

/-- Group and version in a text such as `apps/v1`; a bare version belongs to the unnamed group. -/
def splitApiVersion (apiVersion : String) : String × String :=
  (Text.splitOnce apiVersion "/").getD ("", apiVersion)

/-- Group and version as one text; the unnamed group is left out. -/
def joinApiVersion (group version : String) : String :=
  if group.isEmpty then version else group ++ "/" ++ version

structure Resource where
  group : String
  version : String
  apiVersion : String
  kind : String
  plural : String
  deriving DecidableEq, Repr

/-- A kind that is served, and whether its objects belong to namespaces. -/
structure Served where
  resource : Resource
  namespaced : Bool
  deriving DecidableEq, Repr

/-- The address of an object, as an owner reference gives it. -/
structure ObjectRef where
  apiVersion : String
  kind : String
  «namespace» : Option String
  name : String
  deriving DecidableEq, Hashable, Repr

namespace ObjectRef

/-- The written form, such as `apps/v1/ReplicaSet shop/web-1`. -/
def text (r : ObjectRef) : String :=
  match r.namespace with
  | some ns => s!"{r.apiVersion}/{r.kind} {ns}/{r.name}"
  | none => s!"{r.apiVersion}/{r.kind} {r.name}"

end ObjectRef

end ClusterInventory.Api
