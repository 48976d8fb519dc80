import ClusterInventory.Json.Document
import ClusterInventory.Record.Meta
import ClusterInventory.Text.Lowercase

/-! Workload records and their identity: group, version and kind with namespace and name. The
unnamed API group is recorded as `core`. -/

namespace ClusterInventory.Record

/-- The name under which the unnamed API group is recorded. -/
def coreGroup : String := "core"

def recordedGroup (group : String) : String := if group.isEmpty then coreGroup else group

structure TypeMeta where
  kind : String
  apiGroup : String
  apiVersion : String
  /-- The kind in lower case. -/
  resourceType : String
  deriving DecidableEq, Repr

namespace TypeMeta

def ofKind (group version kind : String) : TypeMeta :=
  { kind, apiGroup := recordedGroup group, apiVersion := version
    resourceType := Text.toLower kind }

def members (t : TypeMeta) : List (String × Json) :=
  [("kind", .str t.kind), ("api_group", .str t.apiGroup), ("api_version", .str t.apiVersion),
    ("resource_type", .str t.resourceType)]

def toJson (t : TypeMeta) : Json := .obj t.members

def fields : Fields TypeMeta := do
  let kind ← Fields.required "kind" Decoder.string
  let apiGroup ← Fields.required "api_group" Decoder.string
  let apiVersion ← Fields.required "api_version" Decoder.string
  let resourceType ← Fields.required "resource_type" Decoder.string
  return { kind, apiGroup, apiVersion, resourceType }

end TypeMeta

structure WorkloadId where
  group : String
  version : String
  kind : String
  «namespace» : Option String
  name : String
  deriving DecidableEq, Hashable, Repr

namespace WorkloadId

/-- The written form, such as `apps/v1/Deployment shop/web`. -/
def text (i : WorkloadId) : String :=
  match i.namespace with
  | some ns => s!"{i.group}/{i.version}/{i.kind} {ns}/{i.name}"
  | none => s!"{i.group}/{i.version}/{i.kind} {i.name}"

/-- No namespace comes before any. -/
def compareNamespaces : Option String → Option String → Ordering
  | none, none => .eq
  | none, some _ => .lt
  | some _, none => .gt
  | some a, some b => Ord.compare a b

/-- Identities are ordered by group, version, kind, namespace and name. -/
def compare (a b : WorkloadId) : Ordering :=
  (Ord.compare a.group b.group).then <|
    (Ord.compare a.version b.version).then <|
      (Ord.compare a.kind b.kind).then <|
        (compareNamespaces a.namespace b.namespace).then (Ord.compare a.name b.name)

instance : Ord WorkloadId := ⟨compare⟩

end WorkloadId

/-- The last owner of a chain of owners. -/
structure RootOwner where
  kind : String
  apiGroup : String
  apiVersion : String
  name : String
  «namespace» : Option String
  deriving DecidableEq, Repr

namespace RootOwner

/-- The identity of the workload that the owner is. -/
def id (r : RootOwner) : WorkloadId :=
  { group := recordedGroup r.apiGroup, version := r.apiVersion, kind := r.kind,
    «namespace» := r.namespace, name := r.name }

def toJson (r : RootOwner) : Json :=
  .obj <| [("kind", .str r.kind), ("api_group", .str r.apiGroup),
    ("api_version", .str r.apiVersion), ("name", .str r.name)] ++
    Json.memberOf "namespace" .str r.namespace

def fields : Fields RootOwner := do
  let kind ← Fields.required "kind" Decoder.string
  let apiGroup ← Fields.required "api_group" Decoder.string
  let apiVersion ← Fields.required "api_version" Decoder.string
  let name ← Fields.required "name" Decoder.string
  let «namespace» ← Fields.optional "namespace" Decoder.string
  return { kind, apiGroup, apiVersion, name, «namespace» }

def decoder : Decoder RootOwner := Decoder.record fields

end RootOwner

/-- A workload. What its specification and its status hold depends on the kind. -/
structure Workload where
  typeMeta : TypeMeta
  objectMeta : ObjectMeta
  spec : Document
  status : Document
  rootOwner : Option RootOwner

namespace Workload

/-- The record of an owner that no listing holds: its metadata, with nothing specified. -/
def placeholder (typeMeta : TypeMeta) (objectMeta : ObjectMeta) : Workload :=
  { typeMeta, objectMeta, spec := .emptyObject, status := .emptyObject, rootOwner := none }

def id (w : Workload) : WorkloadId :=
  { group := w.typeMeta.apiGroup, version := w.typeMeta.apiVersion, kind := w.typeMeta.kind,
    «namespace» := w.objectMeta.namespace, name := w.objectMeta.name }

def toJson (w : Workload) : Json :=
  .obj <| w.typeMeta.members ++ w.objectMeta.members ++
    [("spec", w.spec.json), ("status", w.status.json)] ++
    Json.memberOf "root_owner" RootOwner.toJson w.rootOwner

def fields : Fields Workload := do
  let typeMeta ← TypeMeta.fields
  let objectMeta ← ObjectMeta.fields
  let spec ← Fields.withDefault "spec" .null Document.ofJson?
  let status ← Fields.withDefault "status" .null Document.ofJson?
  let rootOwner ← Fields.optional "root_owner" RootOwner.decoder
  return { typeMeta, objectMeta, spec, status, rootOwner }

def decoder : Decoder Workload := Decoder.objectRecord fields

end Workload

end ClusterInventory.Record
