import ClusterInventory.Object.Reader
import ClusterInventory.Object.Schema.Meta

/-! The metadata that every object of a cluster carries. -/

namespace ClusterInventory.Object

structure OwnerReference where
  apiVersion : String := ""
  kind : String := ""
  name : String := ""
  uid : String := ""
  controller : Option Bool := none
  deriving DecidableEq, Repr, Inhabited

structure Meta where
  name : Option String := none
  «namespace» : Option String := none
  labels : Option (StringMap String) := none
  annotations : Option (StringMap String) := none
  creationTimestamp : Option Instant := none
  ownerReferences : Option (List OwnerReference) := none
  deriving DecidableEq, Inhabited

def OwnerReference.ofJson (j : Json) : OwnerReference :=
  { apiVersion := text j "apiVersion", kind := text j "kind", name := text j "name"
    uid := text j "uid", controller := bool? j "controller" }

namespace Meta

def ofJson (j : Json) : Meta :=
  { name := text? j "name", «namespace» := text? j "namespace", labels := textMap? j "labels"
    annotations := textMap? j "annotations", creationTimestamp := instant? j "creationTimestamp"
    ownerReferences := parts? j "ownerReferences" OwnerReference.ofJson }

def reader : Reader Meta := Schema.objectMeta.reader ofJson

/-- The controlling owner: the first one that is named as such. -/
def controller? (m : Meta) : Option OwnerReference :=
  (m.ownerReferences.getD []).find? fun o => o.controller == some true

def label? (m : Meta) (key : String) : Option String := m.labels.bind (·.find? key)

/-- The name, empty when there is none. -/
def shownName (m : Meta) : String := m.name.getD ""

/-- The metadata of an object, empty when it has none. -/
def ofObject (j : Json) : Meta := (part? j "metadata" ofJson).getD {}

end Meta

/-- An object of a type that need not be known. All but its metadata is kept as it is. -/
structure Dynamic where
  objectMeta : Meta
  data : Json
  deriving Inhabited

/-- Reads any object. Its metadata may be missing, but neither null nor repeated. -/
def Dynamic.reader : Reader Dynamic := fun room j =>
  match j with
  | .obj members => do
    let objectMeta ← match Fields.unique? "metadata" members with
      | none => throw (.repeated "metadata")
      | some none => pure {}
      | some (some m) => Meta.reader (room - 1) m
    let data := Json.obj (members.filter fun m => m.1 != "metadata")
    Schema.kept.check room data
    return { objectMeta, data := data.sorted }
  | j => throw (.wrongType (describe j) "DynamicObject")

end ClusterInventory.Object
