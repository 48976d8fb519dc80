import ClusterInventory.Json.Decoder
import ClusterInventory.Json.Encoder

/-! What every record says about the object it stands for: its name, labels and owners. -/

namespace ClusterInventory.Record

structure OwnerRef where
  apiVersion : String
  kind : String
  name : String
  /-- The owner controls the object. -/
  controller : Bool
  deriving DecidableEq, Repr

namespace OwnerRef

def toJson (o : OwnerRef) : Json :=
  .obj [("api_version", .str o.apiVersion), ("kind", .str o.kind), ("name", .str o.name),
    ("controller", .bool o.controller)]

def fields : Fields OwnerRef := do
  let apiVersion ← Fields.required "api_version" Decoder.string
  let kind ← Fields.required "kind" Decoder.string
  let name ← Fields.required "name" Decoder.string
  let controller ← Fields.withDefault "controller" false Decoder.bool
  return { apiVersion, kind, name, controller }

def decoder : Decoder OwnerRef := Decoder.record fields

end OwnerRef

/-- Common metadata of a record. Its members stand directly among those of the record. -/
structure ObjectMeta where
  name : String
  «namespace» : Option String
  labels : StringMap String
  annotations : StringMap String
  creationTimestamp : Option Instant
  ownerReferences : List OwnerRef
  deriving DecidableEq

namespace ObjectMeta

instance : Inhabited ObjectMeta := ⟨⟨"", none, .empty, .empty, none, []⟩⟩

def members (m : ObjectMeta) : List (String × Json) :=
  [("name", .str m.name)] ++
    Json.memberOf "namespace" .str m.namespace ++
    Json.memberIf (!m.labels.isEmpty) "labels" (Json.stringMap m.labels) ++
    Json.memberIf (!m.annotations.isEmpty) "annotations" (Json.stringMap m.annotations) ++
    Json.memberOf "creation_timestamp" Json.instant m.creationTimestamp ++
    Json.memberIf (!m.ownerReferences.isEmpty) "owner_references"
      (.arr (m.ownerReferences.map OwnerRef.toJson))

def toJson (m : ObjectMeta) : Json := .obj m.members

def fields : Fields ObjectMeta := do
  let name ← Fields.required "name" Decoder.string
  let «namespace» ← Fields.optional "namespace" Decoder.string
  let labels ← Fields.map "labels" Decoder.string
  let annotations ← Fields.map "annotations" Decoder.string
  let creationTimestamp ← Fields.optional "creation_timestamp" Decoder.instant
  let ownerReferences ← Fields.list "owner_references" OwnerRef.decoder
  return { name, «namespace», labels, annotations, creationTimestamp, ownerReferences }

end ObjectMeta

end ClusterInventory.Record
