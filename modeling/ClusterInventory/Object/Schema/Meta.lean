import ClusterInventory.Object.Schema

/-! The types that objects of every kind share: their metadata, references between them, and the
selection of some of them by labels. -/

namespace ClusterInventory.Object.Schema

def ownerReference : Schema :=
  record "OwnerReference" (texts ["apiVersion", "kind", "name", "uid"] ++
    bools ["blockOwnerDeletion", "controller"])

def managedFieldsEntry : Schema :=
  record "ManagedFieldsEntry"
    (texts ["apiVersion", "fieldsType", "manager", "operation", "subresource"] ++
      [("fieldsV1", kept), ("time", instant)])

def objectMeta : Schema :=
  record "ObjectMeta" (texts ["generateName", "name", "namespace", "resourceVersion", "selfLink",
      "uid"] ++ textMaps ["annotations", "labels"] ++
    instants ["creationTimestamp", "deletionTimestamp"] ++
    int64s ["deletionGracePeriodSeconds", "generation"] ++ textLists ["finalizers"] ++
    [("managedFields", list managedFieldsEntry), ("ownerReferences", list ownerReference)])

def listMeta : Schema :=
  record "ListMeta" (texts ["continue", "resourceVersion", "selfLink"] ++
    int64s ["remainingItemCount"])

/-- An object of a kind, with these fields beside its metadata. -/
def object (apiVersion kind : String) (fields : List (String × Schema)) : Schema :=
  record kind ([("apiVersion", name apiVersion), ("kind", name kind), ("metadata", objectMeta)] ++
    fields)

def objectReference : Schema :=
  record "ObjectReference" (texts ["apiVersion", "fieldPath", "kind", "name", "namespace",
    "resourceVersion", "uid"])

def secretReference : Schema := record "SecretReference" (texts ["name", "namespace"])

/-- A reference to an object in the namespace of the one that holds it. -/
def localObjectReference : Schema := record "LocalObjectReference" (texts ["name"])

def labelSelector : Schema :=
  record "LabelSelector" ([("matchExpressions", list (record "LabelSelectorRequirement"
      (texts ["key", "operator"] ++ textLists ["values"])))] ++ textMaps ["matchLabels"])

def intOrTexts : List String → List (String × Schema) := each intOrText

/-- A condition in the state of an object: its type of condition, and the moments that it has
beside that of its last change. -/
def condition (type : String) (moments : List String) : Schema :=
  record type (texts ["message", "reason", "status", "type"] ++
    instants ("lastTransitionTime" :: moments))

end ClusterInventory.Object.Schema
