import ClusterInventory.Inventory
import ClusterInventory.Mapping.CustomResources
import ClusterInventory.Mapping.Node
import ClusterInventory.Mapping.Storage
import ClusterInventory.Proofs.Workloads.Sources

/-!
# What records take over from their objects

`ObjectMeta.Keeps` says that a record has the labels and annotations of its object, with their
values, but not the annotation that `kubectl apply` leaves there. So it is with every record that a
mapper makes (`Namespace.keeps_of_ofObject`, and so on). `TypeMeta.Names` says how a workload tells
of its group and its kind.
-/

namespace ClusterInventory

namespace StringMap

variable {α : Type}

theorem find?_erase_self (m : StringMap α) (key : String) : (m.erase key).find? key = none := by
  simp [find?, erase, List.find?_filter]

theorem find?_erase_of_ne (m : StringMap α) {key key' : String} (h : key' ≠ key) :
    (m.erase key).find? key' = m.find? key' := by
  simp only [find?, erase, List.find?_filter]
  congr 2
  funext e
  by_cases he : e.1 = key' <;> simp [he, h]

end StringMap

def Object.Meta.annotation? (m : Object.Meta) (key : String) : Option String :=
  m.annotations.bind (·.find? key)

namespace Record

/-! ## Metadata -/

/-- The record's metadata is that of the object, but for one annotation. -/
structure ObjectMeta.Keeps (r : ObjectMeta) (m : Object.Meta) : Prop where
  name : r.name = m.shownName
  «namespace» : r.namespace = m.namespace
  labels : ∀ key, r.labels.find? key = m.label? key
  annotations : ∀ key, key ≠ lastAppliedAnnotation → r.annotations.find? key = m.annotation? key
  lastApplied : r.annotations.find? lastAppliedAnnotation = none

theorem ObjectMeta.Keeps.ofObject (m : Object.Meta) : (ObjectMeta.ofObject m).Keeps m where
  name := rfl
  «namespace» := rfl
  labels key := by
    cases h : m.labels <;>
      simp [ObjectMeta.ofObject, Object.Meta.label?, h, StringMap.find?, StringMap.empty]
  annotations key hkey := by
    rw [ObjectMeta.ofObject, StringMap.find?_erase_of_ne _ hkey]
    cases h : m.annotations <;>
      simp [Object.Meta.annotation?, h, StringMap.find?, StringMap.empty]
  lastApplied := StringMap.find?_erase_self ..

theorem Namespace.keeps_of_ofObject {o : Object.Namespace} {r : Record.Namespace}
    (h : ofObject o = .value r) : r.objectMeta.Keeps o.objectMeta := by
  cases h
  exact .ofObject o.objectMeta

theorem Node.keeps_of_ofObject {o : Object.Node} {r : Record.Node}
    (h : ofObject o = .value r) : r.objectMeta.Keeps o.objectMeta := by
  obtain ⟨_, _, h⟩ := Attempt.bind_eq_value.1 h
  obtain ⟨_, _, h⟩ := Attempt.bind_eq_value.1 h
  obtain ⟨_, _, h⟩ := Attempt.bind_eq_value.1 h
  obtain ⟨_, _, ⟨⟩⟩ := Attempt.bind_eq_value.1 h
  exact .ofObject o.objectMeta

/-- The record of a volume leaves the owners out, and nothing else. -/
theorem PersistentVolume.keeps_of_ofObject {o : Object.PersistentVolume}
    {r : Record.PersistentVolume} (h : ofObject o = .value r) :
    r.objectMeta.Keeps o.objectMeta := by
  obtain ⟨_, _, ⟨⟩⟩ := Attempt.bind_eq_value.1 h
  exact { ObjectMeta.Keeps.ofObject o.objectMeta with }

theorem StorageClass.keeps_of_ofObject {o : Object.StorageClass} {r : Record.StorageClass}
    (h : ofObject o = .value r) : r.objectMeta.Keeps o.objectMeta := by
  cases h
  exact .ofObject o.objectMeta

theorem NetworkPolicy.keeps_of_ofObject {o : Object.NetworkPolicy} {r : Record.NetworkPolicy}
    (h : ofObject o = .value r) : r.objectMeta.Keeps o.objectMeta := by
  cases h
  exact .ofObject o.objectMeta

theorem DbInstance.keeps_of_ofObject {o : Object.Dynamic} {r : Record.DbInstance}
    (h : ofObject o = .value r) : r.objectMeta.Keeps o.objectMeta := by
  cases h
  exact .ofObject o.objectMeta

theorem RabbitMqCluster.keeps_of_ofObject {o : Object.Dynamic} {r : Record.RabbitMqCluster}
    (h : ofObject o = .value r) : r.objectMeta.Keeps o.objectMeta := by
  cases h
  exact .ofObject o.objectMeta

/-! ## Groups and kinds -/

/-- A group is told by its name, the unnamed one as `core`. -/
def GroupNamed (recorded group : String) : Prop := recorded = if group = "" then "core" else group

theorem groupNamed_recordedGroup (group : String) : GroupNamed (recordedGroup group) group := by
  by_cases h : group = ""
  · subst h
    rfl
  · have hne : group.isEmpty = false := by simpa using h
    simp [GroupNamed, recordedGroup, h, hne]

theorem GroupNamed.ne_empty {recorded group : String} (h : GroupNamed recorded group) :
    recorded ≠ "" := by
  rw [h]
  split
  · decide
  · next hne => exact hne

/-- How a workload tells of its group and its kind. -/
structure TypeMeta.Names (t : TypeMeta) (group kind : String) : Prop where
  kind_eq : t.kind = kind
  apiGroup : GroupNamed t.apiGroup group
  resourceType : t.resourceType = Text.toLower kind

theorem TypeMeta.Names.ofKind (group version kind : String) :
    (TypeMeta.ofKind group version kind).Names group kind :=
  ⟨rfl, groupNamed_recordedGroup group, rfl⟩

end Record

end ClusterInventory
