import ClusterInventory.Api.Resource
import Std.Data.HashMap
import Std.Data.HashSet

/-! The catalog of everything that an API serves, by group, version and kind and by the plural
names of its kinds. -/

namespace ClusterInventory.Api

structure Catalog where
  byKind : Std.HashMap (String × String × String) Served
  plurals : Std.HashSet String

namespace Catalog

/-- A catalog of nothing. -/
def empty : Catalog := ⟨∅, ∅⟩

instance : Inhabited Catalog := ⟨empty⟩

/-- Adds a kind, in place of one with the same group, version and kind. -/
def insert (c : Catalog) (s : Served) : Catalog :=
  { byKind := c.byKind.insert (s.resource.group, s.resource.version, s.resource.kind) s
    plurals := c.plurals.insert (s.resource.apiVersion ++ "/" ++ s.resource.plural) }

/-- The catalog of a list of kinds, of which later ones replace earlier ones. -/
def ofList (entries : List Served) : Catalog := entries.foldl insert empty

def find? (c : Catalog) (apiVersion kind : String) : Option Served :=
  let (group, version) := splitApiVersion apiVersion
  c.byKind[(group, version, kind)]?

/-- Something is served under a key such as `velero.io/v1/backups`. -/
def has (c : Catalog) (key : String) : Bool := c.plurals.contains key

end Catalog

end ClusterInventory.Api
