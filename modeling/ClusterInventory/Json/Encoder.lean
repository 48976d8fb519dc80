import ClusterInventory.Json.Basic
import ClusterInventory.StringMap
import ClusterInventory.Time.Instant

/-! Members of the objects that records are written as. A member that would hold nothing may be
left out. -/

namespace ClusterInventory.Json

def strings (items : List String) : Json := .arr (items.map .str)

def stringMap (m : StringMap String) : Json := .obj (m.entries.map fun e => (e.1, .str e.2))

def instant (t : Instant) : Json := .str t.text

/-- A member that is left out when it holds nothing. -/
def memberOf {α : Type} (key : String) (f : α → Json) : Option α → List (String × Json)
  | some a => [(key, f a)]
  | none => []

/-- A member that is left out when its condition fails. -/
def memberIf (shown : Bool) (key : String) (v : Json) : List (String × Json) :=
  if shown then [(key, v)] else []

end ClusterInventory.Json
