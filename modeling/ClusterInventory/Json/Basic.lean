import ClusterInventory.Number.Binary64
import ClusterInventory.StringMap

/-! JSON documents as they are written: the members of an object stand in their order, and a key
may stand more than once. -/

namespace ClusterInventory

inductive Json where
  | null
  | bool (b : Bool)
  /-- A whole number without fraction or exponent. -/
  | int (n : Int)
  | float (x : Binary64)
  | str (s : String)
  | arr (items : List Json)
  | obj (members : List (String × Json))
  /-- A value that is well formed but stands for nothing: a text with half a surrogate pair, or a
  number too large for a float. It can be passed over but not read. -/
  | unreadable
  deriving Repr, Inhabited

namespace Json

/-- The last value with this key among the members. -/
def lookup (key : String) : List (String × Json) → Option Json
  | [] => none
  | (k, v) :: rest =>
    match lookup key rest with
    | some w => some w
    | none => if k = key then some v else none

def get? (j : Json) (key : String) : Option Json :=
  match j with
  | .obj members => lookup key members
  | _ => none

def at? (j : Json) : List String → Option Json
  | [] => some j
  | key :: path => (j.get? key).bind fun v => v.at? path

mutual

/-- The document with the keys of every object sorted; of members with one key the last one
stays. -/
def sorted : Json → Json
  | .arr items => .arr (sortedItems items)
  | .obj members => .obj (sortedMembers [] members)
  | j => j

def sortedItems : List Json → List Json
  | [] => []
  | j :: rest => j.sorted :: sortedItems rest

/-- Adds members, one after the other, to sorted ones. -/
def sortedMembers (done : List (String × Json)) : List (String × Json) → List (String × Json)
  | [] => done
  | (k, v) :: rest => sortedMembers (StringMap.insertEntry k v.sorted done) rest

end

mutual

/-- The number of arrays and objects around the innermost part, the document included. -/
def depth : Json → Nat
  | .arr items => itemsDepth items + 1
  | .obj members => membersDepth members + 1
  | _ => 0

def itemsDepth : List Json → Nat
  | [] => 0
  | j :: rest => max j.depth (itemsDepth rest)

/-- The greatest depth among the values of members. -/
def membersDepth : List (String × Json) → Nat
  | [] => 0
  | (_, v) :: rest => max v.depth (membersDepth rest)

end

/-- The depth that a document may have where every part of it is read. -/
def maxDepth : Nat := 127

mutual

/-- Every value in the document stands for something. -/
def isReadable : Json → Bool
  | .arr items => itemsReadable items
  | .obj members => membersReadable members
  | .unreadable => false
  | _ => true

def itemsReadable : List Json → Bool
  | [] => true
  | j :: rest => j.isReadable && itemsReadable rest

def membersReadable : List (String × Json) → Bool
  | [] => true
  | (_, v) :: rest => v.isReadable && membersReadable rest

end

end Json

end ClusterInventory
