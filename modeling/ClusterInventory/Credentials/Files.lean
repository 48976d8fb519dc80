import ClusterInventory.StringMap

/-! The files that keys and certificates are kept in. -/

namespace ClusterInventory.Credentials

/-- What stands at a path. -/
inductive Entry where
  | file (content : List UInt8)
  | directory
  deriving DecidableEq, Repr

/-- Everything that stands somewhere. -/
abbrev Files := StringMap Entry

inductive ReadFault where
  | absent | directory
  deriving DecidableEq, Repr

def ReadFault.message : ReadFault → String
  | .absent => "No such file or directory (os error 2)"
  | .directory => "Is a directory (os error 21)"

namespace Files

/-- Nothing stands anywhere. -/
def empty : Files := StringMap.empty

/-- Something stands at a path. -/
def hasEntry (fs : Files) (path : String) : Bool := StringMap.contains fs path

def read (fs : Files) (path : String) : Except ReadFault (List UInt8) :=
  match StringMap.find? fs path with
  | some (.file content) => .ok content
  | some .directory => .error .directory
  | none => .error .absent

/-- The files with one written anew, unless a directory stands there. -/
def write? (fs : Files) (path : String) (content : List UInt8) : Option Files :=
  if StringMap.find? fs path = some .directory then none
  else some (StringMap.insert fs path (.file content))

/-- The files without one, if it is there and no directory. -/
def remove? (fs : Files) (path : String) : Option Files :=
  match StringMap.find? fs path with
  | some (.file _) => some (StringMap.erase fs path)
  | _ => none

/-- The files with a directory where nothing stands. -/
def makeDirectory? (fs : Files) (path : String) : Option Files :=
  if fs.hasEntry path then none else some (StringMap.insert fs path .directory)

end Files

end ClusterInventory.Credentials
