import ClusterInventory.Collection.Recorded
import ClusterInventory.Json.Parser
import ClusterInventory.Json.Printer
import ClusterInventory.Settings.CommandLine
import ClusterInventory.Settings.Usage

/-! The command line: collects the inventory of a cluster from a recording of its API on the
standard input, and prints it. -/

namespace ClusterInventory

/-- The version under which inventories are made here. -/
def programVersion : String := "0.1.0"

/-- All lines that are left. -/
partial def readRest (input : IO.FS.Stream) (before : String) : IO String := do
  let line ← input.getLine
  if line.isEmpty then return before
  readRest input (before ++ line)

def collectFromInput (s : Settings) : IO UInt32 := do
  let text ← readRest (← IO.getStdin) ""
  match (Json.parse? text).bind Api.Recording.decoder with
  | none =>
    IO.eprintln "the input is no recording"
    return 1
  | some r =>
    match Collection.recordedInventory? s programVersion r with
    | none =>
      IO.eprintln "a recorded listing does not end"
      return 1
    | some inv =>
      IO.println inv.toJson.text
      return if inv.collectionSucceeded then 0 else 1

/-- The variables that are set among those of the settings. -/
def settingVariables : IO (List (String × String)) :=
  Setting.all.filterMapM fun s => do
    return (← IO.getEnv s.variableName).map fun value => (s.variableName, value)

end ClusterInventory

open ClusterInventory in
def main (arguments : List String) : IO UInt32 := do
  let given ← settingVariables
  match Settings.read arguments fun name => given.lookup name with
  | .ok s => collectFromInput s
  | .error .helpWanted =>
    IO.println usage
    return 0
  | .error .versionWanted =>
    IO.println programVersion
    return 0
  | .error e =>
    IO.eprintln e.message
    return 2
