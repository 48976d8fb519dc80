import ClusterInventory.Settings.Setting
import ClusterInventory.Text.Split

/-! Settings from a command line and from variables. A flag is followed by its value, either after
an equals sign or as the next word, and is taken in when the word after it has shown that all is
well so far. A variable counts only where its flag is not given. -/

namespace ClusterInventory

/-- A word of a command line. -/
inductive Word where
  /-- A flag with a long name, and the text after its equals sign. -/
  | long (name : String) (value : Option String)
  /-- A flag of letters, with the first of them. -/
  | short (letter : Char)
  | plain
  deriving DecidableEq, Repr

/-- The kind of word that a text is. A lone dash is a plain one. -/
def Word.ofText (text : String) : Word :=
  match text.toList with
  | '-' :: '-' :: cs =>
    match Text.splitAtMark ['='] cs with
    | some (name, value) => .long (String.ofList name) (some (String.ofList value))
    | none => .long (String.ofList cs) none
  | '-' :: c :: _ => .short c
  | _ => .plain

/-- What is asked for by a flag with this long name, which stands alone. -/
def UsageError.asked? (name : String) : Option UsageError :=
  if name = "help" then some .helpWanted
  else if name = "version" then some .versionWanted else none

structure CommandLine where
  settings : Settings := {}
  /-- The settings that have been taken in. -/
  given : List Setting := []
  /-- The setting whose flag was read last, with its value once that has been read. -/
  pending : Option (Setting × Option String) := none
  deriving DecidableEq, Repr

namespace CommandLine

/-- Takes a value in. No setting can be given twice. -/
def take (c : CommandLine) (s : Setting) (value : String) : Except UsageError CommandLine :=
  if c.given.contains s then .error (.repeated s)
  else (s.assign value c.settings).map fun settings => { settings, given := s :: c.given }

def settle (c : CommandLine) : Except UsageError CommandLine :=
  match c.pending with
  | none => .ok c
  | some (s, none) => .error (.missingValue s)
  | some (s, some value) => { c with pending := none }.take s value

/-- Reads one word. What is pending is settled by a flag that is known, and forgotten by a word
that cannot stand where it does. -/
def readWord (c : CommandLine) (text : String) : Except UsageError CommandLine :=
  match Word.ofText text with
  | .long name value =>
    match Setting.ofFlag? name, UsageError.asked? name, value with
    | some s, _, some value => do (← c.settle).take s value
    | some s, _, none => do return { ← c.settle with pending := some (s, none) }
    | none, some asked, none => do let _ ← c.settle; throw asked
    | none, some _, some _ => throw (.unwantedValue name)
    | none, none, _ => throw (.unknownArgument text)
  | .short letter =>
    if letter = 'h' then do let _ ← c.settle; throw .helpWanted
    else if letter = 'V' then do let _ ← c.settle; throw .versionWanted
    else throw (.unknownArgument text)
  | .plain =>
    match c.pending with
    | some (s, none) => return { c with pending := some (s, some text) }
    | _ => throw (.unknownArgument text)

/-- Reads the words that are left. Two dashes end the flags, and nothing may follow them. -/
def readWords (c : CommandLine) : List String → Except UsageError CommandLine
  | [] | ["--"] => c.settle
  | "--" :: extra :: _ => throw (.unknownArgument extra)
  | text :: rest => do (← c.readWord text).readWords rest

/-- Takes in the variable of a setting that has not been given. -/
def readVariable (environment : String → Option String) (c : CommandLine) (s : Setting) :
    Except UsageError CommandLine :=
  if c.given.contains s then .ok c
  else
    match environment s.variableName with
    | some value => c.take s value
    | none => .ok c

end CommandLine

/-- The settings that a command line and variables give. -/
def Settings.read (arguments : List String) (environment : String → Option String) :
    Except UsageError Settings := do
  let c ← CommandLine.readWords {} arguments
  let c ← Setting.all.foldlM (CommandLine.readVariable environment) c
  return c.settings

end ClusterInventory
