import ClusterInventory.Settings.Basic
import ClusterInventory.Text.Decimal
import ClusterInventory.Text.Lowercase
import ClusterInventory.Time.Interval

/-! Single settings: the flag and the variable that give one, and how its value is read from
text. -/

namespace ClusterInventory

inductive Setting where
  | logLevel
  | logFormat
  | collectInterval
  | uploadInventory
  | impersonate
  | serverEndpoint
  | httpPort
  | certificatePath
  | keyPath
  | authEnabled
  | apiTimeout
  | deliveryTimeout
  deriving DecidableEq, Repr

/-- Why a command line and its variables give no settings: something else is asked for, or they
are wrong. -/
inductive UsageError where
  | helpWanted
  | versionWanted
  | unknownArgument (text : String)
  | repeated (setting : Setting)
  | missingValue (setting : Setting)
  /-- A flag that stands alone has a value. -/
  | unwantedValue (name : String)
  /-- The value is none of those that the setting has. -/
  | unknownChoice (setting : Setting) (value : String)
  | unreadableValue (setting : Setting) (value : String)
  deriving DecidableEq, Repr

namespace Setting

/-- All settings, in the order in which their variables are looked at. -/
def all : List Setting :=
  [logLevel, logFormat, collectInterval, uploadInventory, impersonate, serverEndpoint, httpPort,
    certificatePath, keyPath, authEnabled, apiTimeout, deliveryTimeout]

def flag : Setting → String
  | logLevel => "log-level"
  | logFormat => "log-formatter"
  | collectInterval => "collect-interval"
  | uploadInventory => "upload-inventory"
  | impersonate => "impersonate"
  | serverEndpoint => "server-api-endpoint"
  | httpPort => "http-port"
  | certificatePath => "tls-crt"
  | keyPath => "tls-key"
  | authEnabled => "auth-enabled"
  | apiTimeout => "api-timeout"
  | deliveryTimeout => "delivery-timeout"

/-- The name of a setting among the variables: that of the flag in capitals, its words joined
by low lines. -/
def variableName (s : Setting) : String :=
  String.ofList (s.flag.toList.map fun c => if c = '-' then '_' else c.toUpper)

/-- The setting with this name on the command line. -/
def ofFlag? (name : String) : Option Setting := all.find? (·.flag == name)

def yesWords : List String := ["y", "yes", "t", "true", "on", "1"]

def noWords : List String := ["n", "no", "f", "false", "off", "0"]

/-- The truth value that a word stands for, whatever its case. -/
def readBool? (value : String) : Option Bool :=
  let word := Text.toLower value
  if yesWords.contains word then some true
  else if noWords.contains word then some false else none

/-- The port that a number with an optional sign stands for. -/
def readPort? (value : String) : Option UInt16 := do
  let n ← Text.readInt? value.toList
  if 0 ≤ n ∧ n < 65536 then some (UInt16.ofNat n.toNat) else none

/-- Reads the value of a setting from text and sets it. -/
def assign (s : Setting) (value : String) (given : Settings) : Except UsageError Settings :=
  let needed {α : Type} (o : Option α) : Except UsageError α :=
    match o with
    | some a => .ok a
    | none => .error (.unreadableValue s value)
  match s with
  | logLevel => .ok { given with logLevel := value }
  | logFormat =>
    match LogFormat.ofName? value with
    | some f => .ok { given with logFormat := f }
    | none => .error (.unknownChoice s value)
  | collectInterval => .ok { given with collectInterval := value }
  | uploadInventory => (needed (readBool? value)).map fun b => { given with uploadInventory := b }
  | impersonate => .ok { given with impersonate := some value }
  | serverEndpoint => .ok { given with serverEndpoint := value }
  | httpPort => (needed (readPort? value)).map fun p => { given with httpPort := p }
  | certificatePath => .ok { given with certificatePath := value }
  | keyPath => .ok { given with keyPath := value }
  | authEnabled => (needed (readBool? value)).map fun b => { given with authEnabled := b }
  | apiTimeout => (needed (Interval.read? value)).map fun d => { given with apiTimeout := d }
  | deliveryTimeout =>
    (needed (Interval.read? value)).map fun d => { given with deliveryTimeout := d }

end Setting

end ClusterInventory
