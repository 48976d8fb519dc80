import ClusterInventory.Settings.Setting

/-! What a user is told about the command line. -/

namespace ClusterInventory

def Setting.purpose : Setting → String
  | logLevel => "which events are logged"
  | logFormat => "how log lines are written, json or text"
  | collectInterval => "the pause between collections"
  | uploadInventory => "whether inventories are delivered"
  | impersonate => "the user in whose place cluster calls are made"
  | serverEndpoint => "the root of the inventory server"
  | httpPort => "the port on which snapshots are served"
  | certificatePath => "the file of the certificates that deliveries are signed with"
  | keyPath => "the file of the key that deliveries are signed with"
  | authEnabled => "whether deliveries are signed"
  | apiTimeout => "how long one cluster call may take"
  | deliveryTimeout => "how long one delivery may take"

def Setting.usageLine (s : Setting) : String :=
  s!"  --{s.flag} <value>  {s.purpose} ({s.variableName})"

def usage : String :=
  "\n".intercalate ("Settings, each from its flag or else from its variable:" ::
    Setting.all.map (·.usageLine))

namespace UsageError

/-- The wording of an error. What is asked for is no error. -/
def message : UsageError → String
  | helpWanted => "the help is asked for"
  | versionWanted => "the version is asked for"
  | unknownArgument text => s!"unexpected argument: {text}"
  | repeated s => s!"given more than once: --{s.flag}"
  | missingValue s => s!"a value is missing: --{s.flag}"
  | unwantedValue name => s!"takes no value: --{name}"
  | unknownChoice s value => s!"no choice for --{s.flag}: {value}"
  | unreadableValue s value => s!"invalid value for --{s.flag}: {value}"

end UsageError

end ClusterInventory
