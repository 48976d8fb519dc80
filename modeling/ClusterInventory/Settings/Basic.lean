import ClusterInventory.Time.Duration

/-! What a user can set, and what follows from it for calls to a cluster. -/

namespace ClusterInventory

inductive LogFormat where
  | json
  | text
  deriving DecidableEq, Repr

/-- The format with this name. Names are told apart by case. -/
def LogFormat.ofName? (name : String) : Option LogFormat :=
  if name = "json" then some .json else if name = "text" then some .text else none

/-- Everything that a user can set. What is left alone keeps the value given here. -/
structure Settings where
  logLevel : String := "info"
  logFormat : LogFormat := .json
  /-- The pause between collections, in words. -/
  collectInterval : String := "1h"
  uploadInventory : Bool := true
  /-- The user in whose place calls are made. -/
  impersonate : Option String := none
  /-- The root of the inventory server. -/
  serverEndpoint : String := "http://localhost:8086"
  /-- The port on which snapshots are served. -/
  httpPort : UInt16 := 8087
  certificatePath : String := "/etc/certificates/tls.crt"
  keyPath : String := "/etc/certificates/tls.key"
  authEnabled : Bool := true
  /-- How long one call to the cluster may take. -/
  apiTimeout : Duration := .ofSeconds 30
  deliveryTimeout : Duration := .ofSeconds 60
  deriving DecidableEq, Repr

structure ConnectionOptions where
  asUser : Option String
  connectTimeout : Duration := .ofSeconds 10
  readTimeout : Duration
  deriving DecidableEq, Repr

/-- How calls to a cluster are made under these settings. A user without a name stands for
nobody. -/
def Settings.connectionOptions (s : Settings) : ConnectionOptions :=
  { asUser := s.impersonate.filter (· != ""), readTimeout := s.apiTimeout }

end ClusterInventory
