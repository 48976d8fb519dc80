import ClusterInventory.Api.Error
import ClusterInventory.Api.Request
import ClusterInventory.Api.StatusLine
import ClusterInventory.Http.Header
import ClusterInventory.Json.Parser
import ClusterInventory.Text.Quoted

/-! Calls to an API. A server answers requests, and may answer the same request differently from
time to time; a call sends one request and reads the answer. -/

namespace ClusterInventory.Api

inductive Reply where
  /-- Nothing comes back in time. -/
  | silence
  /-- The request did not get through, with the causes behind that. -/
  | unsent (message : String) (causes : List String)
  | answer (code : Nat) (body : String)
  deriving DecidableEq, Repr

/-- Whatever answers requests, in a world that may change with each. -/
abbrev Server (σ : Type) := Request → σ → Reply × σ

/-- The error that an answer with an error code stands for: the one that its body spells out, else
one made of code and body. -/
def ErrorStatus.ofAnswer (code : Nat) (body : String) : ErrorStatus :=
  ((Json.parse? body).bind decoder).getD
    { status := statusLine code, message := Text.quoted body
      reason := "Failed to parse error data", code := UInt16.ofNat code }

/-- The reading of an answer, given how to read the body of a good one. -/
def Reply.read {α : Type} (limit : Duration) (decode : Decoder α) : Reply → Except CallError α
  | .silence => .error (.timeout limit)
  | .unsent message causes => .error (.client message causes)
  | .answer code body =>
    if isErrorCode code then .error (.status (.ofAnswer code body))
    else
      match (Json.parse? body).bind decode with
      | some a => .ok a
      | none => .error .unreadable

/-- A server, how long one call to it may take, and the user in whose place calls are made. -/
structure Connection (σ : Type) where
  server : Server σ
  timeout : Duration
  asUser : Option String := none

namespace Connection

variable {σ α : Type}

/-- The user in whose place calls are made, if there is one, can be named in a header. -/
def canNameUser (c : Connection σ) : Bool := c.asUser.all Http.isHeaderValue

/-- Why no calls can be made in the place of a user who cannot be named, with the causes behind
that. -/
def unnamedUser : List String :=
  ["HttpError: failed to parse header value", "failed to parse header value"]

def call (c : Connection σ) (request : Request) (decode : Decoder α) (world : σ) :
    Except CallError α × σ :=
  let (reply, world) := c.server { request with asUser := c.asUser } world
  (reply.read c.timeout decode, world)

end Connection

/-- A request that cannot be made because of its target. -/
def CallError.unbuilt (fault : Http.TargetFault) : CallError :=
  .client s!"Failed to build request: failed to build request: {fault.message}"
    [s!"failed to build request: {fault.message}", fault.message]

end ClusterInventory.Api
