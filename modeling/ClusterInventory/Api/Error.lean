import ClusterInventory.Json.Decoder
import ClusterInventory.Text.Decimal
import ClusterInventory.Text.Quoted
import ClusterInventory.Time.Duration

/-! Failures of calls to the cluster's API. -/

namespace ClusterInventory.Api

structure ErrorStatus where
  status : String
  message : String
  reason : String
  code : UInt16
  deriving DecidableEq, Repr

namespace ErrorStatus

def fields : Fields ErrorStatus := do
  let status ← Fields.required "status" Decoder.string
  let message ← Fields.withDefault "message" "" Decoder.string
  let reason ← Fields.withDefault "reason" "" Decoder.string
  let code ← Fields.required "code" Decoder.uint16
  return { status, message, reason, code }

def decoder : Decoder ErrorStatus := Decoder.record fields

def brief (e : ErrorStatus) : String := s!"{e.message}: {e.reason}"

def text (e : ErrorStatus) : String :=
  "ApiError: " ++ e.brief ++ " (ErrorResponse \x7b status: " ++ Text.quoted e.status ++
    ", message: " ++ Text.quoted e.message ++ ", reason: " ++ Text.quoted e.reason ++
    ", code: " ++ String.ofList (Text.decimal e.code.toNat) ++ " \x7d)"

end ErrorStatus

/-- Why a call gave no result. -/
inductive CallError where
  /-- No answer came in time. -/
  | timeout (limit : Duration)
  /-- The API answered with an error. -/
  | status (e : ErrorStatus)
  /-- The call could not be made or its answer not be read, with the causes behind that. -/
  | client (message : String) (causes : List String)
  deriving DecidableEq, Repr

namespace CallError

def message : CallError → String
  | .timeout limit => s!"timed out after {limit.text}"
  | .status e => e.text
  | .client message _ => message

/-- The error with everything behind it, outermost first. -/
def chain : CallError → List String
  | .timeout limit => [s!"timed out after {limit.text}"]
  | .status e => [e.text, e.brief]
  | .client message causes => message :: causes

/-- The object or its kind is not there: the error's own code says so, whatever the transport
said. -/
def isNotFound : CallError → Bool
  | .status e => e.code == 404
  | _ => false

/-- An answer that could not be read. -/
def unreadable : CallError := .client "Error deserializing response" []

end CallError

/-- What is not there lists as empty. -/
def absentAsEmpty {α : Type} : Except CallError (List α) → Except CallError (List α)
  | .error e => if e.isNotFound then .ok [] else .error e
  | .ok items => .ok items

end ClusterInventory.Api
