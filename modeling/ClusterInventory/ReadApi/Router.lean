import ClusterInventory.Http.Uri
import ClusterInventory.Json.Printer
import ClusterInventory.ReadApi.Basic

/-! The read API over HTTP: which paths there are, and what is answered on each. -/

namespace ClusterInventory.ReadApi

structure Response where
  status : Nat
  contentType : Option String := none
  /-- The methods that would be answered, where the one used is not. -/
  allow : Option String := none
  body : String := ""
  deriving DecidableEq, Repr

namespace Response

def documentType : String := "application/json"

def document (j : Json) : Response :=
  { status := 200, contentType := some documentType, body := j.text }

def internalError : Response :=
  { status := 500, contentType := some documentType
    body := (Json.obj [("status_code", .int 500), ("error", .str "internal server error")]).text }

def notFound : Response := { status := 404 }

def methodNotAllowed : Response := { status := 405, allow := some "GET,HEAD" }

end Response

inductive Endpoint where
  | inventory | metadata | health
  deriving DecidableEq, Repr

namespace Endpoint

def ofPath? (path : String) : Option Endpoint :=
  if path = "/" || path = "/api/v1/inventory" then some inventory
  else if path = "/api/v1/metadata" then some metadata
  else if path = "/healthz" then some health
  else none

def document (s : Source) : Endpoint → Json
  | inventory => s.inventory.toJson
  | metadata => (s.metadata.map Delivery.DeliveryMetadata.toJson).getD (.obj [])
  | health => s.health.toJson

end Endpoint

/-- The answer to a request for a path. There may be nothing to read from because that has
failed. -/
def respond (source : Option Source) (method path : String) : Response :=
  match Endpoint.ofPath? path with
  | none => .notFound
  | some e =>
    let answer := match source with
      | some s => Response.document (e.document s)
      | none => .internalError
    if method = "GET" then answer
    else if method = "HEAD" then { answer with body := "" }
    else .methodNotAllowed

/-- The answer to a request as it was sent, if it is one. -/
def respond? (source : Option Source) (method uri : String) : Option Response :=
  if Http.isMethod method then (Http.pathOf? uri).map (respond source method) else none

end ClusterInventory.ReadApi
