import ClusterInventory.Http.Uri
import ClusterInventory.Text.QueryPairs

/-! Requests to an API. A request is made from a target, the text of a path that a query and a
fragment may follow. -/

namespace ClusterInventory.Api

/-- A request for what stands at a path. -/
structure Request where
  path : String
  /-- The pairs of the query, in their order. -/
  query : List (String × String) := []
  /-- The user in whose place the request is made. -/
  asUser : Option String := none
  deriving DecidableEq, Repr

/-- The request for a target behind which pairs of a query are written. A query that the target has
itself goes on with them, and a fragment that it has swallows them. There is no request for a text
that is too long, nor for one with a character that cannot stand in it. -/
def Request.ofQuery (target : String) (pairs : List (String × String)) :
    Except Http.TargetFault Request :=
  if target.utf8ByteSize + Text.pairsSize pairs > Http.maxUriSize then .error .tooLong
  else
    match Http.splitTarget? target.toList with
    | none => .error .badCharacter
    | some (path, query) =>
      let own := Text.queryPairs (String.ofList query)
      .ok { path := String.ofList path
            query := if target.toList.contains '#' then own else own ++ pairs }

/-- The request for a target as it stands. -/
def Request.ofTarget (target : String) : Except Http.TargetFault Request :=
  Request.ofQuery target []

end ClusterInventory.Api
