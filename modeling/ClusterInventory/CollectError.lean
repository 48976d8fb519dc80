import ClusterInventory.Attempt

/-! Errors of a collection. None of them ends it: each is noted for the domain, and for the object
if there is one, that it befell. -/

namespace ClusterInventory

structure CollectError where
  domain : String
  /-- The object that the failure befell. -/
  subject : Option String
  message : String
  deriving DecidableEq, Repr

namespace CollectError

def ofDomain (domain message : String) : CollectError := { domain, subject := none, message }

def ofRecord (domain subject message : String) : CollectError :=
  { domain, subject := some subject, message }

def text (e : CollectError) : String :=
  match e.subject with
  | some s => s!"{e.domain}: {s}: {e.message}"
  | none => s!"{e.domain}: {e.message}"

end CollectError

/-- The value of an attempt to map one object; a failure or breakdown becomes an error for that
object alone. -/
def guarded {α : Type} (domain subject : String) : Attempt α → Except CollectError α
  | .value a => .ok a
  | .failed chain => .error (.ofRecord domain subject (causeText chain))
  | .broken b => .error (.ofRecord domain subject s!"mapper panicked: {b.message}")

/-- Maps every object of a listing, guarding each; gives the records and the errors, each in the
order of their objects. -/
def mapGuarded {α β : Type} (domain : String) (subject : α → String) (f : α → Attempt β)
    (objects : List α) : List β × List CollectError :=
  let results := objects.map fun o => guarded domain (subject o) (f o)
  (results.filterMap Except.toOption,
    results.filterMap fun | .ok _ => none | .error e => some e)

end ClusterInventory
