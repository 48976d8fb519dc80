import ClusterInventory.Collection.Live
import ClusterInventory.Proofs.Api.Deliveries
import ClusterInventory.Proofs.Collection.Cycle

/-!
# What goes wrong, by what is answered

`Failure` lists everything that can go wrong while the domains collect, each with the words in
which the snapshot tells of it. `failure?` says when an answer is a failure: one by which something
is not there is none. A `Kind` is what a domain lists and records; its records and its failures
follow from the answer to its own listing (`Kind.recordsOf_eq`).
-/

namespace ClusterInventory

open Api (CallError Calls Connection Handle Listing)

variable {σ α β : Type}

/-! ## Answers as they come, before what is not there counts as empty -/

namespace Api

/-- Asks for the object at a target. -/
def Connection.getObject (c : Connection σ) (target : String) (world : σ) :
    Except CallError Object.Dynamic × σ :=
  match Request.ofTarget target with
  | .error fault => (.error (.unbuilt fault), world)
  | .ok r => c.call r Object.Dynamic.reader.decoder world

/-- What is not there is no object. -/
def absentAsNone : Except CallError α → Except CallError (Option α)
  | .ok found => .ok (some found)
  | .error e => if e.saysNotFound || e.isNotFound then .ok none else .error e

theorem Connection.get?_eq (c : Connection σ) (target : String) (world : σ) :
    c.get? target world =
      (absentAsNone (c.getObject target world).1, (c.getObject target world).2) := by
  unfold Connection.get? Connection.getObject
  cases Request.ofTarget target with
  | error fault => rfl
  | ok r =>
    simp only
    rcases c.call r Object.Dynamic.reader.decoder world with ⟨e | found, world'⟩
    · simp only [absentAsNone]
      split <;> rfl
    · rfl

namespace Handle

/-- All objects of a listing, or the error of the page that failed. -/
def all (h : Handle σ) (l : Listing α) : Calls σ (Except CallError (List α)) :=
  l.all h.toConnection h.pages

theorem list_eq (h : Handle σ) (l : Listing α) :
    h.list l = h.all l >>= fun answer => pure (absentAsEmpty answer) := by
  funext world
  show Option.map _ _ = Option.bind _ _
  unfold all
  cases l.all h.toConnection h.pages world <;> rfl

/-- A listing that has a single page. -/
theorem all_of_page {h : Handle σ} {l : Listing α} {p : Page α} {world world' : σ}
    (hpages : 0 < h.pages) (hpage : l.page h.toConnection none world = (.ok p, world'))
    (hlast : p.next? = none) : h.all l world = some (.ok p.items, world') := by
  obtain ⟨n, hn⟩ := Nat.exists_eq_succ_of_ne_zero (Nat.ne_of_gt hpages)
  show l.after h.toConnection h.pages none world = _
  rw [hn]
  simp only [Listing.after, hpage, hlast]

/-- The same from what can be evaluated: that there is but one page, and what its items are up to
`f`. -/
theorem exists_all_of_items {c : Connection σ} {l : Listing α} {f : α → β} {bs : List β} {world : σ}
    (heval : (l.page c none world).1.toOption.map (fun p => (p.items.map f, p.next?.isNone)) =
      some (bs, true))
    {h : Handle σ} (hc : h.toConnection = c) (hpages : 0 < h.pages) :
    ∃ items, h.all l world = some (.ok items, (l.page c none world).2) ∧ items.map f = bs := by
  obtain ⟨p, hpage, hp⟩ := exists_ok_of_map heval
  obtain ⟨hitems, hlast⟩ := Prod.mk.inj hp
  subst hc
  have hall := all_of_page hpages (Prod.ext hpage rfl) (Option.isNone_iff_eq_none.1 hlast)
  exact ⟨p.items, hall, hitems⟩

theorem once_get?_eq (h : Handle σ) (target : String) :
    h.once (fun c => c.get? target) =
      h.once (fun c => c.getObject target) >>= fun answer => pure (absentAsNone answer) := by
  funext world
  exact congrArg some (h.toConnection.get?_eq target world)

end Handle

end Api

namespace Collection

/-! ## Failures -/

inductive Failure where
  /-- The server's version cannot be had. -/
  | version (e : CallError)
  /-- The nodes that would give the providers away cannot be listed. -/
  | providerNodes (e : CallError)
  /-- The notes of the operator cannot be listed. -/
  | notes (e : CallError)
  | listing (domain what : String) (e : CallError)
  /-- Calico's one object cannot be had. -/
  | calico (e : CallError)
  /-- An object cannot be recorded. -/
  | unrecorded (domain subject : String) (chain : List String)
  /-- The recording of an object broke off. -/
  | broken (domain subject : String) (b : Breakdown)
  /-- The search for the root owner of a workload came to no end. -/
  | unresolved (subject : String) (e : Ownership.ResolveError)
  deriving DecidableEq, Repr

/-- What is noted of a failure. -/
def Failure.error : Failure → CollectError
  | .version e => .ofDomain Record.Cluster.domainName s!"getting server version: {e.message}"
  | .providerNodes e =>
    .ofDomain Record.Cluster.domainName ("listing nodes for provider detection: " ++ e.message)
  | .notes e => .ofDomain Record.Cluster.domainName s!"getting operator metadata: {e.message}"
  | .listing domain what e => .ofDomain domain s!"listing {what}: {e.message}"
  | .calico e =>
    .ofDomain CustomResources.domainName s!"getting calico cluster information: {e.message}"
  | .unrecorded domain subject chain => .ofRecord domain subject (causeText chain)
  | .broken domain subject b => .ofRecord domain subject s!"mapper panicked: {b.message}"
  | .unresolved subject e => .ofRecord Workloads.domainName subject e.message

/-- The failure of a listing, or of a call that counts as one. An answer of the API with the code
404 is none. -/
def failure? : Except CallError α → Option CallError
  | .ok _ => none
  | .error (.status e) => if e.code = 404 then none else some (.status e)
  | .error e => some e

/-- The failure to get a single object. The API may also say by the reason that it is not there. -/
def objectFailure? : Except CallError α → Option CallError
  | .ok _ => none
  | .error (.status e) => if e.code = 404 ∨ e.reason = "NotFound" then none else some (.status e)
  | .error e => some e

/-- The objects that an answer gives, none if it is an error. -/
def objectsIn : Except CallError (List α) → List α
  | .ok objects => objects
  | .error _ => []

theorem absentAsEmpty_eq (answer : Except CallError (List α)) :
    Api.absentAsEmpty answer =
      match failure? answer with
      | some e => .error e
      | none => .ok (objectsIn answer) := by
  rcases answer with (limit | status | ⟨message, causes⟩) | objects
  · rfl
  · by_cases h : status.code = 404 <;>
      simp [Api.absentAsEmpty, CallError.isNotFound, failure?, objectsIn, h]
  · rfl
  · rfl

theorem absentAsNone_eq (answer : Except CallError α) :
    Api.absentAsNone answer =
      match objectFailure? answer with
      | some e => .error e
      | none => .ok answer.toOption := by
  rcases answer with (limit | status | ⟨message, causes⟩) | objects
  · rfl
  · by_cases hcode : status.code = 404 <;> by_cases hreason : status.reason = "NotFound" <;>
      simp [Api.absentAsNone, CallError.isNotFound, CallError.saysNotFound, objectFailure?,
        Except.toOption, hcode, hreason]
  · rfl
  · rfl

/-- Objects are only in an answer that is no failure. -/
theorem objectsIn_of_failure {answer : Except CallError (List α)} {e : CallError}
    (h : failure? answer = some e) : objectsIn answer = [] := by
  cases answer with
  | ok objects => cases h
  | error e => rfl

/-! ## Kinds of objects -/

/-- The failure to record an object, if it is one. -/
def recordFailure? (domain subject : String) : Attempt β → Option Failure
  | .value _ => none
  | .failed chain => some (.unrecorded domain subject chain)
  | .broken b => some (.broken domain subject b)

/-- The record of an object, if there is one. -/
def recorded? : Attempt β → Option β
  | .value b => some b
  | .failed _ => none
  | .broken _ => none

theorem guarded_eq (domain subject : String) (record : Attempt β) :
    (guarded domain subject record).toOption = recorded? record ∧
      (match guarded domain subject record with
        | .ok _ => none
        | .error e => some e) = (recordFailure? domain subject record).map (·.error) := by
  cases record <;> exact ⟨rfl, rfl⟩

/-- Objects that a domain lists and records: in which domain, what the errors of the listing call
them and each one, and how one is recorded. -/
structure Kind (α β : Type) where
  domain : String
  what : String
  subject : α → String
  record : α → Attempt β

/-- The failure to list objects, if the answer is one. -/
def listingFailures (domain what : String) (answer : Except CallError (List α)) : List Failure :=
  ((failure? answer).map (.listing domain what)).toList

/-- A listing that ends in an error is a failure, unless the error says that nothing is there. -/
theorem listingFailures_error (domain what : String) (e : CallError) :
    listingFailures domain what (.error e : Except CallError (List α)) =
      if e.isNotFound then [] else [.listing domain what e] := by
  rcases e with limit | status | ⟨message, causes⟩
  · rfl
  · by_cases h : status.code = 404 <;> simp [listingFailures, failure?, CallError.isNotFound, h]
  · rfl

namespace Kind

variable (k : Kind α β)

def records (answer : Except CallError (List α)) : List β :=
  (objectsIn answer).filterMap fun o => recorded? (k.record o)

def failures (answer : Except CallError (List α)) : List Failure :=
  listingFailures k.domain k.what answer ++
    (objectsIn answer).filterMap fun o => recordFailure? k.domain (k.subject o) (k.record o)

theorem mapGuarded_eq (objects : List α) :
    mapGuarded k.domain k.subject k.record objects =
      (objects.filterMap fun o => recorded? (k.record o),
        (objects.filterMap fun o => recordFailure? k.domain (k.subject o) (k.record o)).map
          (·.error)) := by
  have h := fun o => guarded_eq k.domain (k.subject o) (k.record o)
  simp only [mapGuarded, List.filterMap_map, List.map_filterMap]
  congr 1
  · exact congrArg (List.filterMap · objects) (funext fun o => (h o).1)
  · exact congrArg (List.filterMap · objects) (funext fun o => (h o).2)

/-- Where no records stand yet, those that a domain takes over from a listing, and the errors that
it gives for it, are those of the answer. -/
theorem recordsOf_eq (answer : Except CallError (List α)) :
    recordsOf k.domain k.what k.subject k.record [] (Api.absentAsEmpty answer) =
      (k.records answer, (k.failures answer).map (·.error)) := by
  rw [absentAsEmpty_eq]
  unfold records failures listingFailures
  cases h : failure? answer with
  | none => exact k.mapGuarded_eq (objectsIn answer)
  | some e =>
    rw [objectsIn_of_failure h]
    rfl

end Kind

theorem objectsOrError_eq (domain what : String) (answer : Except CallError (List α)) :
    objectsOrError domain what (Api.absentAsEmpty answer) =
      (objectsIn answer, (listingFailures domain what answer).map (·.error)) := by
  rw [absentAsEmpty_eq]
  unfold listingFailures
  cases h : failure? answer with
  | none => rfl
  | some e =>
    rw [objectsIn_of_failure h]
    rfl

end Collection

end ClusterInventory
