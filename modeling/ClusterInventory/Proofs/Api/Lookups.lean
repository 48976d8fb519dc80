import ClusterInventory.Api.Lookup
import ClusterInventory.Proofs.Api.Deliveries
import ClusterInventory.Proofs.Collection.Answers

/-!
# What looking up an object tells

`Delivery.Tells` is a table of all that can come of asking for an object, and of what each tells
of it: that it is there, that it is absent, or neither. `LookUp` adds when nothing is asked.
`lookup_eq_iff` says that this is all that a look-up does.
-/

namespace ClusterInventory.Api

variable {σ : Type}

/-- An API error that says that something is not there: by its code, or by its reason. -/
def ErrorStatus.TellsAbsent (e : ErrorStatus) : Prop := e.code = 404 ∨ e.reason = "NotFound"

instance (e : ErrorStatus) : Decidable e.TellsAbsent := inferInstanceAs (Decidable (_ ∨ _))

/-- What a delivery tells a call, which gives up after so long, of the object that it asked for. -/
inductive Delivery.Tells (limit : Duration) (d : Delivery) :
    Except CallError (Option Object.Dynamic) → Prop
  | found {code : Nat} {body : String} {object : Object.Dynamic} (inTime : d.InTime limit)
    (reply : d.reply = .answer code body) (good : isErrorCode code = false)
    (reads : (Json.parse? body).bind Object.Dynamic.reader.decoder = some object) :
    Tells limit d (.ok (some object))
  | absent {code : Nat} {body : String} (inTime : d.InTime limit)
    (reply : d.reply = .answer code body) (bad : isErrorCode code = true)
    (absent : (ErrorStatus.ofAnswer code body).TellsAbsent) : Tells limit d (.ok none)
  | refused {code : Nat} {body : String} (inTime : d.InTime limit)
    (reply : d.reply = .answer code body) (bad : isErrorCode code = true)
    (other : ¬(ErrorStatus.ofAnswer code body).TellsAbsent) :
    Tells limit d (.error (.status (.ofAnswer code body)))
  | unreadable {code : Nat} {body : String} (inTime : d.InTime limit)
    (reply : d.reply = .answer code body) (good : isErrorCode code = false)
    (unread : (Json.parse? body).bind Object.Dynamic.reader.decoder = none) :
    Tells limit d (.error .unreadable)
  | unsent {message : String} {causes : List String} (inTime : d.InTime limit)
    (reply : d.reply = .unsent message causes) : Tells limit d (.error (.client message causes))
  | silence (inTime : d.InTime limit) (reply : d.reply = .silence) :
    Tells limit d (.error (.timeout limit))
  | late (late : ¬d.InTime limit) : Tells limit d (.error (.timeout limit))

theorem absentAsNone_status (e : ErrorStatus) :
    let answer : Except CallError Object.Dynamic := .error (.status e)
    (e.TellsAbsent → absentAsNone answer = .ok none) ∧
      (¬e.TellsAbsent → absentAsNone answer = .error (.status e)) := by
  constructor
  · intro h
    simp [absentAsNone, CallError.saysNotFound, CallError.isNotFound, or_comm.1 h]
  · intro h
    have h : ¬(e.reason = "NotFound" ∨ e.code = 404) := fun h' => h h'.symm
    simp [absentAsNone, CallError.saysNotFound, CallError.isNotFound, h]

/-- What is made of a delivery is what it tells. -/
theorem Delivery.Tells.eq {limit : Duration} {d : Delivery}
    {answer : Except CallError (Option Object.Dynamic)} (h : d.Tells limit answer) :
    absentAsNone (d.read limit Object.Dynamic.reader.decoder) = answer := by
  cases h with
  | found inTime reply good reads =>
    rw [read_of_inTime inTime, Reply.read_eq_ok_iff.2 ⟨_, _, reply, good, reads⟩]
    rfl
  | absent inTime reply bad absent =>
    rw [read_of_inTime inTime, reply, Reply.read, if_pos bad]
    exact (absentAsNone_status _).1 absent
  | refused inTime reply bad other =>
    rw [read_of_inTime inTime, reply, Reply.read, if_pos bad]
    exact (absentAsNone_status _).2 other
  | unreadable inTime reply good unread =>
    rw [read_of_inTime inTime, reply]
    simp only [Reply.read, good, unread]
    rfl
  | unsent inTime reply =>
    rw [read_of_inTime inTime, reply]
    rfl
  | silence inTime reply =>
    rw [read_of_inTime inTime, reply]
    rfl
  | late late =>
    rw [read_of_late late]
    rfl

/-- Every delivery tells something. -/
theorem Delivery.exists_tells (limit : Duration) (d : Delivery) :
    ∃ answer, d.Tells limit answer := by
  by_cases hintime : d.InTime limit
  · cases hreply : d.reply with
    | silence => exact ⟨_, .silence hintime hreply⟩
    | unsent message causes => exact ⟨_, .unsent hintime hreply⟩
    | answer code body =>
      cases hcode : isErrorCode code with
      | true =>
        by_cases habsent : (ErrorStatus.ofAnswer code body).TellsAbsent
        · exact ⟨_, .absent hintime hreply hcode habsent⟩
        · exact ⟨_, .refused hintime hreply hcode habsent⟩
      | false =>
        cases hread : (Json.parse? body).bind Object.Dynamic.reader.decoder with
        | some object => exact ⟨_, .found hintime hreply hcode hread⟩
        | none => exact ⟨_, .unreadable hintime hreply hcode hread⟩
  · exact ⟨_, .late hintime⟩

theorem Delivery.tells_iff {limit : Duration} {d : Delivery}
    {answer : Except CallError (Option Object.Dynamic)} :
    d.Tells limit answer ↔ absentAsNone (d.read limit Object.Dynamic.reader.decoder) = answer := by
  constructor
  · exact fun h => h.eq
  · rintro rfl
    obtain ⟨answer, h⟩ := d.exists_tells limit
    exact h.eq ▸ h

/-- Where an object of this kind stands: within the namespace of its address, if it has one and
the kind belongs to namespaces. -/
def Served.target (served : Served) (r : ObjectRef) : String :=
  served.resource.path (if served.namespaced then r.namespace else none) ++ "/" ++ r.name

/-- What is looked up, and what that rests on: that nothing of the kind is served, that no request
can be made, or what one delivery tells. -/
inductive LookUp (catalog : Catalog) (limit : Duration) (asUser : Option String) (r : ObjectRef) :
    Except CallError (Option Object.Dynamic) → List Delivery → Prop
  | unserved (served : catalog.find? r.apiVersion r.kind = none) :
    LookUp catalog limit asUser r (.ok none) []
  | unbuilt {kind : Served} {fault : Http.TargetFault}
    (served : catalog.find? r.apiVersion r.kind = some kind)
    (request : Request.ofTarget (kind.target r) = .error fault) :
    LookUp catalog limit asUser r (.error (.unbuilt fault)) []
  | asked {kind : Served} {q : Request} {d : Delivery}
    {answer : Except CallError (Option Object.Dynamic)}
    (served : catalog.find? r.apiVersion r.kind = some kind)
    (request : Request.ofTarget (kind.target r) = .ok q) (sent : d.request = { q with asUser })
    (tells : d.Tells limit answer) : LookUp catalog limit asUser r answer [d]

section LookUp

variable {s : SlowServer σ} {limit : Duration} {asUser : Option String} {catalog : Catalog}
  {r : ObjectRef} {answer : Except CallError (Option Object.Dynamic)} {ds : List Delivery}
  {world world' : σ}

theorem lookup_of_unserved (h : catalog.find? r.apiVersion r.kind = none) (c : Connection σ)
    (world : σ) : c.lookup catalog r world = (.ok none, world) := by
  rw [Connection.lookup, h]

theorem lookup_of_served {kind : Served} (h : catalog.find? r.apiVersion r.kind = some kind)
    (c : Connection σ) (world : σ) : c.lookup catalog r world = c.get? (kind.target r) world := by
  rw [Connection.lookup, h]
  rfl

theorem get?_of_unbuilt {target : String} {fault : Http.TargetFault}
    (h : Request.ofTarget target = .error fault) (c : Connection σ) (world : σ) :
    c.get? target world = (.error (.unbuilt fault), world) := by
  rw [Connection.get?, h]

theorem get?_of_request {target : String} {q : Request} (h : Request.ofTarget target = .ok q)
    (s : SlowServer σ) (limit : Duration) (asUser : Option String) (world : σ) :
    (s.connection limit asUser).get? target world =
      (absentAsNone ((s.deliver { q with asUser } world).read limit Object.Dynamic.reader.decoder),
        (s { q with asUser } world).2) := by
  rw [Connection.get?_eq, Connection.getObject, h]
  exact congrArg (fun called => (absentAsNone called.1, called.2))
    (s.call_eq limit asUser q Object.Dynamic.reader.decoder world)

theorem LookUp.lookup (h : LookUp catalog limit asUser r answer ds)
    (hs : s.Delivers world ds world') :
    (s.connection limit asUser).lookup catalog r world = (answer, world') := by
  cases h with
  | unserved served =>
    cases hs
    exact lookup_of_unserved served _ _
  | unbuilt served request =>
    cases hs
    rw [lookup_of_served served, get?_of_unbuilt request]
  | asked served request sent tells =>
    cases hs with
    | cons hs =>
      cases hs
      cases sent
      rw [lookup_of_served served, get?_of_request request, tells.eq]

theorem exists_lookUp
    (h : (s.connection limit asUser).lookup catalog r world = (answer, world')) :
    ∃ ds, LookUp catalog limit asUser r answer ds ∧ s.Delivers world ds world' := by
  cases hserved : catalog.find? r.apiVersion r.kind with
  | none =>
    rw [lookup_of_unserved hserved] at h
    cases h
    exact ⟨[], .unserved hserved, .nil _⟩
  | some kind =>
    rw [lookup_of_served hserved] at h
    cases hrequest : Request.ofTarget (kind.target r) with
    | error fault =>
      rw [get?_of_unbuilt hrequest] at h
      cases h
      exact ⟨[], .unbuilt hserved hrequest, .nil _⟩
    | ok q =>
      rw [get?_of_request hrequest] at h
      cases h
      exact ⟨_, .asked hserved hrequest rfl (Delivery.tells_iff.2 rfl), .cons (.nil _)⟩

/-- A look-up is one of these, with the deliveries that it rests on. -/
theorem lookup_eq_iff :
    (s.connection limit asUser).lookup catalog r world = (answer, world') ↔
      ∃ ds, LookUp catalog limit asUser r answer ds ∧ s.Delivers world ds world' := by
  constructor
  · exact exists_lookUp
  · rintro ⟨ds, hlookup, hds⟩
    exact hlookup.lookup hds

end LookUp

end ClusterInventory.Api
