import ClusterInventory.Api.Server

/-!
# Replies that take time

The reply to a call is read if it comes before the call gives up, and that is all that a connection
knows of time. `SlowServer` is a server whose replies take their time; `SlowServer.connection` sees
of each reply what comes within the limit of one call. `SlowServer.logged` is the same server with a
list of all that it was asked and has sent (`delivers_logged_iff`).
-/

namespace ClusterInventory.Api

/-- A result of which a part has been evaluated. -/
theorem exists_ok_of_map {ε α β : Type} {x : Except ε α} {f : α → β} {b : β}
    (h : x.toOption.map f = some b) : ∃ a, x = .ok a ∧ f a = b := by
  obtain ⟨a, ha, hf⟩ := Option.map_eq_some_iff.1 h
  cases x with
  | error e => cases ha
  | ok a' =>
    cases ha
    exact ⟨a, rfl, hf⟩

/-- What is sent in reply to a request, and how long it takes to come. -/
structure Delivery where
  request : Request
  reply : Reply
  wait : Duration

/-- A server whose replies take time. A reply that never comes is `Reply.silence`. -/
abbrev SlowServer (σ : Type) := Request → σ → (Reply × Duration) × σ

namespace Delivery

variable {α : Type} {d : Delivery} {limit : Duration} {decode : Decoder α}

def InTime (limit : Duration) (d : Delivery) : Prop := d.wait.nanoseconds ≤ limit.nanoseconds

instance : Decidable (d.InTime limit) := Nat.decLe _ _

/-- What is seen of a delivery by a call that gives up after so long. -/
def seen (limit : Duration) (d : Delivery) : Reply := if d.InTime limit then d.reply else .silence

/-- What such a call reads. -/
def read (limit : Duration) (decode : Decoder α) (d : Delivery) : Except CallError α :=
  (d.seen limit).read limit decode

theorem read_of_late (h : ¬d.InTime limit) : d.read limit decode = .error (.timeout limit) := by
  rw [read, seen, if_neg h]
  rfl

theorem read_of_inTime (h : d.InTime limit) : d.read limit decode = d.reply.read limit decode := by
  rw [read, seen, if_pos h]

/-- Nothing is read from a delivery that comes too late. -/
theorem inTime_of_read {a : α} (h : d.read limit decode = .ok a) : d.InTime limit := by
  apply Decidable.byContradiction
  intro hlate
  rw [read_of_late hlate] at h
  cases h

end Delivery

/-- A good answer was read: it has no error code, and its body is as expected. -/
theorem Reply.read_eq_ok_iff {α : Type} {limit : Duration} {decode : Decoder α} {reply : Reply}
    {a : α} :
    reply.read limit decode = .ok a ↔
      ∃ code body, reply = .answer code body ∧ isErrorCode code = false ∧
        (Json.parse? body).bind decode = some a := by
  constructor
  · intro h
    cases reply with
    | silence => cases h
    | unsent message causes => cases h
    | answer code body =>
      simp only [Reply.read] at h
      split at h
      · cases h
      · next hcode =>
        split at h
        · next a hbody =>
          cases h
          exact ⟨code, body, rfl, Bool.eq_false_iff.2 hcode, hbody⟩
        · cases h
  · rintro ⟨code, body, rfl, hcode, hbody⟩
    simp [Reply.read, hcode, hbody]

namespace SlowServer

variable {σ α : Type} (s : SlowServer σ)

/-- The delivery to a request. -/
def deliver (r : Request) (world : σ) : Delivery :=
  { request := r, reply := (s r world).1.1, wait := (s r world).1.2 }

/-- A connection on which every call gives up after the same time, each counted from its own
start. -/
def connection (limit : Duration) (asUser : Option String) : Connection σ :=
  { server := fun r world => ((s.deliver r world).seen limit, (s r world).2)
    timeout := limit, asUser }

/-- The same server, with a list of what it delivered. -/
def logged : SlowServer (σ × List Delivery) := fun r w =>
  ((s r w.1).1, (s r w.1).2, w.2 ++ [s.deliver r w.1])

/-- The server makes these deliveries, to the requests in them, one after the other. -/
inductive Delivers : σ → List Delivery → σ → Prop
  | nil (world : σ) : Delivers world [] world
  | cons {r : Request} {world world' : σ} {ds : List Delivery} :
    Delivers (s r world).2 ds world' → Delivers world (s.deliver r world :: ds) world'

variable {s}

/-- A server that keeps a list has in it what it delivered, and is the same otherwise. -/
theorem delivers_logged_iff {w w' : σ × List Delivery} {ds : List Delivery} :
    s.logged.Delivers w ds w' ↔ s.Delivers w.1 ds w'.1 ∧ w'.2 = w.2 ++ ds := by
  constructor
  · intro h
    induction h with
    | nil w => exact ⟨.nil w.1, (List.append_nil w.2).symm⟩
    | cons _ ih =>
      obtain ⟨hds, hlog⟩ := ih
      exact ⟨.cons hds, by rw [hlog]; exact List.append_assoc ..⟩
  · obtain ⟨world, log⟩ := w
    obtain ⟨world', log'⟩ := w'
    rintro ⟨h, hlog⟩
    simp only at h hlog
    subst hlog
    induction h generalizing log with
    | nil world =>
      rw [List.append_nil]
      exact .nil (world, log)
    | @cons r world world' ds _ ih =>
      have hrest := ih (log ++ [s.deliver r world])
      rw [List.append_assoc] at hrest
      exact .cons hrest

/-- A call sends one request, in the name of the user, and reads what it sees of the delivery. -/
theorem call_eq (s : SlowServer σ) (limit : Duration) (asUser : Option String) (r : Request)
    (decode : Decoder α) (world : σ) :
    (s.connection limit asUser).call r decode world =
      ((s.deliver { r with asUser } world).read limit decode, (s { r with asUser } world).2) :=
  rfl

end SlowServer

end ClusterInventory.Api
