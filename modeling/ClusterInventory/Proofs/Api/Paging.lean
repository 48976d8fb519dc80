import ClusterInventory.Collection.Listings
import ClusterInventory.Proofs.Api.Deliveries
import ClusterInventory.Proofs.Api.Requests

/-!
# What a listing gives, page by page

`Listing.Course` tells how a listing goes: from the token of each page the next one is asked for, up
to a page that none follows or to the first one that cannot be had. A listing has an outcome exactly
when its course is short enough, and then the outcome is what the course has gathered, which is
everything or an error (`after_eq_some_iff`). What a course asks for, and when its pages come, is
read off it in `Course.requests`, `Course.pages_read` and `Course.ending`.
-/

namespace ClusterInventory.Api

namespace Listing

variable {σ α : Type}

/-- How a listing goes from the page of a token on: the deliveries, the pages read from them, and
the error at the page after these, if there is one. -/
inductive Course (l : Listing α) (limit : Duration) (asUser : Option String) :
    Option String → List Delivery → List (Page α) → Option CallError → Prop
  /-- The request for a page cannot be made. -/
  | unsent {token : Option String} {fault : Http.TargetFault}
    (request : l.request token = .error fault) :
    Course l limit asUser token [] [] (some (.unbuilt fault))
  | failed {token : Option String} {r : Request} {d : Delivery} {e : CallError}
    (request : l.request token = .ok r) (sent : d.request = { r with asUser })
    (read : d.read limit (Page.reader l.item).decoder = .error e) :
    Course l limit asUser token [d] [] (some e)
  | last {token : Option String} {r : Request} {d : Delivery} {p : Page α}
    (request : l.request token = .ok r) (sent : d.request = { r with asUser })
    (read : d.read limit (Page.reader l.item).decoder = .ok p) (next : p.next? = none) :
    Course l limit asUser token [d] [p] none
  | more {token : Option String} {r : Request} {d : Delivery} {p : Page α} {t : String}
    {ds : List Delivery} {ps : List (Page α)} {failure : Option CallError}
    (request : l.request token = .ok r) (sent : d.request = { r with asUser })
    (read : d.read limit (Page.reader l.item).decoder = .ok p) (next : p.next? = some t)
    (rest : Course l limit asUser (some t) ds ps failure) :
    Course l limit asUser token (d :: ds) (p :: ps) failure

/-- What pages come to: their items one after the other, or else the error after them. -/
def gathered (pages : List (Page α)) : Option CallError → Except CallError (List α)
  | some e => .error e
  | none => .ok (pages.flatMap (·.items))

theorem gathered_cons (p : Page α) (ps : List (Page α)) (failure : Option CallError) :
    gathered (p :: ps) failure = (gathered ps failure).map (p.items ++ ·) := by
  cases failure <;> rfl

/-- The number of pages that a course asks for. -/
def tries (pages : List (Page α)) (failure : Option CallError) : Nat :=
  pages.length + failure.toList.length

section Page

variable {l : Listing α} {token : Option String}

theorem page_of_unbuilt {fault : Http.TargetFault} (h : l.request token = .error fault)
    (c : Connection σ) (world : σ) :
    l.page c token world = (.error (.unbuilt fault), world) := by
  rw [page, h]

theorem page_of_request {r : Request} (h : l.request token = .ok r) (s : SlowServer σ)
    (limit : Duration) (asUser : Option String) (world : σ) :
    l.page (s.connection limit asUser) token world =
      ((s.deliver { r with asUser } world).read limit (Page.reader l.item).decoder,
        (s { r with asUser } world).2) := by
  rw [page, h]
  exact s.call_eq limit asUser r _ world

end Page

section After

variable {l : Listing α} {c : Connection σ} {n : Nat} {token : Option String} {world world' : σ}
  {p : Page α}

theorem after_of_error {e : CallError} (h : l.page c token world = (.error e, world')) :
    l.after c (n + 1) token world = some (.error e, world') := by
  rw [after, h]

theorem after_of_last (h : l.page c token world = (.ok p, world')) (hnext : p.next? = none) :
    l.after c (n + 1) token world = some (.ok p.items, world') := by
  rw [after, h]
  simp only [hnext]

theorem after_of_next {t : String} (h : l.page c token world = (.ok p, world'))
    (hnext : p.next? = some t) :
    l.after c (n + 1) token world =
      (l.after c n (some t) world').map fun (rest, world) => (rest.map (p.items ++ ·), world) := by
  rw [after, h]
  simp only [hnext]

end After

section Course

variable {l : Listing α} {s : SlowServer σ} {limit : Duration} {asUser : Option String}
  {token : Option String} {ds : List Delivery} {ps : List (Page α)} {failure : Option CallError}
  {world world' : σ} {n : Nat}

/-- A listing whose course is no longer than it may be has the outcome that its course comes to. -/
theorem Course.after (h : l.Course limit asUser token ds ps failure)
    (hs : s.Delivers world ds world') (hn : tries ps failure ≤ n) :
    l.after (s.connection limit asUser) n token world = some (gathered ps failure, world') := by
  induction h generalizing n world with
  | unsent request =>
    obtain ⟨n, rfl⟩ := Nat.exists_eq_add_of_le' hn
    cases hs
    exact after_of_error (page_of_unbuilt request _ _)
  | failed request sent read =>
    obtain ⟨n, rfl⟩ := Nat.exists_eq_add_of_le' hn
    cases hs with
    | cons hs =>
      cases hs
      cases sent
      exact after_of_error ((page_of_request request ..).trans (congrArg (·, _) read))
  | @last _ _ _ p request sent read next =>
    obtain ⟨n, rfl⟩ := Nat.exists_eq_add_of_le' hn
    cases hs with
    | cons hs =>
      cases hs
      cases sent
      have hpage := (page_of_request request s limit asUser world).trans (congrArg (·, _) read)
      rw [show gathered [p] none = .ok p.items by simp [gathered]]
      exact after_of_last hpage next
  | @more _ _ _ p t ds ps failure request sent read next rest ih =>
    have hlength : tries (p :: ps) failure = tries ps failure + 1 := by
      simp only [tries, List.length_cons]
      omega
    rw [hlength] at hn
    obtain ⟨n, rfl⟩ := Nat.exists_eq_add_one.2 (Nat.lt_of_lt_of_le (Nat.succ_pos _) hn)
    cases hs with
    | cons hs =>
      cases sent
      have hpage := (page_of_request request s limit asUser world).trans (congrArg (·, _) read)
      rw [after_of_next hpage next, ih hs (Nat.le_of_succ_le_succ hn), gathered_cons]
      rfl

/-- Every listing with an outcome has a course. -/
theorem exists_course {outcome : Except CallError (List α)}
    (h : l.after (s.connection limit asUser) n token world = some (outcome, world')) :
    ∃ ds ps failure, l.Course limit asUser token ds ps failure ∧ s.Delivers world ds world' ∧
      tries ps failure ≤ n ∧ outcome = gathered ps failure := by
  induction n generalizing token world outcome with
  | zero => cases h
  | succ n ih =>
    cases hrequest : l.request token with
    | error fault =>
      rw [after_of_error (page_of_unbuilt hrequest _ _)] at h
      cases h
      exact ⟨[], [], some (.unbuilt fault), .unsent hrequest, .nil _, Nat.le_add_left .., rfl⟩
    | ok r =>
      have hpage := page_of_request hrequest s limit asUser world
      have hd := SlowServer.Delivers.cons (s := s) (r := { r with asUser }) (.nil (s _ world).2)
      cases hread : (s.deliver { r with asUser } world).read limit (Page.reader l.item).decoder with
      | error e =>
        rw [hread] at hpage
        rw [after_of_error hpage] at h
        cases h
        exact ⟨_, [], some e, .failed hrequest rfl hread, hd, Nat.le_add_left .., rfl⟩
      | ok p =>
        rw [hread] at hpage
        cases hnext : p.next? with
        | none =>
          rw [after_of_last hpage hnext] at h
          cases h
          refine ⟨_, [p], none, .last hrequest rfl hread hnext, hd, Nat.le_add_left .., ?_⟩
          simp [gathered]
        | some t =>
          rw [after_of_next hpage hnext] at h
          obtain ⟨⟨rest, world''⟩, hrest, heq⟩ := Option.map_eq_some_iff.1 h
          cases heq
          obtain ⟨ds, ps, failure, hcourse, hds, hn, rfl⟩ := ih hrest
          refine ⟨_, p :: ps, failure, .more hrequest rfl hread hnext hcourse, .cons hds, ?_,
            (gathered_cons p ps failure).symm⟩
          simp only [tries, List.length_cons] at hn ⊢
          omega

theorem after_eq_some_iff {outcome : Except CallError (List α)} :
    l.after (s.connection limit asUser) n token world = some (outcome, world') ↔
      ∃ ds ps failure, l.Course limit asUser token ds ps failure ∧ s.Delivers world ds world' ∧
        tries ps failure ≤ n ∧ outcome = gathered ps failure := by
  constructor
  · exact exists_course
  · rintro ⟨ds, ps, failure, hcourse, hds, hn, rfl⟩
    exact hcourse.after hds hn

/-- The requests for the pages of tokens, as far as they can be made. -/
def requestsFor (l : Listing α) (asUser : Option String) (tokens : List (Option String)) :
    List Request :=
  tokens.filterMap fun token => (l.request token).toOption.map fun r => { r with asUser }

/-- The first request is for the page of the token that the course begins with, and each later one
for that of the token on the page before. -/
theorem Course.requests (h : l.Course limit asUser token ds ps failure) :
    ds.map (·.request) =
      l.requestsFor asUser (token :: (ps.filterMap (·.next?)).map some) := by
  induction h with
  | unsent request => simp [requestsFor, request, Except.toOption]
  | failed request sent read => simp [requestsFor, request, sent, Except.toOption]
  | last request sent read next => simp [requestsFor, request, sent, next, Except.toOption]
  | more request sent read next rest ih =>
    rw [List.map_cons, ih, sent, List.filterMap_cons_some next, List.map_cons]
    simp [requestsFor, request, Except.toOption]

/-- Each page was read from a delivery of its own, and that came in time. -/
theorem Course.pages_read (h : l.Course limit asUser token ds ps failure) :
    (ds.take ps.length).map (Delivery.read limit (Page.reader l.item).decoder) = ps.map .ok ∧
      ∀ d ∈ ds.take ps.length, d.InTime limit := by
  induction h with
  | unsent request => simp
  | failed request sent read => simp
  | last request sent read next => simp [read, Delivery.inTime_of_read read]
  | more request sent read next rest ih =>
    obtain ⟨hread, hintime⟩ := ih
    refine ⟨by simp [read, hread], ?_⟩
    rintro d (_ | ⟨_, hd⟩)
    · exact Delivery.inTime_of_read read
    · exact hintime d hd

/-- The token of the page to ask for after pages. -/
def tokenAfter (token : Option String) (pages : List (Page α)) : Option String :=
  pages.getLast?.elim token (·.next?)

theorem tokenAfter_cons (token : Option String) (p : Page α) (ps : List (Page α)) :
    tokenAfter token (p :: ps) = tokenAfter p.next? ps := by
  rw [tokenAfter, tokenAfter, List.getLast?_cons]
  cases ps.getLast? <;> rfl

/-- A course without an error ends with a page that no other follows. One with an error ends there:
with the delivery that it was read from, or else because the next request cannot be made. -/
theorem Course.ending (h : l.Course limit asUser token ds ps failure) :
    (failure = none → ds.length = ps.length ∧ ∃ p, ps.getLast? = some p ∧ p.next? = none) ∧
    ∀ e, failure = some e →
      (∃ d, ds = ds.take ps.length ++ [d] ∧
        d.read limit (Page.reader l.item).decoder = .error e) ∨
      (ds.length = ps.length ∧ ∃ fault, e = .unbuilt fault ∧
        l.request (tokenAfter token ps) = .error fault) := by
  induction h with
  | @unsent token fault request =>
    refine ⟨nofun, ?_⟩
    rintro e ⟨⟩
    exact .inr ⟨rfl, fault, rfl, request⟩
  | @failed _ _ d _ request sent read =>
    refine ⟨nofun, ?_⟩
    rintro e ⟨⟩
    exact .inl ⟨d, rfl, read⟩
  | @last _ _ _ p request sent read next => exact ⟨fun _ => ⟨rfl, p, rfl, next⟩, nofun⟩
  | @more _ _ d p _ ds ps failure request sent read next rest ih =>
    rw [tokenAfter_cons, next]
    obtain ⟨hlast, hfailure⟩ := ih
    constructor
    · intro hnone
      obtain ⟨hlength, q, hq, hnext⟩ := hlast hnone
      exact ⟨congrArg (· + 1) hlength, q, by rw [List.getLast?_cons, hq]; rfl, hnext⟩
    · intro e he
      rcases hfailure e he with ⟨d', hds, hread⟩ | ⟨hlength, hfault⟩
      · exact .inl ⟨d', congrArg (d :: ·) hds, hread⟩
      · exact .inr ⟨congrArg (· + 1) hlength, hfault⟩

end Course

/-- A listing at a mere path is asked for there, with the query that its pages need. -/
theorem request_of_path {l : Listing α} {token : Option String}
    (hpath : l.target.toList.all Http.isPathChar = true)
    (hfit : (l.target ++ "?").utf8ByteSize + Text.pairsSize (l.query token) ≤ Http.maxUriSize) :
    l.request token = .ok { path := l.target, query := l.query token } :=
  Request.ofQuery_of_path (.inr rfl) hpath hfit

section OrEmpty

variable {l : Listing α} {c : Connection σ} {n : Nat} {world world' : σ}

theorem allOrEmpty_of_ok {items : List α} (h : l.all c n world = some (.ok items, world')) :
    l.allOrEmpty c n world = some (.ok items, world') := by
  rw [allOrEmpty, h]
  rfl

/-- An error by which the listing is not there makes it empty, and any other one is passed on. -/
theorem allOrEmpty_of_error {e : CallError} (h : l.all c n world = some (.error e, world')) :
    (∃ status, e = .status status ∧ status.code = 404) ∧
        l.allOrEmpty c n world = some (.ok [], world') ∨
      (¬∃ status, e = .status status ∧ status.code = 404) ∧
        l.allOrEmpty c n world = some (.error e, world') := by
  rw [allOrEmpty, h]
  rcases e with waited | status | ⟨message, causes⟩
  · exact .inr ⟨by simp, rfl⟩
  · by_cases hcode : status.code = 404
    · exact .inl ⟨⟨status, rfl, hcode⟩, by simp [absentAsEmpty, CallError.isNotFound, hcode]⟩
    · exact .inr ⟨by simp [hcode], by simp [absentAsEmpty, CallError.isNotFound, hcode]⟩
  · exact .inr ⟨by simp, rfl⟩

end OrEmpty

/-- A listing over a server whose replies take time gives everything or an error.

Its outcome is what its course gathers, whenever it may ask for as many pages as its course does:
the items of all pages one after the other, or the error of the first page that cannot be had. The
first page is asked for without a token and each later one with that of the page before; nothing
else is asked, and each page has come within the limit of its own call. Where the listing stands in
the path alone, the pairs of its query are those that select, that bound a page and that go on.
Without an error for what is not there, the listing is the same, only that it is empty exactly where
the error is one of the API with the code 404. -/
theorem all_logged_iff (l : Listing α) (s : SlowServer σ) (limit : Duration)
    (asUser : Option String) (world : σ) :
    let c := s.logged.connection limit asUser
    (∀ n outcome world' log,
      l.all c n (world, []) = some (outcome, world', log) ↔
        ∃ ps failure, l.Course limit asUser none log ps failure ∧ s.Delivers world log world' ∧
          tries ps failure ≤ n ∧ outcome = gathered ps failure) ∧
    (∀ log ps failure, l.Course limit asUser none log ps failure →
      log.map (·.request) = l.requestsFor asUser (none :: (ps.filterMap (·.next?)).map some) ∧
      (log.take ps.length).map (Delivery.read limit (Page.reader l.item).decoder) = ps.map .ok ∧
      (∀ d ∈ log.take ps.length, d.InTime limit) ∧
      (failure = none → log.length = ps.length ∧ ∃ p, ps.getLast? = some p ∧ p.next? = none) ∧
      ∀ e, failure = some e →
        (∃ d, log = log.take ps.length ++ [d] ∧
          d.read limit (Page.reader l.item).decoder = .error e) ∨
        (log.length = ps.length ∧ ∃ fault, e = .unbuilt fault ∧
          l.request (tokenAfter none ps) = .error fault)) ∧
    ('#' ∉ l.target.toList → ∃ path own, ∀ token r, l.request token = .ok r →
      r.path = path ∧
      r.query = own ++ (l.selector.map fun text => ("labelSelector", text)).toList ++
        (l.limit.map fun most => ("limit", String.ofList (Text.decimal most))).toList ++
        (token.map fun text => ("continue", text)).toList) ∧
    (∀ n w items, l.all c n (world, []) = some (.ok items, w) →
      l.allOrEmpty c n (world, []) = some (.ok items, w)) ∧
    (∀ n w e, l.all c n (world, []) = some (.error e, w) →
      (∃ status, e = .status status ∧ status.code = 404) ∧
          l.allOrEmpty c n (world, []) = some (.ok [], w) ∨
        (¬∃ status, e = .status status ∧ status.code = 404) ∧
          l.allOrEmpty c n (world, []) = some (.error e, w)) := by
  intro c
  refine ⟨?outcome, ?course, ?query, fun n w items => allOrEmpty_of_ok,
    fun n w e => allOrEmpty_of_error⟩
  case outcome =>
    intro n outcome world' log
    rw [all, after_eq_some_iff]
    constructor
    · rintro ⟨ds, ps, failure, hcourse, hds, hn, houtcome⟩
      obtain ⟨hds, hlog⟩ := SlowServer.delivers_logged_iff.1 hds
      obtain rfl : log = ds := hlog
      exact ⟨ps, failure, hcourse, hds, hn, houtcome⟩
    · rintro ⟨ps, failure, hcourse, hds, hn, houtcome⟩
      exact ⟨log, ps, failure, hcourse, SlowServer.delivers_logged_iff.2 ⟨hds, rfl⟩, hn, houtcome⟩
  case course =>
    intro log ps failure hcourse
    obtain ⟨hread, hintime⟩ := hcourse.pages_read
    exact ⟨hcourse.requests, hread, hintime, hcourse.ending⟩
  case query =>
    intro hmark
    have hfragment : '#' ∉ (l.target ++ "?").toList := by
      simpa [String.toList_append] using hmark
    obtain ⟨path, own, hparts⟩ := Request.exists_parts hfragment
    refine ⟨path, own, fun token r hr => ?_⟩
    rw [hparts (l.query token) r hr]
    exact ⟨rfl, by simp only [query, List.append_assoc]⟩

/-- A server with two pages of namespaces, each of which takes twenty seconds to come. -/
def twoPages : SlowServer Unit := fun q world =>
  let body :=
    if ("continue", "p2") ∈ q.query then
      r#"{"metadata":{"continue":""},"items":[{"metadata":{"name":"shop"}}]}"#
    else
      r#"{"metadata":{"continue":"p2"},"items":[{"metadata":{"name":"ops"}},{"metadata":{}}]}"#
  ((.answer 200 body, .ofSeconds 20), world)

/-- Both pages are listed within thirty seconds a page, though together they take longer. -/
theorem all_logged_iff_twoPages :
    ∃ items log,
      namespaces.all (twoPages.logged.connection (.ofSeconds 30) none) 2 ((), []) =
        some (.ok items, (), log) ∧
      items.map (·.objectMeta.name) = [some "ops", none, some "shop"] ∧
      log.map (·.request) = [{ path := "/api/v1/namespaces" },
        { path := "/api/v1/namespaces", query := [("continue", "p2")] }] := by
  let names : Page Object.Namespace → List (Option String) × Option String := fun p =>
    (p.items.map (·.objectMeta.name), p.next?)
  let read (r : Request) : Except CallError (Page Object.Namespace) :=
    (twoPages.deliver r ()).read (.ofSeconds 30) (Page.reader namespaces.item).decoder
  let r₁ : Request := { path := "/api/v1/namespaces" }
  let r₂ : Request := { path := "/api/v1/namespaces", query := [("continue", "p2")] }
  have hrequest₁ : namespaces.request none = .ok r₁ :=
    request_of_path (by decide +kernel) (by decide +kernel)
  have hrequest₂ : namespaces.request (some "p2") = .ok r₂ :=
    request_of_path (by decide +kernel) (by decide +kernel)
  obtain ⟨p₁, hread₁, hp₁⟩ : ∃ p, read r₁ = .ok p ∧ names p = ([some "ops", none], some "p2") :=
    exists_ok_of_map (by decide +kernel)
  obtain ⟨p₂, hread₂, hp₂⟩ : ∃ p, read r₂ = .ok p ∧ names p = ([some "shop"], none) :=
    exists_ok_of_map (by decide +kernel)
  obtain ⟨hitems₁, hnext₁⟩ := Prod.mk.inj hp₁
  obtain ⟨hitems₂, hnext₂⟩ := Prod.mk.inj hp₂
  have hcourse : namespaces.Course (.ofSeconds 30) none none
      [twoPages.deliver r₁ (), twoPages.deliver r₂ ()] [p₁, p₂] none :=
    .more hrequest₁ rfl hread₁ hnext₁ (.last hrequest₂ rfl hread₂ hnext₂)
  obtain ⟨houtcome, -⟩ := all_logged_iff namespaces twoPages (.ofSeconds 30) none ()
  refine ⟨_, _, (houtcome 2 _ () _).2
    ⟨_, _, hcourse, .cons (.cons (.nil ())), Nat.le_refl 2, rfl⟩, ?_, rfl⟩
  simp [hitems₁, hitems₂]

end Listing

end ClusterInventory.Api
