import Mathlib.Data.Fintype.Pigeonhole
import ClusterInventory.Proofs.Collection.Failures

/-!
# Listings that never end

A listing is asked for as long as the server hands out tokens, and a server may do so for ever.
`Listing.standing?` tells where a listing stands after so many pages if another one follows. A
listing ends exactly when it stands nowhere at some point (`all_eq_none_iff`), which it never does
when it comes back to where it has been (`all_eq_none_of_repeated`). A cycle asks for its listings
in turn, and does not end when one of them does not (`runCycle_eq_none`).
-/

namespace ClusterInventory

namespace Api

/-- A connection to a server whose reply to a request is always the same. -/
def Connection.ofReplies (reply : Request → Reply) (limit : Duration) (asUser : Option String) :
    Connection Unit :=
  { server := fun r world => (reply r, world), timeout := limit, asUser }

namespace Listing

variable {σ α : Type}

/-- Where a listing stands: the token of the page to ask for next, and the world. -/
abbrev Standing (σ : Type) := Option String × σ

/-- Where the next page leads to, if one follows that. -/
def advance? (l : Listing α) (c : Connection σ) (here : Standing σ) : Option (Standing σ) :=
  match l.page c here.1 here.2 with
  | (.ok p, world) => p.next?.map fun t => (some t, world)
  | (.error _, _) => none

/-- Where a listing stands after so many pages, if another one follows each of them. -/
def standing? (l : Listing α) (c : Connection σ) : Nat → Standing σ → Option (Standing σ)
  | 0, here => some here
  | n + 1, here => (l.advance? c here).bind (l.standing? c n)

section Standing

variable {l : Listing α} {c : Connection σ} {here there : Standing σ} {m n : Nat}

theorem standing?_add (l : Listing α) (c : Connection σ) (m n : Nat) (here : Standing σ) :
    l.standing? c (m + n) here = (l.standing? c m here).bind (l.standing? c n) := by
  induction m generalizing here with
  | zero => rw [Nat.zero_add]; rfl
  | succ m ih =>
    rw [Nat.succ_add, standing?, standing?, Option.bind_assoc]
    exact congrArg _ (funext ih)

/-- A listing that goes on for long goes on before. -/
theorem isSome_standing?_of_le (h : (l.standing? c n here).isSome) (hmn : m ≤ n) :
    (l.standing? c m here).isSome := by
  obtain ⟨k, rfl⟩ := Nat.exists_eq_add_of_le hmn
  rw [standing?_add] at h
  cases hm : l.standing? c m here with
  | some _ => rfl
  | none =>
    rw [hm] at h
    cases h

/-- What leads back to itself does so however often. -/
theorem standing?_mul (h : l.standing? c n there = some there) (k : Nat) :
    l.standing? c (n * k) there = some there := by
  induction k with
  | zero => rfl
  | succ k ih => rw [Nat.mul_succ, standing?_add, ih, Option.bind_some, h]

theorem isSome_standing?_of_repeated {i j : Nat} (hij : i < j)
    (hi : l.standing? c i here = some there) (hj : l.standing? c j here = some there) (n : Nat) :
    (l.standing? c n here).isSome := by
  obtain ⟨d, rfl⟩ := Nat.exists_eq_add_of_lt hij
  rw [Nat.add_assoc, standing?_add, hi, Option.bind_some] at hj
  -- so many rounds more, and the listing stands there still
  have hround : l.standing? c (i + (d + 1) * n) here = some there := by
    rw [standing?_add, hi, Option.bind_some, standing?_mul hj]
  refine isSome_standing?_of_le (n := i + (d + 1) * n) (by rw [hround]; rfl) ?_
  calc n ≤ (d + 1) * n := Nat.le_mul_of_pos_left n (Nat.succ_pos d)
    _ ≤ i + (d + 1) * n := Nat.le_add_left ..

/-- So many pages are not enough for a listing exactly when another one follows them. -/
theorem after_eq_none_iff :
    l.after c n here.1 here.2 = none ↔ (l.standing? c n here).isSome = true := by
  induction n generalizing here with
  | zero => simp [after, standing?]
  | succ n ih =>
    rw [after, standing?, advance?]
    rcases l.page c here.1 here.2 with ⟨e | p, world⟩
    · simp
    · cases hnext : p.next? with
      | none => simp [hnext]
      | some t => simp [hnext, ← ih]

theorem all_eq_none_iff {world : σ} :
    l.all c n world = none ↔ (l.standing? c n (none, world)).isSome = true :=
  @after_eq_none_iff _ _ l c (none, world) n

/-- A listing that comes back to where it has stood does not end. -/
theorem all_eq_none_of_repeated {world : σ} {i j : Nat} (hij : i < j)
    (hi : l.standing? c i (none, world) = some there)
    (hj : l.standing? c j (none, world) = some there) (n : Nat) : l.all c n world = none :=
  all_eq_none_iff.2 (isSome_standing?_of_repeated hij hi hj n)

/-- After a page a listing stands at the token that it was handed out there. -/
theorem exists_token_of_standing? (h : l.standing? c (n + 1) here = some there) :
    ∃ t, there.1 = some t := by
  rw [standing?_add] at h
  obtain ⟨before, -, h⟩ := Option.bind_eq_some_iff.1 h
  obtain ⟨_, hadvance, h⟩ := Option.bind_eq_some_iff.1 h
  cases h
  unfold advance? at hadvance
  split at hadvance
  · obtain ⟨t, -, rfl⟩ := Option.map_eq_some_iff.1 hadvance
    exact ⟨t, rfl⟩
  · cases hadvance

end Standing

/-- Where nothing but the request decides on the reply, and there are so many tokens and no more, a
listing that does not end is handed out one of them twice. -/
theorem exists_repeated_of_endless {l : Listing α} {c : Connection Unit} {tokens : List String}
    (htokens : ∀ k t, l.standing? c k (none, ()) = some (some t, ()) → t ∈ tokens)
    (hendless : ∀ n, l.all c n () = none) :
    ∃ i j t, i < j ∧ l.standing? c i (none, ()) = some (some t, ()) ∧
      l.standing? c j (none, ()) = some (some t, ()) := by
  have hhanded (k : Nat) : ∃ t, l.standing? c (k + 1) (none, ()) = some (some t, ()) := by
    obtain ⟨there, hthere⟩ := Option.isSome_iff_exists.1 (all_eq_none_iff.1 (hendless (k + 1)))
    obtain ⟨t, ht⟩ := exists_token_of_standing? hthere
    exact ⟨t, hthere.trans (congrArg some (Prod.ext ht rfl))⟩
  choose handed hhanded using hhanded
  -- the tokens are fewer than the pages
  obtain ⟨i, j, hne, hsame⟩ := Finite.exists_ne_map_eq_of_infinite fun k =>
    (⟨handed k, htokens _ _ (hhanded k)⟩ : { t // t ∈ tokens })
  have hsame : handed i = handed j := congrArg Subtype.val hsame
  rcases Nat.lt_or_gt_of_ne hne with hlt | hgt
  · exact ⟨i + 1, j + 1, handed i, Nat.succ_lt_succ hlt, hhanded i, hsame ▸ hhanded j⟩
  · exact ⟨j + 1, i + 1, handed i, Nat.succ_lt_succ hgt, hsame ▸ hhanded j, hhanded i⟩

end Listing

end Api

namespace Collection

open Api (Calls Connection Handle Listing)

variable {σ α : Type}

/-- The listings that every cycle over a live cluster asks for, whatever that serves. -/
inductive AlwaysAsked : {α : Type} → Listing α → Prop
  | namespaces : AlwaysAsked .namespaces
  | nodes : AlwaysAsked .nodes
  | persistentVolumes : AlwaysAsked .persistentVolumes
  | storageClasses : AlwaysAsked .storageClasses
  | networkPolicies : AlwaysAsked .networkPolicies
  | deployments : AlwaysAsked .deployments
  | statefulSets : AlwaysAsked .statefulSets
  | replicaSets : AlwaysAsked .replicaSets
  | daemonSets : AlwaysAsked .daemonSets
  | cronJobs : AlwaysAsked .cronJobs
  | jobs : AlwaysAsked .jobs
  | pods : AlwaysAsked .pods

/-- Work comes to an end in some world. -/
def Ended (x : Calls σ α) : Prop := ∃ world a world', x world = some (a, world')

theorem Ended.of_bind {β : Type} {x : Calls σ α} {f : α → Calls σ β} (h : Ended (x >>= f)) :
    Ended x ∧ ∃ a, Ended (f a) := by
  obtain ⟨world, b, world', h⟩ := h
  obtain ⟨a, world₁, hx, hf⟩ := Calls.bind_eq_some.1 h
  exact ⟨⟨world, a, world₁, hx⟩, a, world₁, b, world', hf⟩

/-- A cluster has given all its answers only when these listings have ended. -/
theorem Ended.of_ask {h : Handle σ} (hask : Ended (Answers.ask h)) {l : Listing α}
    (hl : AlwaysAsked l) : Ended (h.all l) := by
  obtain ⟨-, _, hask⟩ := hask.of_bind
  obtain ⟨hnamespaces, _, hask⟩ := hask.of_bind
  obtain ⟨hnodes, _, hask⟩ := hask.of_bind
  obtain ⟨hstorage, _, hask⟩ := hask.of_bind
  obtain ⟨hpolicies, _, hask⟩ := hask.of_bind
  obtain ⟨-, _, hask⟩ := hask.of_bind
  obtain ⟨hworkloads, -⟩ := hask.of_bind
  obtain ⟨hvolumes, _, hstorage⟩ := hstorage.of_bind
  obtain ⟨hclasses, -⟩ := hstorage.of_bind
  obtain ⟨hlistings, -⟩ := hworkloads.of_bind
  obtain ⟨hdeployments, _, hlistings⟩ := hlistings.of_bind
  obtain ⟨hstatefulSets, _, hlistings⟩ := hlistings.of_bind
  obtain ⟨hreplicaSets, _, hlistings⟩ := hlistings.of_bind
  obtain ⟨hdaemonSets, _, hlistings⟩ := hlistings.of_bind
  obtain ⟨hcronJobs, _, hlistings⟩ := hlistings.of_bind
  obtain ⟨-, _, hlistings⟩ := hlistings.of_bind
  obtain ⟨hjobs, _, hlistings⟩ := hlistings.of_bind
  obtain ⟨hpods, -⟩ := hlistings.of_bind
  cases hl with
  | namespaces => exact hnamespaces
  | nodes => exact hnodes
  | persistentVolumes => exact hvolumes
  | storageClasses => exact hclasses
  | networkPolicies => exact hpolicies
  | deployments => exact hdeployments
  | statefulSets => exact hstatefulSets
  | replicaSets => exact hreplicaSets
  | daemonSets => exact hdaemonSets
  | cronJobs => exact hcronJobs
  | jobs => exact hjobs
  | pods => exact hpods

/-- A handle of a connection makes its calls on that. -/
theorem connection_of_acquire {c : Connection σ} {pages : Nat} {world world' : σ} {h : Handle σ}
    (hacquire : Handle.acquire c pages world = (.ok h, world')) :
    h.toConnection = c ∧ h.pages = pages := by
  rcases hdiscover : c.discover.run world with ⟨e | catalog, world''⟩ <;>
    simp only [Handle.acquire, hdiscover] at hacquire <;> cases hacquire
  exact ⟨rfl, rfl⟩

/-- A cycle over a live cluster does not end when one of these listings does not. -/
theorem runCycle_eq_none {c : Connection σ} {pages : Nat} {l : Listing α} (hl : AlwaysAsked l)
    (hendless : ∀ world, l.all c pages world = none) {o : Orchestrator σ}
    (ho : o.acquire = acquireLive (.ok c) pages) {world world₁ : σ} {domains : List (Domain σ)}
    (hacquire : acquireLive (.ok c) pages world = some (.value domains, world₁)) (now : Instant)
    (store : SnapshotStore) : o.runCycle now store world = none := by
  obtain ⟨c', handle, hc, hhandle, rfl⟩ := exists_handle_of_acquireLive hacquire
  cases hc
  rw [Option.eq_none_iff_forall_ne_some]
  rintro ⟨⟨outcome, store'⟩, world'⟩ hcycle
  obtain ⟨inv, world₂, -, hcollect, -⟩ :=
    (Orchestrator.runCycle_of_value (ho ▸ hacquire)).1 hcycle
  rw [collectAll_liveDomains] at hcollect
  have hask : Ended (Answers.ask handle) := (Ended.of_bind ⟨world₁, inv, world₂, hcollect⟩).1
  obtain ⟨w, _, _, hall⟩ := hask.of_ask hl
  obtain ⟨hconnection, hpages⟩ := connection_of_acquire hhandle
  rw [Handle.all, hconnection, hpages, hendless w] at hall
  cases hall

/-- Nor does a row of cycles. -/
theorem runCycles_eq_none {o : Orchestrator σ} {now : Instant} {store : SnapshotStore} {world : σ}
    (h : o.runCycle now store world = none) (rest : List Instant) :
    o.runCycles (now :: rest) store world = none := by
  rw [Option.eq_none_iff_forall_ne_some]
  rintro ⟨outcomes, world'⟩ hcycles
  obtain ⟨_, _, hcycle, -⟩ := Calls.bind_eq_some.1 hcycles
  rw [h] at hcycle
  cases hcycle

/-- Which listings end, where nothing but the request decides on the reply.

* So many pages are not enough exactly when another one follows them.
* A listing that is handed out a token for the second time does not end. Where there are so many
  tokens and no more, only such a listing does not end.
* While a listing does not end that every cycle asks for, neither does any cycle. -/
theorem listing_ends_iff (reply : Api.Request → Api.Reply) (limit : Duration)
    (asUser : Option String) :
    let c := Connection.ofReplies reply limit asUser
    (∀ {α : Type} (l : Listing α) (n : Nat),
      l.all c n () = none ↔ ∃ there, l.standing? c n (none, ()) = some there) ∧
    (∀ {α : Type} (l : Listing α) (i j : Nat) (t : String), i < j →
      l.standing? c i (none, ()) = some (some t, ()) →
      l.standing? c j (none, ()) = some (some t, ()) → ∀ n, l.all c n () = none) ∧
    (∀ {α : Type} (l : Listing α) (tokens : List String),
      (∀ k t, l.standing? c k (none, ()) = some (some t, ()) → t ∈ tokens) →
      (∀ n, l.all c n () = none) →
      ∃ i j t, i < j ∧ l.standing? c i (none, ()) = some (some t, ()) ∧
        l.standing? c j (none, ()) = some (some t, ())) ∧
    ∀ {α : Type} (l : Listing α), AlwaysAsked l → (∀ n, l.all c n () = none) →
      ∀ (pages : Nat) (o : Orchestrator Unit), o.acquire = acquireLive (.ok c) pages →
      ∀ domains, acquireLive (.ok c) pages () = some (.value domains, ()) →
      ∀ now rest store, o.runCycle now store () = none ∧
        o.runCycles (now :: rest) store () = none := by
  intro c
  refine ⟨fun l n => ?ends, fun l i j t hij hi hj => Listing.all_eq_none_of_repeated hij hi hj,
    fun l tokens => Listing.exists_repeated_of_endless, ?cycles⟩
  case ends => rw [Listing.all_eq_none_iff, Option.isSome_iff_exists]
  case cycles =>
    intro α l hl hendless pages o ho domains hacquire now rest store
    have hcycle := runCycle_eq_none hl (fun _ => hendless pages) ho hacquire now store
    exact ⟨hcycle, runCycles_eq_none hcycle rest⟩

/-- Replies of a cluster that has no namespaces, and hands out one token on every page of them. -/
def againReply (q : Api.Request) : Api.Reply :=
  if q.path = "/api/v1/namespaces" then
    .answer 200 r#"{"metadata":{"continue":"again"},"items":[]}"#
  else (bareServer q ()).1

def againConnection : Connection Unit := .ofReplies againReply (.ofSeconds 30) none

theorem discover_again : ∃ catalog, againConnection.discover.run () = (.ok catalog, ()) ∧
    catalog.byKind.isEmpty = true ∧ catalog.plurals.isEmpty = true :=
  exists_catalog_of_nothing (by decide +kernel)

/-- A cluster can keep a listing, and with it the collection, running for ever: all pages of its
namespaces hand out one token. -/
theorem again_endless :
    Listing.namespaces.standing? againConnection 1 (none, ()) = some (some "again", ()) ∧
    Listing.namespaces.standing? againConnection 2 (none, ()) = some (some "again", ()) ∧
    (∀ n, Listing.namespaces.all againConnection n () = none) ∧
    ∀ pages clientVersion,
      let o : Orchestrator Unit :=
        { acquire := acquireLive (.ok againConnection) pages, clientVersion }
      (∃ domains, o.acquire () = some (.value domains, ())) ∧
        ∀ now rest store, o.runCycles (now :: rest) store () = none := by
  have hfirst :
      Listing.namespaces.standing? againConnection 1 (none, ()) = some (some "again", ()) := by
    decide +kernel
  have hsecond :
      Listing.namespaces.standing? againConnection 2 (none, ()) = some (some "again", ()) := by
    decide +kernel
  have hendless := Listing.all_eq_none_of_repeated (Nat.lt_succ_self 1) hfirst hsecond
  refine ⟨hfirst, hsecond, hendless, fun pages clientVersion => ?_⟩
  obtain ⟨catalog, hdiscover, -⟩ := discover_again
  have hacquire : acquireLive (.ok againConnection) pages () =
      some (.value (liveDomains { againConnection with catalog, pages }), ()) := by
    simp only [acquireLive, Handle.acquire, hdiscover]
    rfl
  refine ⟨⟨_, hacquire⟩, fun now rest store => ?_⟩
  exact runCycles_eq_none
    (runCycle_eq_none .namespaces (fun _ => hendless pages) rfl hacquire now store) rest

end Collection

end ClusterInventory
