import ClusterInventory.Proofs.Collection.Failures
import ClusterInventory.Proofs.Collection.Simulation
import Mathlib.Data.List.Perm.Basic

/-!
# No domain depends on another one

Each of the seven domains of a live cluster is in charge of one `Part` of the inventory: it reads
and writes nothing else there (`collect_domain`). What it does with its part, `Part.work`, depends
on the answers to its own requests alone (`follows_work`). On clusters that answer the same request
always in the same way it follows that the order of the domains does not matter, and that each part
is the same for all clusters that answer its own requests alike (`domains_independent`).
-/

namespace ClusterInventory.Collection

open Api (CallError Calls Handle Listing Reply Request Server)

variable {σ τ α β : Type}

/-! ## Parts of an inventory -/

/-- The parts of an inventory that domains are in charge of. -/
inductive Part where
  | cluster | namespaces | nodes | storage | networkPolicies | customResources | workloads
  deriving DecidableEq

namespace Part

def all : List Part :=
  [cluster, namespaces, nodes, storage, networkPolicies, customResources, workloads]

def Content : Part → Type
  | cluster => Record.Cluster
  | namespaces => List Record.Namespace
  | nodes => List Record.Node
  | storage => Record.Storage
  | networkPolicies => List Record.NetworkPolicy
  | customResources => Record.CustomResources
  | workloads => List Record.Workload

def get : (p : Part) → Inventory → p.Content
  | cluster, inv => inv.cluster
  | namespaces, inv => inv.namespaces
  | nodes, inv => inv.nodes
  | storage, inv => inv.storage
  | networkPolicies, inv => inv.networkPolicies
  | customResources, inv => inv.customResources
  | workloads, inv => inv.workloads

def put : (p : Part) → Inventory → p.Content → Inventory
  | cluster, inv, c => { inv with cluster := c }
  | namespaces, inv, c => { inv with namespaces := c }
  | nodes, inv, c => { inv with nodes := c }
  | storage, inv, c => { inv with storage := c }
  | networkPolicies, inv, c => { inv with networkPolicies := c }
  | customResources, inv, c => { inv with customResources := c }
  | workloads, inv, c => { inv with workloads := c }

/-- The domain that is in charge of a part. -/
def domain (h : Handle σ) : Part → Domain σ
  | cluster => clusterFacts h
  | namespaces => Collection.namespaces h
  | nodes => Collection.nodes h
  | storage => Collection.storage h
  | networkPolicies => Collection.networkPolicies h
  | customResources => Collection.customResources h
  | workloads => Collection.workloads h

theorem map_domain_all (h : Handle σ) : all.map (domain h) = liveDomains h := rfl

theorem mem_all (p : Part) : p ∈ all := by
  cases p <;> decide

theorem nodup_all : all.Nodup := by
  decide

@[simp]
theorem get_put (p : Part) (inv : Inventory) (c : p.Content) : p.get (p.put inv c) = c := by
  cases p <;> rfl

theorem get_put_of_ne {p q : Part} (h : q ≠ p) (inv : Inventory) (c : p.Content) :
    q.get (p.put inv c) = q.get inv := by
  cases p <;> cases q <;> first | exact absurd rfl h | rfl

theorem sameHead_put (p : Part) (inv : Inventory) (c : p.Content) :
    (p.put inv c).SameHead inv := by
  cases p <;> exact ⟨rfl, rfl, rfl, rfl, rfl⟩

@[simp]
theorem get_withErrors (p : Part) (inv : Inventory) (errors : List CollectError) :
    p.get (inv.withErrors errors) = p.get inv := by
  cases p <;> rfl

end Part

/-! ## What a domain does with its part -/

/-- Takes over the records of a listing, or keeps those from before. -/
def takeOver (h : Handle σ) (k : Kind α β) (l : Listing α) (before : List β) :
    Calls σ (List β × List CollectError) := do
  return recordsOf k.domain k.what k.subject k.record before (← h.list l)

/-- The new content of a part, given the one from before, and the errors on the way. -/
def Part.work (h : Handle σ) : (p : Part) → p.Content → Calls σ (p.Content × List CollectError)
  | cluster, c => do
    let (c, versionErrors) ← collectVersion h c
    let (c, noteErrors) ← collectNotes h c
    return (c, versionErrors ++ noteErrors)
  | namespaces, before => takeOver h Kind.namespaces Listing.namespaces before
  | nodes, before => takeOver h Kind.nodes Listing.nodes before
  | storage, before => do
    let (persistentVolumes, volumeErrors) ←
      takeOver h Kind.persistentVolumes Listing.persistentVolumes before.persistentVolumes
    let (storageClasses, classErrors) ←
      takeOver h Kind.storageClasses Listing.storageClasses before.storageClasses
    return ({ persistentVolumes, storageClasses }, volumeErrors ++ classErrors)
  | networkPolicies, before => takeOver h Kind.networkPolicies Listing.networkPolicies before
  | customResources, _ => do
    let a ← OperatorAnswers.ask h
    return (a.record h.catalog, a.failures.map (·.error))
  | workloads, _ => do
    let a ← WorkloadAnswers.ask h
    return (a.records, a.failures.map (·.error))

/-- A domain that only lists one kind. -/
theorem collect_takeOver (h : Handle σ) (name : String) (k : Kind α β) (l : Listing α)
    (before : Inventory → List β) (put : Inventory → List β → Inventory) (inv : Inventory) :
    (Domain.steady name fun inv => do
        let (records, errors) := recordsOf k.domain k.what k.subject k.record (before inv)
          (← h.list l)
        return (put inv records, errors)).collect inv =
      takeOver h k l (before inv) >>= fun r => pure (put inv r.1, .ok r.2) := by
  simp only [Domain.steady, takeOver, bind_assoc, pure_bind]

/-- A domain reads and writes nothing but its part, and never breaks off. -/
theorem collect_domain (h : Handle σ) (p : Part) (inv : Inventory) :
    (p.domain h).collect inv =
      p.work h (p.get inv) >>= fun r => pure (p.put inv r.1, .ok r.2) := by
  cases p with
  | cluster =>
    simp only [Part.domain, clusterFacts, Domain.steady, Part.work, bind_assoc, pure_bind]
    rfl
  | namespaces =>
    exact collect_takeOver h "namespaces" Kind.namespaces Listing.namespaces (·.namespaces)
      (fun inv records => { inv with namespaces := records }) inv
  | nodes =>
    exact collect_takeOver h "nodes" Kind.nodes Listing.nodes (·.nodes)
      (fun inv records => { inv with nodes := records }) inv
  | storage =>
    simp only [Part.domain, storage, Domain.steady, Part.work, takeOver, bind_assoc, pure_bind]
    rfl
  | networkPolicies =>
    exact collect_takeOver h "network_policies" Kind.networkPolicies Listing.networkPolicies
      (·.networkPolicies) (fun inv records => { inv with networkPolicies := records }) inv
  | customResources =>
    simp only [Part.domain, collect_customResources, Part.work, bind_assoc, pure_bind]
    rfl
  | workloads =>
    simp only [Part.domain, collect_workloads, Part.work, bind_assoc, pure_bind]
    rfl

/-! ## Work on two clusters -/

/-- Some domains use the catalog of what a cluster serves. -/
def Part.usesCatalog : Part → Bool
  | customResources => true
  | workloads => true
  | _ => false

section Follows

variable {good : σ → Prop} {h₁ : Handle σ} {h₂ : Handle τ} (hm : h₁.Matches good h₂)

include hm

theorem follows_all (l : Listing α) : Follows good Api.Unrelated (h₁.all l) (h₂.all l) :=
  Api.follows_after hm l hm.pages none

theorem follows_takeOver (k : Kind α β) (l : Listing α) (before : List β) :
    Follows good Api.Unrelated (takeOver h₁ k l before) (takeOver h₂ k l before) :=
  (Api.follows_list hm l).bind fun _ => .pure _

theorem follows_collectVersion (c : Record.Cluster) :
    Follows good Api.Unrelated (collectVersion h₁ c) (collectVersion h₂ c) := by
  refine (Api.tracks_call hm _ _).follows.bind fun info => ?_
  rcases info with e | info
  · exact .pure _
  · exact (Api.follows_list hm _).bind fun _ => .pure _

theorem follows_collectNotes (c : Record.Cluster) :
    Follows good Api.Unrelated (collectNotes h₁ c) (collectNotes h₂ c) := by
  rw [collectNotes_eq, collectNotes_eq]
  exact (Api.tracks_page hm _ none).follows.bind fun _ => .pure _

theorem follows_askServed (l : Option (Listing α)) :
    Follows good Api.Unrelated (askServed h₁ l) (askServed h₂ l) := by
  cases l with
  | none => exact .pure _
  | some l => exact (follows_all hm l).bind fun _ => .pure _

variable (hcatalog : h₁.catalog = h₂.catalog)

include hcatalog

theorem follows_askKind (present : Bool) (apiVersion kind : String) :
    Follows good Api.Unrelated (OperatorAnswers.askKind h₁ present apiVersion kind)
      (OperatorAnswers.askKind h₂ present apiVersion kind) := by
  unfold OperatorAnswers.askKind Handle.listing?
  rw [← hcatalog]
  exact follows_askServed hm _

theorem follows_askCalico (present : Bool) :
    Follows good Api.Unrelated (OperatorAnswers.askCalico h₁ present)
      (OperatorAnswers.askCalico h₂ present) := by
  unfold OperatorAnswers.askCalico
  rw [← hcatalog]
  split
  · exact (Api.tracks_getObject hm _).follows.bind fun _ => .pure _
  · exact .pure _

theorem follows_askOperators :
    Follows good Api.Unrelated (OperatorAnswers.ask h₁) (OperatorAnswers.ask h₂) := by
  unfold OperatorAnswers.ask
  rw [← hcatalog]
  exact (follows_askKind hm hcatalog _ _ _).bind fun _ =>
    (follows_askKind hm hcatalog _ _ _).bind fun _ =>
    (follows_askKind hm hcatalog _ _ _).bind fun _ =>
    (follows_askKind hm hcatalog _ _ _).bind fun _ =>
    (follows_askCalico hm hcatalog _).bind fun _ => .pure _

theorem follows_askEarlier (present : Except CallError (List Object.CronJob)) :
    Follows good Api.Unrelated (WorkloadListings.askEarlier h₁ present)
      (WorkloadListings.askEarlier h₂ present) := by
  unfold WorkloadListings.askEarlier Handle.listing?
  rw [← hcatalog]
  exact follows_askServed hm _

theorem follows_askListings :
    Follows good Api.Unrelated (WorkloadListings.ask h₁) (WorkloadListings.ask h₂) :=
  (follows_all hm _).bind fun _ => (follows_all hm _).bind fun _ =>
    (follows_all hm _).bind fun _ => (follows_all hm _).bind fun _ =>
    (follows_all hm _).bind fun _ => (follows_askEarlier hm hcatalog _).bind fun _ =>
    (follows_all hm _).bind fun _ => (follows_all hm _).bind fun _ => .pure _

/-- A session begins with nothing remembered, in whatever world. -/
theorem follows_searchAll (srcs : List Workloads.Source) :
    Follows good Api.Unrelated
      (fun world =>
        let (searches, s) := Workloads.searchAll h₁.lookup srcs (.start world)
        some (searches, s.world))
      (fun world =>
        let (searches, s) := Workloads.searchAll h₂.lookup srcs (.start world)
        some (searches, s.world)) := by
  have hsearch := Workloads.tracks_searchAll
    (Ownership.tracks_lookup (Api.tracks_lookup hm hcatalog)) srcs
  refine Tracks.follows (f := fun world => ((Workloads.searchAll h₁.lookup srcs (.start world)).1,
    (Workloads.searchAll h₁.lookup srcs (.start world)).2.world)) (g := fun world =>
    ((Workloads.searchAll h₂.lookup srcs (.start world)).1,
    (Workloads.searchAll h₂.lookup srcs (.start world)).2.world)) fun w hgood => ?_
  obtain ⟨hgood', hanswers⟩ := hsearch (.start w) hgood
  exact ⟨hgood', fun v _ => ⟨(hanswers (.start v) rfl).1, trivial⟩⟩

theorem follows_askWorkloads :
    Follows good Api.Unrelated (WorkloadAnswers.ask h₁) (WorkloadAnswers.ask h₂) :=
  (follows_askListings hm hcatalog).bind fun listings =>
    (follows_searchAll hm hcatalog listings.objects.sources).bind fun _ => .pure _

end Follows

/-- What a domain does depends on the answers to its own requests alone, and on the catalog if it
uses that. -/
theorem follows_work {good : σ → Prop} {h₁ : Handle σ} {h₂ : Handle τ} (hm : h₁.Matches good h₂)
    (p : Part) (hcatalog : p.usesCatalog = true → h₁.catalog = h₂.catalog) (c : p.Content) :
    Follows good Api.Unrelated (p.work h₁ c) (p.work h₂ c) := by
  cases p with
  | cluster =>
    exact (follows_collectVersion hm c).bind fun _ =>
      (follows_collectNotes hm _).bind fun _ => .pure _
  | namespaces => exact follows_takeOver hm _ _ _
  | nodes => exact follows_takeOver hm _ _ _
  | storage =>
    exact (follows_takeOver hm _ _ _).bind fun _ =>
      (follows_takeOver hm _ _ _).bind fun _ => .pure _
  | networkPolicies => exact follows_takeOver hm _ _ _
  | customResources =>
    have hcatalog := hcatalog rfl
    unfold Part.work
    rw [← hcatalog]
    exact (follows_askOperators hm hcatalog).bind fun _ => .pure _
  | workloads => exact (follows_askWorkloads hm (hcatalog rfl)).bind fun _ => .pure _

theorem collect_eq_some_iff {h : Handle σ} {p : Part} {inv written : Inventory}
    {outcome : Except Breakdown (List CollectError)} {world world' : σ} :
    (p.domain h).collect inv world = some ((written, outcome), world') ↔
      ∃ r, p.work h (p.get inv) world = some (r, world') ∧ written = p.put inv r.1 ∧
        outcome = .ok r.2 := by
  rw [collect_domain, Calls.bind_eq_some]
  constructor
  · rintro ⟨r, world₁, hwork, hr⟩
    obtain ⟨hr, rfl⟩ := Calls.pure_eq_some.1 hr
    cases hr
    exact ⟨r, hwork, rfl, rfl⟩
  · rintro ⟨r, hwork, rfl, rfl⟩
    exact ⟨r, world', hwork, rfl⟩

/-! ## Clusters whose replies depend on the request -/

/-- The replies of a server depend on nothing but the request. -/
def RepliesBy (server : Server σ) (reply : Request → Reply) : Prop :=
  ∀ r world, (server r world).1 = reply r

/-- The same cluster, with a list of the requests that have been made. -/
def logged (h : Handle σ) : Handle (σ × List Request) :=
  { server := fun r w => ((h.server r w.1).1, (h.server r w.1).2, w.2 ++ [r])
    timeout := h.timeout, asUser := h.asUser, catalog := h.catalog, pages := h.pages }

/-- Clusters that are asked in the same way. -/
structure AskedAlike (h₁ : Handle σ) (h₂ : Handle τ) : Prop where
  timeout : h₁.timeout = h₂.timeout
  asUser : h₁.asUser = h₂.asUser
  pages : h₁.pages ≤ h₂.pages

section Replies

variable {h₁ : Handle σ} {h₂ : Handle τ} {reply reply' : Request → Reply}

theorem RepliesBy.logged (h : RepliesBy h₁.server reply) : RepliesBy (logged h₁).server reply :=
  fun r w => h r w.1

theorem matches_of_repliesBy (hreply : RepliesBy h₁.server reply)
    (hreply' : RepliesBy h₂.server reply) (h : AskedAlike h₁ h₂) :
    h₁.Matches (fun _ => True) h₂ where
  server r w _ := ⟨trivial, fun v _ => ⟨(hreply' r v).trans (hreply r w).symm, trivial⟩⟩
  timeout := h.timeout
  asUser := h.asUser
  pages := h.pages

/-- Replies to the requests that have been made are all that has to agree. -/
theorem matches_of_agree (hreply : RepliesBy h₁.server reply)
    (hreply' : RepliesBy h₂.server reply') (h : AskedAlike h₁ h₂) :
    (logged h₁).Matches (fun w => ∀ r ∈ w.2, reply r = reply' r) h₂ where
  server r w hagree := by
    refine ⟨fun q hq => hagree q (List.mem_append_left _ hq), fun v _ => ⟨?_, trivial⟩⟩
    rw [hreply' r v, (hreply.logged r w), hagree r (List.mem_append_right _ (.head _))]
  timeout := h.timeout
  asUser := h.asUser
  pages := h.pages

end Replies

/-- A domain on two clusters, and on two inventories with the same content of its part. -/
theorem collect_follows {good : σ → Prop} {h₁ : Handle σ} {h₂ : Handle τ} (hm : h₁.Matches good h₂)
    {p : Part} (hcatalog : p.usesCatalog = true → h₁.catalog = h₂.catalog) {inv inv' : Inventory}
    (hget : p.get inv = p.get inv') {written : Inventory}
    {outcome : Except Breakdown (List CollectError)} {world world₁ : σ}
    (h : (p.domain h₁).collect inv world = some ((written, outcome), world₁)) (hgood : good world₁)
    (world' : τ) : ∃ world₁', (p.domain h₂).collect inv' world' =
      some ((p.put inv' (p.get written), outcome), world₁') := by
  obtain ⟨r, hwork, rfl, rfl⟩ := collect_eq_some_iff.1 h
  obtain ⟨-, hfollows⟩ := follows_work hm p hcatalog (p.get inv) world r world₁ hwork hgood
  obtain ⟨world₁', hwork', -⟩ := hfollows world' trivial
  refine ⟨world₁', collect_eq_some_iff.2 ⟨r, hget ▸ hwork', ?_, rfl⟩⟩
  rw [Part.get_put]

/-! ## Orders -/

/-- What the domains of some parts leave behind, given what each of them comes to. -/
def finish (results : (p : Part) → p.Content × List CollectError) (order : List Part)
    (inv : Inventory) : Inventory :=
  order.foldl (fun inv p => (p.put inv (results p).1).withErrors (results p).2) inv

section Finish

variable (results : (p : Part) → p.Content × List CollectError)

theorem sameHead_finish (order : List Part) (inv : Inventory) :
    (finish results order inv).SameHead
      (inv.withErrors (order.flatMap fun p => (results p).2)) := by
  induction order generalizing inv with
  | nil => rw [List.flatMap_nil, Inventory.withErrors_nil]; exact .refl _
  | cons p order ih =>
    have hput := (p.sameHead_put inv (results p).1).withErrors (results p).2
    have hrest := (ih ((p.put inv (results p).1).withErrors (results p).2)).trans
      (hput.withErrors _)
    rwa [Inventory.withErrors_append] at hrest

theorem get_finish_of_not_mem {order : List Part} {p : Part} (h : p ∉ order) (inv : Inventory) :
    p.get (finish results order inv) = p.get inv := by
  induction order generalizing inv with
  | nil => rfl
  | cons q order ih =>
    rw [List.mem_cons, not_or] at h
    rw [finish, List.foldl_cons]
    rw [show p.get (List.foldl _ _ order) = _ from ih h.2 _, Part.get_withErrors,
      Part.get_put_of_ne h.1]

theorem get_finish {order : List Part} {p : Part} (h : p ∈ order) (inv : Inventory) :
    p.get (finish results order inv) = (results p).1 := by
  induction order generalizing inv with
  | nil => cases h
  | cons q order ih =>
    rw [finish, List.foldl_cons]
    by_cases hmem : p ∈ order
    · exact ih hmem _
    · obtain rfl : p = q := (List.mem_cons.1 h).resolve_right hmem
      rw [show p.get (List.foldl _ _ order) = _ from get_finish_of_not_mem results hmem _,
        Part.get_withErrors, Part.get_put]

end Finish

/-- The snapshots are the same but for the order of their errors. -/
structure SameUpToOrder (a b : Inventory) : Prop where
  version : a.version = b.version
  clientVersion : a.clientVersion = b.clientVersion
  collectedAt : a.collectedAt = b.collectedAt
  collectionSucceeded : a.collectionSucceeded = b.collectionSucceeded
  collectionErrors : a.collectionErrors.Perm b.collectionErrors
  contents : ∀ p : Part, p.get a = p.get b

theorem sameUpToOrder_finish (results : (p : Part) → p.Content × List CollectError)
    {order order' : List Part} (h : order.Perm order') (inv : Inventory) :
    SameUpToOrder (finish results order inv) (finish results order' inv) := by
  have hhead := sameHead_finish results order inv
  have hhead' := sameHead_finish results order' inv
  have herrors := h.flatMap_right fun p => (results p).2
  constructor
  · exact hhead.version.trans hhead'.version.symm
  · exact hhead.clientVersion.trans hhead'.clientVersion.symm
  · exact hhead.collectedAt.trans hhead'.collectedAt.symm
  · rw [hhead.collectionSucceeded, hhead'.collectionSucceeded]
    simp only [Inventory.withErrors, herrors.isEmpty_eq]
  · rw [hhead.collectionErrors, hhead'.collectionErrors]
    exact (herrors.map _).append_left _
  · intro p
    by_cases hp : p ∈ order
    · rw [get_finish results hp, get_finish results (h.mem_iff.1 hp)]
    · rw [get_finish_of_not_mem results hp,
        get_finish_of_not_mem results fun hp' => hp (h.mem_iff.2 hp')]

/-- What a domain comes to with its part of an inventory, in every world. -/
def Alone (h : Handle σ) (inv : Inventory) (p : Part) (r : p.Content × List CollectError) : Prop :=
  ∀ world, ∃ world', p.work h (p.get inv) world = some (r, world')

section Order

variable {h : Handle σ} {reply : Request → Reply} {inv : Inventory} {order : List Part}

theorem alone_of_work (hreply : RepliesBy h.server reply) {p : Part}
    {r : p.Content × List CollectError} {world world' : σ}
    (hwork : p.work h (p.get inv) world = some (r, world')) : Alone h inv p r := by
  intro world₁
  have hm := matches_of_repliesBy hreply hreply ⟨rfl, rfl, Nat.le_refl _⟩
  obtain ⟨-, hfollows⟩ := follows_work hm p (fun _ => rfl) (p.get inv) world r world' hwork trivial
  obtain ⟨world₁', hwork', -⟩ := hfollows world₁ trivial
  exact ⟨world₁', hwork'⟩

theorem collectInto_domain (h : Handle σ) (p : Part) (inv : Inventory) :
    (p.domain h).collectInto inv =
      p.work h (p.get inv) >>= fun r => pure ((p.put inv r.1).withErrors r.2) := by
  simp only [Domain.collectInto, collect_domain, bind_assoc, pure_bind, Domain.errorsOf,
    Inventory.foldl_recordError]

/-- The domain of another part finds its content as it was. -/
theorem get_after {p q : Part} (hne : q ≠ p) (inv : Inventory)
    (r : p.Content × List CollectError) :
    q.get ((p.put inv r.1).withErrors r.2) = q.get inv := by
  rw [Part.get_withErrors, Part.get_put_of_ne hne]

theorem collectAll_of_alone {results : (p : Part) → p.Content × List CollectError}
    (hnodup : order.Nodup) (halone : ∀ p ∈ order, Alone h inv p (results p)) (world : σ) :
    ∃ world', collectAll (order.map (·.domain h)) inv world =
      some (finish results order inv, world') := by
  induction order generalizing inv world with
  | nil => exact ⟨world, rfl⟩
  | cons p order ih =>
    obtain ⟨hnotMem, hnodup⟩ := List.nodup_cons.1 hnodup
    obtain ⟨world₁, hwork⟩ := halone p (.head _) world
    have halone' : ∀ q ∈ order,
        Alone h ((p.put inv (results p).1).withErrors (results p).2) q (results q) := by
      intro q hq
      have hne : q ≠ p := fun heq => hnotMem (heq ▸ hq)
      rw [Alone, get_after hne]
      exact halone q (.tail _ hq)
    obtain ⟨world', hrest⟩ := ih hnodup halone' world₁
    refine ⟨world', ?_⟩
    rw [List.map_cons, collectAll, collectInto_domain, Calls.bind_eq_some]
    exact ⟨_, world₁, Calls.bind_eq_some.2 ⟨_, world₁, hwork, rfl⟩, hrest⟩

theorem exists_alone_of_collectAll (hreply : RepliesBy h.server reply) (hnodup : order.Nodup)
    {final : Inventory} {world world' : σ}
    (hall : collectAll (order.map (·.domain h)) inv world = some (final, world')) :
    ∀ p ∈ order, ∃ r, Alone h inv p r := by
  induction order generalizing inv world with
  | nil => exact fun _ hp => (by cases hp)
  | cons q order ih =>
    obtain ⟨hnotMem, hnodup⟩ := List.nodup_cons.1 hnodup
    rw [List.map_cons, collectAll, collectInto_domain, Calls.bind_eq_some] at hall
    obtain ⟨inv₁, world₁, hfirst, hrest⟩ := hall
    obtain ⟨r, world₂, hwork, hinv₁⟩ := Calls.bind_eq_some.1 hfirst
    obtain ⟨rfl, rfl⟩ := Calls.pure_eq_some.1 hinv₁
    intro p hp
    rcases List.mem_cons.1 hp with rfl | hp
    · exact ⟨r, alone_of_work hreply hwork⟩
    · obtain ⟨r', hr'⟩ := ih hnodup hrest p hp
      have hne : p ≠ q := fun heq => hnotMem (heq ▸ hp)
      rw [Alone, get_after hne] at hr'
      exact ⟨r', hr'⟩

/-- A whole collection, in any order, is made of what each domain comes to alone. -/
theorem exists_results_of_collectAll (hreply : RepliesBy h.server reply)
    (horder : order.Perm Part.all) {final : Inventory} {world world' : σ}
    (hall : collectAll (order.map (·.domain h)) inv world = some (final, world')) :
    ∃ results : (p : Part) → p.Content × List CollectError,
      (∀ p, Alone h inv p (results p)) ∧ final = finish results order inv := by
  have hnodup : order.Nodup := horder.nodup_iff.2 Part.nodup_all
  have hmem (p : Part) : p ∈ order := horder.mem_iff.2 p.mem_all
  choose results hresults using fun p =>
    exists_alone_of_collectAll hreply hnodup hall p (hmem p)
  refine ⟨results, hresults, ?_⟩
  obtain ⟨world₁, hfinish⟩ := collectAll_of_alone hnodup (fun p _ => hresults p) world
  rw [hfinish] at hall
  cases hall
  rfl

end Order

/-! ## Independence -/

/-- The domain of a part writes nothing in the inventory but this part, and reads nothing of it but
this part. -/
structure Part.Confined (p : Part) (h : Handle σ) : Prop where
  writes : ∀ {inv written outcome world world'},
    (p.domain h).collect inv world = some ((written, outcome), world') →
      written.SameHead inv ∧ ∀ q, q ≠ p → q.get written = q.get inv
  reads : ∀ {inv inv' written outcome world world₁}, p.get inv = p.get inv' →
    (p.domain h).collect inv world = some ((written, outcome), world₁) →
      ∀ world', ∃ world₁', (p.domain h).collect inv' world' =
        some ((p.put inv' (p.get written), outcome), world₁')

/-- From an inventory on, the domain of a part comes to this content and to this outcome, both alone
and in a whole collection of any order, in whatever world. -/
structure Part.ComesTo (p : Part) (h : Handle σ) (inv : Inventory) (content : p.Content)
    (outcome : Except Breakdown (List CollectError)) : Prop where
  alone : ∀ world, ∃ world', (p.domain h).collect inv world =
    some ((p.put inv content, outcome), world')
  within : ∀ {order : List Part} {final world world'}, order.Perm Part.all →
    collectAll (order.map (·.domain h)) inv world = some (final, world') →
      p.get final = content ∧
        ∀ errors, outcome = .ok errors → errors.map (·.text) <:+: final.collectionErrors

/-- A second cluster that is asked in the same way, gives the same replies to these requests, and
serves the same kinds if the domain of the part asks for that. -/
structure Part.AnsweredAlike (p : Part) (h : Handle σ) (reply : Request → Reply)
    (h' : Handle τ) (reply' : Request → Reply) (requests : List Request) : Prop where
  replies : RepliesBy h'.server reply'
  asked : AskedAlike h h'
  catalog : p.usesCatalog = true → h.catalog = h'.catalog
  agree : ∀ r ∈ requests, reply r = reply' r

section Independence

variable {h : Handle σ} {reply : Request → Reply}

theorem confined (hreply : RepliesBy h.server reply) (p : Part) : p.Confined h where
  writes hcollect := by
    obtain ⟨r, -, rfl, -⟩ := collect_eq_some_iff.1 hcollect
    exact ⟨p.sameHead_put _ r.1, fun q hne => Part.get_put_of_ne hne _ r.1⟩
  reads hget hcollect world' :=
    collect_follows (matches_of_repliesBy hreply hreply ⟨rfl, rfl, Nat.le_refl _⟩) (fun _ => rfl)
      hget hcollect trivial world'

theorem infix_errors_finish (results : (p : Part) → p.Content × List CollectError) {p : Part}
    {order : List Part} (hp : p ∈ order) (inv : Inventory) :
    (results p).2.map (·.text) <:+: (finish results order inv).collectionErrors := by
  rw [(sameHead_finish results order inv).collectionErrors]
  obtain ⟨before, after, rfl⟩ := List.append_of_mem hp
  refine ⟨inv.collectionErrors ++ (before.flatMap fun p => (results p).2).map (·.text),
    (after.flatMap fun p => (results p).2).map (·.text), ?_⟩
  simp [Inventory.withErrors]

theorem comesTo (hreply : RepliesBy h.server reply) {p : Part} {inv written : Inventory}
    {outcome : Except Breakdown (List CollectError)} {world world' : σ}
    (hcollect : (p.domain h).collect inv world = some ((written, outcome), world')) :
    p.ComesTo h inv (p.get written) outcome where
  alone := (confined hreply p).reads rfl hcollect
  within := by
    intro order final world₁ world₁' horder hall
    obtain ⟨results, hresults, rfl⟩ := exists_results_of_collectAll hreply horder hall
    have hmem : p ∈ order := horder.mem_iff.2 p.mem_all
    obtain ⟨r, hwork, rfl, rfl⟩ := collect_eq_some_iff.1 hcollect
    obtain ⟨_, hwork'⟩ := hresults p world
    rw [hwork] at hwork'
    cases hwork'
    rw [get_finish results hmem, Part.get_put]
    refine ⟨rfl, fun errors herrors => ?_⟩
    cases herrors
    exact infix_errors_finish results hmem inv

/-- The domain makes its requests, and all that it comes to follows from the replies. -/
theorem exists_requests (hreply : RepliesBy h.server reply) {p : Part} {inv written : Inventory}
    {outcome : Except Breakdown (List CollectError)} {world world₁ : σ}
    (hcollect : (p.domain h).collect inv world = some ((written, outcome), world₁)) :
    ∃ requests world₂, (p.domain (logged h)).collect inv (world, []) =
      some ((written, outcome), (world₂, requests)) := by
  have hm : h.Matches (fun _ => True) (logged h) :=
    matches_of_repliesBy hreply hreply.logged ⟨rfl, rfl, Nat.le_refl _⟩
  obtain ⟨⟨world₂, requests⟩, hlogged⟩ :=
    collect_follows hm (fun _ => rfl) rfl hcollect trivial (world, [])
  obtain ⟨r, -, rfl, -⟩ := collect_eq_some_iff.1 hcollect
  rw [Part.get_put] at hlogged
  exact ⟨requests, world₂, hlogged⟩

end Independence

/-- The seven domains of a live cluster are independent of each other. The replies of the cluster
depend on nothing but the request; otherwise it is any cluster, and anything may fail.

* Each domain is confined to its own part of the inventory.
* In every other order the domains come to the same snapshot, up to the order of its errors.
* What a domain comes to it comes to alone and in every order. It comes to the same on every other
  cluster that gives the same replies to the requests that it makes, whatever that cluster replies
  to other requests. -/
theorem domains_independent (h : Handle σ) {reply : Request → Reply}
    (hreply : RepliesBy h.server reply) :
    (∀ p : Part, p.Confined h) ∧
    (∀ {order order' : List Part} {inv final world world'}, order.Perm Part.all →
      order'.Perm Part.all →
      collectAll (order.map (·.domain h)) inv world = some (final, world') →
        ∀ world₁, ∃ final' world₁',
          collectAll (order'.map (·.domain h)) inv world₁ = some (final', world₁') ∧
            SameUpToOrder final' final) ∧
    (∀ {p : Part} {inv written outcome world world₁},
      (p.domain h).collect inv world = some ((written, outcome), world₁) →
        p.ComesTo h inv (p.get written) outcome ∧
        ∃ requests world₂, (p.domain (logged h)).collect inv (world, []) =
          some ((written, outcome), (world₂, requests)) ∧
        ∀ {τ : Type} {h' : Handle τ} {reply' inv'},
          p.AnsweredAlike h reply h' reply' requests → p.get inv = p.get inv' →
            p.ComesTo h' inv' (p.get written) outcome) := by
  refine ⟨confined hreply, ?_, ?_⟩
  · intro order order' inv final world world' horder horder' hall world₁
    obtain ⟨results, hresults, rfl⟩ := exists_results_of_collectAll hreply horder hall
    obtain ⟨world₁', hall'⟩ := collectAll_of_alone (horder'.nodup_iff.2 Part.nodup_all)
      (fun p _ => hresults p) world₁
    exact ⟨_, world₁', hall', sameUpToOrder_finish results (horder'.trans horder.symm) inv⟩
  · intro p inv written outcome world world₁ hcollect
    obtain ⟨requests, world₂, hlogged⟩ := exists_requests hreply hcollect
    refine ⟨comesTo hreply hcollect, requests, world₂, hlogged, ?_⟩
    intro τ h' reply' inv' halike hget
    have hm := matches_of_agree hreply halike.replies halike.asked
    have hcollect' := collect_follows hm halike.catalog hget hlogged halike.agree
    refine ⟨hcollect', fun {_ _ world' _} horder hall => ?_⟩
    obtain ⟨_, hhere⟩ := hcollect' world'
    have hwithin := (comesTo halike.replies hhere).within horder hall
    rwa [Part.get_put] at hwithin

/-- A cluster with one namespace and without a list of nodes, and one that gives no reply but to the
request for namespaces: there the domain of namespaces comes to the same record, and so it does when
it is the last one here. -/
theorem domains_independent_applied :
    let h : Handle Unit := ⟨appliedConnection, .empty, 1⟩
    let reply := fun r => (appliedServer r ()).1
    let reply' := fun r : Request =>
      if r.path = "/api/v1/namespaces" then reply r else .silence
    let h' : Handle Unit :=
      { appliedConnection with
        server := fun r world => (reply' r, world), catalog := .empty, pages := 1 }
    let shop : Record.Namespace := ⟨.ofObject appliedMeta⟩
    RepliesBy h.server reply ∧ RepliesBy h'.server reply' ∧
      (∃ final world', collectAll (Part.all.reverse.map (·.domain h)) (.start "0.1.0" .epoch) () =
        some (final, world') ∧ final.namespaces = [shop]) ∧
      Part.namespaces.ComesTo h' (.start "0.1.0" .epoch) [shop] (.ok []) := by
  intro h reply reply' h' shop
  have hreply : RepliesBy h.server reply := fun _ _ => rfl
  have hreply' : RepliesBy h'.server reply' := fun _ _ => rfl
  obtain ⟨-, horder, hcomesTo⟩ := domains_independent h hreply
  refine ⟨hreply, hreply', ?_, ?_⟩
  · obtain ⟨inv, hall, hshop⟩ : ∃ inv, collectAll (Part.all.map (·.domain h))
        (.start "0.1.0" .epoch) () = some (inv, ()) ∧ inv.namespaces = [shop] := by
      rw [Part.map_domain_all, collectAll_liveDomains, Calls.bind_of_eq_some (ask_applied rfl rfl)]
      exact ⟨_, rfl, rfl⟩
    obtain ⟨final, world', hreversed, hsame⟩ :=
      horder (.refl _) (List.reverse_perm Part.all) hall ()
    exact ⟨final, world', hreversed, (hsame.contents .namespaces).trans hshop⟩
  · have hcollect : (Part.namespaces.domain h).collect (.start "0.1.0" .epoch) () =
        some (({ Inventory.start "0.1.0" .epoch with namespaces := [shop] }, .ok []), ()) := by
      have hempty : (Inventory.start "0.1.0" .epoch).namespaces = [] := rfl
      have hnamespaces := congrFun (collect_namespaces h hempty) ()
      rw [Calls.bind_of_eq_some (all_namespaces_applied .empty)] at hnamespaces
      exact hnamespaces
    obtain ⟨-, requests, _, hlogged, hothers⟩ := hcomesTo hcollect
    have hpaths : ((Part.namespaces.domain (logged h)).collect (.start "0.1.0" .epoch) ((), [])).map
        (fun r => r.2.2.map (·.path)) = some ["/api/v1/namespaces"] := by decide +kernel
    rw [hlogged, Option.map_some, Option.some.injEq] at hpaths
    refine hothers ⟨hreply', ⟨rfl, rfl, Nat.le_refl _⟩, fun _ => rfl, fun r hr => ?_⟩ rfl
    have hpath : r.path ∈ ["/api/v1/namespaces"] := hpaths ▸ List.mem_map_of_mem hr
    exact (if_pos (List.mem_singleton.1 hpath)).symm

end ClusterInventory.Collection
