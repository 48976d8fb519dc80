import ClusterInventory.Proofs.Api.Lookups
import ClusterInventory.Proofs.Api.Requests
import ClusterInventory.Proofs.Ownership.Frozen

/-!
# Owners that are gone, and owners that cannot be had

A session over a live cluster looks owners up there. `Accounts` says what its calls rest on: each is
a look-up, and together they made the deliveries that the session has seen. An owner is gone for a
resolution exactly where such a look-up tells so, and a failure of a resolution is the failure of
one (`looked_up_and_resolved`).
-/

namespace ClusterInventory.Ownership

open Api (Catalog Delivery LookUp ObjectRef Served SlowServer)

variable {σ : Type}

/-! ## The walk without memory, by its outcome -/

section Climb

variable {view : ObjectRef → Answer} {«namespace» : Option String} {visited : List ObjectRef}
  {next r : ObjectRef}

/-- A climb fails on an owner only when that is what is seen of it. -/
theorem view_of_climb_eq_fetch {e : Api.CallError}
    (h : climb view «namespace» visited next = .error (.fetch r e)) : view r = .error e := by
  fun_induction climb view «namespace» visited next with
  | case1 => cases h
  | case2 => cases h
  | case3 visited next hmem hlen e' hview =>
    cases h
    exact hview
  | case4 => cases h
  | case5 visited next hmem hlen found hview parent hparent ih => exact ih h
  | case6 => cases h

/-- A climb comes to nothing only at an owner that is seen to be gone. -/
theorem exists_view_of_climb_eq_none (h : climb view «namespace» visited next = .ok none) :
    ∃ r, view r = .ok none := by
  fun_induction climb view «namespace» visited next with
  | case1 => cases h
  | case2 => cases h
  | case3 => cases h
  | case4 visited next hmem hlen hview => exact ⟨next, hview⟩
  | case5 visited next hmem hlen found hview parent hparent ih => exact ih h
  | case6 => cases h

/-- A climb comes to a root only at an owner that is seen to be there. -/
theorem exists_view_of_climb_eq_some {res : Resolution}
    (h : climb view «namespace» visited next = .ok (some res)) :
    ∃ r found, view r = .ok (some found) ∧ res = rootAt r found.objectMeta := by
  fun_induction climb view «namespace» visited next with
  | case1 => cases h
  | case2 => cases h
  | case3 => cases h
  | case4 => cases h
  | case5 visited next hmem hlen found hview parent hparent ih => exact ih h
  | case6 visited next hmem hlen found hview hroot =>
    cases h
    exact ⟨next, found, hview, ofRoot_eq_rootAt next found.objectMeta⟩

theorem view_of_rootOver_eq_fetch {m : Object.Meta} {e : Api.CallError}
    (h : rootOver view m = .error (.fetch r e)) : view r = .error e := by
  unfold rootOver at h
  split at h
  · cases h
  · exact view_of_climb_eq_fetch h

theorem exists_view_of_rootOver_eq_none {m : Object.Meta} (h : rootOver view m = .ok none) :
    m.controller? = none ∨ ∃ r, view r = .ok none := by
  unfold rootOver at h
  split at h
  · next hm => exact .inl hm
  · exact .inr (exists_view_of_climb_eq_none h)

theorem exists_view_of_rootOver_eq_some {m : Object.Meta} {res : Resolution}
    (h : rootOver view m = .ok (some res)) :
    ∃ r found, view r = .ok (some found) ∧ res = rootAt r found.objectMeta := by
  unfold rootOver at h
  split at h
  · cases h
  · exact exists_view_of_climb_eq_some h

end Climb

/-! ## What is seen was told -/

section Frozen

variable {past now : List Call} {r : ObjectRef}

/-- What is seen of an address that is asked for now was told, or is seen elsewhere. -/
theorem mem_of_find?_answer {answer elsewhere : Answer}
    (h : ((now.find? fun c => c.ref = r).map (·.answer)).getD elsewhere = answer)
    (hne : elsewhere ≠ answer) : ⟨r, answer⟩ ∈ now := by
  cases hfind : now.find? fun c => c.ref = r with
  | none =>
    rw [hfind] at h
    exact absurd h hne
  | some c =>
    rw [hfind] at h
    have href : c.ref = r := by simpa using List.find?_some hfind
    have hanswer : c.answer = answer := h
    rw [← href, ← hanswer]
    exact List.mem_of_find?_eq_some hfind

theorem mem_of_firstFound {log : List Call} {found : Option Object.Dynamic}
    (h : firstFound log r = some found) : ⟨r, .ok found⟩ ∈ log := by
  obtain ⟨⟨r', answer⟩, hc, hanswer⟩ := List.exists_of_findSome?_eq_some h
  split at hanswer
  · next href =>
    cases href
    cases answer with
    | error e => cases hanswer
    | ok found' =>
      cases hanswer
      exact hc
  · cases hanswer

/-- A failure that is seen was told just now, where elsewhere none is seen. -/
theorem mem_of_frozen_eq_error {e : Api.CallError} {found : Option Object.Dynamic}
    (h : frozen past now (fun _ => .ok found) r = .error e) : ⟨r, .error e⟩ ∈ now := by
  unfold frozen at h
  split at h
  · cases h
  · exact mem_of_find?_answer h nofun

/-- What is seen without failure was told, where elsewhere only failures are seen. -/
theorem mem_of_frozen_eq_ok {e : Api.CallError} {found : Option Object.Dynamic}
    (h : frozen past now (fun _ => .error e) r = .ok found) : ⟨r, .ok found⟩ ∈ past ++ now := by
  unfold frozen at h
  split at h
  · next hfound =>
    cases h
    exact mem_of_firstFound hfound
  · exact List.mem_append_right _ (mem_of_find?_answer h nofun)

/-- What was told in the past without failure is not asked for now. -/
theorem not_mem_past {answer : Answer} {found : Option Object.Dynamic}
    (honce : NotAskedAgain (past ++ now)) (hnow : ⟨r, answer⟩ ∈ now) :
    (⟨r, .ok found⟩ : Call) ∉ past := by
  intro hpast
  exact (List.pairwise_append.1 honce).2.2 _ hpast _ hnow found rfl rfl

end Frozen

/-! ## An owner that is gone ends the walk -/

section Gone

variable {fetch : Fetcher σ} {s s' : Session (σ × List Call)} {r : ObjectRef}

/-- A look-up is logged with its answer, if it made a call at all. -/
theorem log_of_lookup {answer : Answer} (h : s.lookup fetch.logged r = (answer, s')) :
    s'.log = s.log ∨ s'.log = s.log ++ [⟨r, answer⟩] := by
  obtain ⟨_, _, hl⟩ | ⟨_, _, ha, hl⟩ | ⟨_, _, ha, hl⟩ := Session.lookup_cases fetch.logged r s <;>
    rw [hl] at h <;> cases h
  · exact .inl rfl
  · exact .inr (by rw [← ha]; rfl)
  · exact .inr (by rw [← ha]; rfl)

/-- What a look-up did not tell was in the log before. -/
theorem mem_log_of_lookup {answer : Answer} {call : Call}
    (h : s.lookup fetch.logged r = (answer, s')) (hcall : call ∈ s'.log)
    (hne : call.answer ≠ answer) : call ∈ s.log := by
  rcases log_of_lookup h with hlog | hlog
  · rwa [hlog] at hcall
  · rw [hlog] at hcall
    rcases List.mem_append.1 hcall with hcall | hcall
    · exact hcall
    · cases List.mem_singleton.1 hcall
      exact absurd rfl hne

/-- A walk that is told of an owner that it is gone comes to nothing. -/
theorem walk_of_gone (fetch : Fetcher σ) («namespace» : Option String) (visited : List ObjectRef)
    (next : ObjectRef) (s : Session (σ × List Call))
    (h : ⟨r, .ok none⟩ ∈ (walk fetch.logged «namespace» visited next s).2.log) :
    ⟨r, .ok none⟩ ∈ s.log ∨ (walk fetch.logged «namespace» visited next s).1 = .ok none := by
  fun_induction walk fetch.logged «namespace» visited next s with
  | case1 => exact .inl h
  | case2 => exact .inl h
  | case3 visited next s hmem hlen e s' hl =>
    exact .inl (mem_log_of_lookup hl h (by simp))
  | case4 => exact .inr rfl
  | case5 visited next s hmem hlen found s' hl parent hparent ih =>
    rcases ih h with h | hout
    · exact .inl (mem_log_of_lookup hl h (by simp))
    · exact .inr hout
  | case6 visited next s hmem hlen found s' hl hroot =>
    exact .inl (mem_log_of_lookup hl h (by simp))

theorem resolve_of_gone (fetch : Fetcher σ) (m : Object.Meta) (s : Session (σ × List Call))
    (h : ⟨r, .ok none⟩ ∈ (resolve fetch.logged m s).2.log) :
    ⟨r, .ok none⟩ ∈ s.log ∨ (resolve fetch.logged m s).1 = .ok none := by
  unfold resolve at h ⊢
  split at h
  · exact .inl h
  · exact walk_of_gone fetch _ _ _ s h

end Gone

/-! ## Sessions over a live cluster -/

/-- Calls, each of which is a look-up, and the deliveries that these rest on. -/
inductive Accounts (catalog : Catalog) (limit : Duration) (asUser : Option String) :
    List Call → List Delivery → Prop
  | nil : Accounts catalog limit asUser [] []
  | snoc {calls : List Call} {ds ds' : List Delivery} {r : ObjectRef} {answer : Answer}
    (before : Accounts catalog limit asUser calls ds)
    (lookUp : LookUp catalog limit asUser r answer ds') :
    Accounts catalog limit asUser (calls ++ [⟨r, answer⟩]) (ds ++ ds')

/-- The fetcher that looks owners up on a connection which keeps its deliveries. -/
def liveFetcher (s : SlowServer σ) (limit : Duration) (asUser : Option String) (catalog : Catalog) :
    Fetcher (σ × List Delivery) :=
  (s.logged.connection limit asUser).lookup catalog

/-- All that was delivered to a session. -/
def Session.deliveries (s : Session ((σ × List Delivery) × List Call)) : List Delivery :=
  s.world.1.2

/-- What a resolution of an object with metadata `m` comes to, given the calls of its session
before it and its own, and all the deliveries that these rest on. -/
structure ToldApart (catalog : Catalog) (limit : Duration) (asUser : Option String)
    (m : Object.Meta) (past now : List Call) (ds : List Delivery) (outcome : Outcome) : Prop where
  accounts : Accounts catalog limit asUser (past ++ now) ds
  view : ∀ elsewhere, outcome = rootOver (frozen past now elsewhere) m
  /-- An owner that is told to be gone is no failure: there is no root owner then. -/
  gone : ∀ r, ⟨r, .ok none⟩ ∈ now → outcome = .ok none
  /-- An owner on which a resolution fails is of a kind that is served, it was never told to be
  gone, and its look-up has just failed. -/
  failed : ∀ r e, outcome = .error (.fetch r e) →
    ⟨r, .error e⟩ ∈ now ∧ ⟨r, .ok none⟩ ∉ past ++ now ∧
    catalog.find? r.apiVersion r.kind ≠ none ∧
    ∃ ds', LookUp catalog limit asUser r (.error e) ds' ∧ ds' ⊆ ds
  /-- Where there is no root owner, nothing controls the object, or some owner was told to be
  gone. -/
  vanished : outcome = .ok none → m.controller? = none ∨
    ∃ r ds', ⟨r, .ok none⟩ ∈ past ++ now ∧ LookUp catalog limit asUser r (.ok none) ds' ∧ ds' ⊆ ds
  root : ∀ res, outcome = .ok (some res) →
    ∃ r found ds', LookUp catalog limit asUser r (.ok (some found)) ds' ∧ ds' ⊆ ds ∧
      res = rootAt r found.objectMeta

section Live

variable {s : SlowServer σ} {limit : Duration} {asUser : Option String} {catalog : Catalog}
  {calls : List Call} {ds : List Delivery}

theorem Accounts.exists_lookUp (h : Accounts catalog limit asUser calls ds) {call : Call}
    (hcall : call ∈ calls) :
    ∃ ds', LookUp catalog limit asUser call.ref call.answer ds' ∧ ds' ⊆ ds := by
  induction h with
  | nil => cases hcall
  | @snoc calls ds ds' r answer before lookUp ih =>
    rcases List.mem_append.1 hcall with hcall | hcall
    · obtain ⟨ds'', hlookUp, hsub⟩ := ih hcall
      exact ⟨ds'', hlookUp, List.Subset.trans hsub (List.subset_append_left ds ds')⟩
    · cases List.mem_singleton.1 hcall
      exact ⟨ds', lookUp, List.subset_append_right ds ds'⟩

/-- One more look-up is accounted for. -/
theorem Accounts.fetch (h : Accounts catalog limit asUser calls ds) (s : SlowServer σ) (world : σ)
    (r : ObjectRef) :
    Accounts catalog limit asUser
      (calls ++ [⟨r, (liveFetcher s limit asUser catalog r (world, ds)).1⟩])
      (liveFetcher s limit asUser catalog r (world, ds)).2.2 := by
  have hlookup : (s.logged.connection limit asUser).lookup catalog r (world, ds) =
      liveFetcher s limit asUser catalog r (world, ds) := rfl
  obtain ⟨ds', hlookUp, hds⟩ := Api.exists_lookUp hlookup
  have hlog : (liveFetcher s limit asUser catalog r (world, ds)).2.2 = ds ++ ds' :=
    (SlowServer.delivers_logged_iff.1 hds).2
  rw [hlog]
  exact h.snoc hlookUp

variable {session : Session ((σ × List Delivery) × List Call)}

theorem Accounts.lookup (h : Accounts catalog limit asUser session.log session.deliveries)
    (r : ObjectRef) :
    let after := (session.lookup (liveFetcher s limit asUser catalog).logged r).2
    Accounts catalog limit asUser after.log after.deliveries := by
  intro after
  have hfetch := h.fetch s session.world.1.1 r
  obtain ⟨_, _, hl⟩ | ⟨_, _, _, hl⟩ | ⟨_, _, _, hl⟩ :=
    Session.lookup_cases (liveFetcher s limit asUser catalog).logged r session <;>
    simp only [after, hl]
  · exact h
  · exact hfetch
  · exact hfetch

theorem Accounts.resolve (h : Accounts catalog limit asUser session.log session.deliveries)
    (m : Object.Meta) :
    let after := (resolve (liveFetcher s limit asUser catalog).logged m session).2
    Accounts catalog limit asUser after.log after.deliveries :=
  resolve_preserves (P := fun s => Accounts catalog limit asUser s.log s.deliveries)
    (fun r _ h => h.lookup r) m session h

theorem Accounts.resolveAll (h : Accounts catalog limit asUser session.log session.deliveries)
    (ms : List Object.Meta) :
    let after := (resolveAll (liveFetcher s limit asUser catalog).logged ms session).2
    Accounts catalog limit asUser after.log after.deliveries :=
  resolveAll_preserves (P := fun s => Accounts catalog limit asUser s.log s.deliveries)
    (fun r _ h => h.lookup r) ms session h

/-- What a resolution over a live cluster comes to, within a session that has gone on for a
while. -/
theorem resolve_toldApart (hcoherent : session.Coherent)
    (haccounts : Accounts catalog limit asUser session.log session.deliveries) (m : Object.Meta) :
    let result := resolve (liveFetcher s limit asUser catalog).logged m session
    ∃ now, result.2.log = session.log ++ now ∧
      ToldApart catalog limit asUser m session.log now result.2.deliveries result.1 := by
  intro result
  obtain ⟨now, hlog, hroot⟩ := hcoherent.resolve_eq_rootOver (liveFetcher s limit asUser catalog) m
  have hafter : Accounts catalog limit asUser (session.log ++ now) result.2.deliveries :=
    hlog ▸ haccounts.resolve m
  have honce : NotAskedAgain (session.log ++ now) :=
    hlog ▸ (hcoherent.resolve (liveFetcher s limit asUser catalog) m).once
  have hgone (r : ObjectRef) (h : ⟨r, .ok none⟩ ∈ session.log ++ now) :
      ⟨r, .ok none⟩ ∈ session.log ∨ result.1 = .ok none :=
    resolve_of_gone _ m session (hlog ▸ h)
  refine ⟨now, hlog, hafter, hroot, fun r h => ?gone, fun r e h => ?failed, fun h => ?vanished,
    fun res h => ?root⟩
  case gone =>
    rcases hgone r (List.mem_append_right _ h) with hpast | hout
    · exact absurd hpast (not_mem_past honce h)
    · exact hout
  case failed =>
    have hview := (hroot fun _ => .ok none).symm.trans h
    have hnow : ⟨r, .error e⟩ ∈ now := mem_of_frozen_eq_error (view_of_rootOver_eq_fetch hview)
    obtain ⟨ds, hlookUp, hds⟩ := hafter.exists_lookUp (List.mem_append_right _ hnow)
    refine ⟨hnow, fun hmem => ?_, fun hunserved => ?_, ds, hlookUp, hds⟩
    · rcases hgone r hmem with hpast | hout
      · exact not_mem_past honce hnow hpast
      · cases h.symm.trans hout
    · cases hlookUp with
      | unbuilt served => cases hunserved.symm.trans served
      | asked served => cases hunserved.symm.trans served
  case vanished =>
    -- where elsewhere only failures are seen, what is seen to be gone was told to be
    have hview := (hroot fun _ => .error .unreadable).symm.trans h
    rcases exists_view_of_rootOver_eq_none hview with hm | ⟨r, hr⟩
    · exact .inl hm
    · have hmem : ⟨r, .ok none⟩ ∈ session.log ++ now := mem_of_frozen_eq_ok hr
      obtain ⟨ds, hlookUp, hds⟩ := hafter.exists_lookUp hmem
      exact .inr ⟨r, ds, hmem, hlookUp, hds⟩
  case root =>
    have hview := (hroot fun _ => .error .unreadable).symm.trans h
    obtain ⟨r, found, hr, hres⟩ := exists_view_of_rootOver_eq_some hview
    obtain ⟨ds, hlookUp, hds⟩ := hafter.exists_lookUp (mem_of_frozen_eq_ok hr)
    exact ⟨r, found, ds, hlookUp, hds, hres⟩

end Live

/-- Owners that are gone and owners that cannot be had are told apart, by one look-up and by all
resolutions of a session.

* A look-up is one of those that `LookUp` lists, with the one delivery that it rests on or none.
* It asks within the namespace of the address if that has one and the kind belongs to namespaces,
  and for the whole cluster otherwise. A mere path that is not too long can always be asked for.
* Whatever was resolved before in the session, a resolution keeps apart what its look-ups told
  apart; its outcome is the one without any logs. -/
theorem owners_told_apart (s : SlowServer σ) (limit : Duration) (asUser : Option String)
    (catalog : Catalog) :
    let fetch := liveFetcher s limit asUser catalog
    (∀ r world log answer world' log', fetch r (world, log) = (answer, (world', log')) ↔
      ∃ ds, LookUp catalog limit asUser r answer ds ∧ s.Delivers world ds world' ∧
        log' = log ++ ds) ∧
    (∀ (kind : Served) (r : ObjectRef),
      (∀ ns, kind.namespaced = true → r.namespace = some ns →
        kind.target r = kind.resource.path (some ns) ++ "/" ++ r.name) ∧
      (kind.namespaced = false ∨ r.namespace = none →
        kind.target r = kind.resource.path none ++ "/" ++ r.name)) ∧
    (∀ path : String, path.toList.all Http.isPathChar = true →
      path.utf8ByteSize ≤ Http.maxUriSize → Api.Request.ofTarget path = .ok { path }) ∧
    ∀ (world : σ) (ms : List Object.Meta) (m : Object.Meta),
      let before := (resolveAll fetch.logged ms (.start ((world, []), []))).2
      let result := resolve fetch.logged m before
      (∃ now, result.2.log = before.log ++ now ∧
        ToldApart catalog limit asUser m before.log now result.2.deliveries result.1) ∧
      result.1 = (resolve fetch m (resolveAll fetch ms (.start (world, []))).2).1 := by
  intro fetch
  refine ⟨fun r world log answer world' log' => ?lookUp, fun kind r => ⟨?namespaced, ?clusterWide⟩,
    fun path hpath hfit => Api.Request.ofTarget_of_path hpath hfit,
    fun world ms m => ⟨?told, ?plain⟩⟩
  case lookUp =>
    refine Api.lookup_eq_iff.trans ⟨?_, ?_⟩
    · rintro ⟨ds, hlookUp, hds⟩
      obtain ⟨hds, hlog⟩ := SlowServer.delivers_logged_iff.1 hds
      exact ⟨ds, hlookUp, hds, hlog⟩
    · rintro ⟨ds, hlookUp, hds, hlog⟩
      exact ⟨ds, hlookUp, SlowServer.delivers_logged_iff.2 ⟨hds, hlog⟩⟩
  case namespaced =>
    intro ns hnamespaced hns
    simp only [Served.target, hnamespaced, hns, if_true]
  case clusterWide =>
    rintro (hkind | hns)
    · simp [Served.target, hkind]
    · simp [Served.target, hns]
  case told =>
    let start : Session ((σ × List Delivery) × List Call) := .start ((world, []), [])
    have hcoherent : start.Coherent := .start (world, [])
    have haccounts : Accounts catalog limit asUser start.log start.deliveries := .nil
    exact resolve_toldApart (hcoherent.resolveAll fetch ms) (haccounts.resolveAll ms) m
  case plain =>
    have hplain := ((simulates_logged fetch).resolveAll ms (.start ((world, []), [])) _ rfl).2
    exact ((simulates_logged fetch).resolve m _ _ hplain).1

/-- Replica sets, as they are served. -/
def servedReplicaSets : Served :=
  { resource :=
      { group := "apps", version := "v1", apiVersion := "apps/v1", kind := "ReplicaSet"
        plural := "replicasets" }
    namespaced := true }

theorem find?_replicaSets :
    (Catalog.ofList [servedReplicaSets]).find? "apps/v1" "ReplicaSet" = some servedReplicaSets := by
  have hversion : Api.splitApiVersion "apps/v1" = ("apps", "v1") := by decide +kernel
  simp only [Catalog.find?, hversion]
  exact Std.HashMap.getElem?_insert_self

/-- A server that has no replica set `web-1`, and is out of order for all others. -/
def outOfOrder : SlowServer Unit := fun q world =>
  let code := if q.path = "/apis/apps/v1/namespaces/shop/replicasets/web-1" then 404 else 503
  ((.answer code "", .ofSeconds 1), world)

/-- Of two objects, the owner of the first is gone and that of the second cannot be had. -/
theorem owners_told_apart_outOfOrder :
    let fetch := liveFetcher outOfOrder (.ofSeconds 30) none (.ofList [servedReplicaSets])
    let owned (name : String) : Object.Meta :=
      { «namespace» := some "shop", ownerReferences := some [replicaSet name] }
    let first := resolve fetch.logged (owned "web-1") (.start (((), []), []))
    let second := resolve fetch.logged (owned "web-2") first.2
    let refused : Api.CallError := .status (.ofAnswer 503 "")
    first.1 = .ok none ∧
      second.1 = .error (.fetch (refOf (some "shop") (replicaSet "web-2")) refused) ∧
      second.2.deliveries.map (·.request.path) =
        ["/apis/apps/v1/namespaces/shop/replicasets/web-1",
          "/apis/apps/v1/namespaces/shop/replicasets/web-2"] := by
  intro fetch owned first second refused
  obtain ⟨hlookUp, -, hpath, -⟩ :=
    owners_told_apart outOfOrder (.ofSeconds 30) none (.ofList [servedReplicaSets])
  let r₁ := refOf (some "shop") (replicaSet "web-1")
  let r₂ := refOf (some "shop") (replicaSet "web-2")
  let d₁ := outOfOrder.deliver { path := servedReplicaSets.target r₁ } ()
  let d₂ := outOfOrder.deliver { path := servedReplicaSets.target r₂ } ()
  have hgone : fetch r₁ ((), []) = (.ok none, ((), [d₁])) :=
    (hlookUp r₁ () [] _ () _).2 ⟨[d₁],
      .asked find?_replicaSets (hpath _ (by decide +kernel) (by decide +kernel)) rfl
        (.absent (by decide) rfl rfl (by decide +kernel)), .cons (.nil ()), rfl⟩
  have hrefused : fetch r₂ ((), [d₁]) = (.error refused, ((), [d₁, d₂])) :=
    (hlookUp r₂ () [d₁] _ () _).2 ⟨[d₂],
      .asked find?_replicaSets (hpath _ (by decide +kernel) (by decide +kernel)) rfl
        (.refused (by decide) rfl rfl (by decide +kernel)), .cons (.nil ()), rfl⟩
  have hfirst : first =
      (.ok none, ⟨(∅ : Std.HashMap ObjectRef _).insert r₁ none, ((), [d₁]), [⟨r₁, .ok none⟩]⟩) := by
    have hanswer : (fetch.logged r₁ (((), []), [])).1 = .ok none := congrArg Prod.fst hgone
    change walk _ (some "shop") [] r₁ _ = _
    rw [walk_of_lookup (by simp) (by decide),
      Session.lookup_of_found (by simp [Session.start]) hanswer]
    simp only [Fetcher.logged, Session.start, hgone, List.nil_append]
  have hsecond : second = (.error (.fetch r₂ refused),
      ⟨(∅ : Std.HashMap ObjectRef _).insert r₁ none, ((), [d₁, d₂]),
        [⟨r₁, .ok none⟩, ⟨r₂, .error refused⟩]⟩) := by
    change walk _ (some "shop") [] r₂ first.2 = _
    have hanswer : (fetch.logged r₂ (((), [d₁]), [⟨r₁, .ok none⟩])).1 = .error refused :=
      congrArg Prod.fst hrefused
    have hne : r₁ ≠ r₂ := by decide +kernel
    have hmiss : ((∅ : Std.HashMap ObjectRef (Option Object.Dynamic)).insert r₁ none)[r₂]? =
        none := by
      simp [hne]
    rw [hfirst, walk_of_lookup (by simp) (by decide),
      Session.lookup_of_failed hmiss hanswer]
    simp only [Fetcher.logged, hrefused, List.singleton_append]
  rw [hfirst, hsecond]
  exact ⟨rfl, rfl, by decide +kernel⟩

/-- An object whose name has a space in it is not asked for, though its kind is served: the look-up
fails before that. -/
theorem spaced_name_not_asked_for :
    let catalog := Catalog.ofList [servedReplicaSets]
    let r : ObjectRef :=
      { apiVersion := "apps/v1", kind := "ReplicaSet", «namespace» := some "shop", name := "web 1" }
    let silent : SlowServer Unit := fun _ world => ((.silence, .ofSeconds 0), world)
    r.name ≠ "" ∧ catalog.find? r.apiVersion r.kind = some servedReplicaSets ∧
    servedReplicaSets.target r = "/apis/apps/v1/namespaces/shop/replicasets/web 1" ∧
    liveFetcher silent (.ofSeconds 30) none catalog r ((), []) =
      (.error (.client "Failed to build request: failed to build request: invalid uri character"
          ["failed to build request: invalid uri character", "invalid uri character"]),
        ((), [])) := by
  intro catalog r silent
  have htarget :
      servedReplicaSets.target r = "/apis/apps/v1/namespaces/shop/replicasets/web 1" := by
    decide +kernel
  have hrequest : Api.Request.ofTarget (servedReplicaSets.target r) = .error .badCharacter := by
    rw [htarget]
    exact Api.Request.ofTarget_of_badCharacter (by decide +kernel) (by decide +kernel)
  exact ⟨by decide, find?_replicaSets, htarget,
    (Api.lookup_of_served find?_replicaSets _ _).trans (Api.get?_of_unbuilt hrequest _ _)⟩

end ClusterInventory.Ownership
