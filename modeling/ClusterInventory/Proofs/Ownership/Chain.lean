import ClusterInventory.Proofs.Ownership.Fetching

/-!
# The chain of owners and where a walk along it ends

`owner?` is the chain of controlling owners above an object, as far as it goes, with no bound and
no regard to repetition. `haltAt?` says of one place in the chain whether a walk ends there and
how. `resolve_start_firstHalt` is the whole meaning of a resolution in a session that remembers
nothing: it ends at the first such place, and asks for the owners up to there, each once.
-/

namespace ClusterInventory.Ownership

open Api (ObjectRef)

section Chain

variable (answers : ObjectRef → Answer) (m : Object.Meta)

/-- Owner number `k` above an object: the one that controls it, the one that controls the object
found there, and so on. All are looked for in the namespace of the object itself. -/
def owner? : Nat → Option ObjectRef
  | 0 => m.controller?.map (refOf m.namespace)
  | k + 1 => do
    let r ← owner? k
    match answers r with
    | .ok (some found) => found.objectMeta.controller?.map (refOf m.namespace)
    | _ => none

/-- The resolution that ends at `r`, where an object with metadata `found` is. -/
def rootAt (r : ObjectRef) (found : Object.Meta) : Resolution where
  root :=
    { kind := r.kind
      apiGroup := Record.recordedGroup (Api.splitApiVersion r.apiVersion).1
      apiVersion := (Api.splitApiVersion r.apiVersion).2
      name := found.shownName
      «namespace» := found.namespace }
  placeholder :=
    { typeMeta :=
        { kind := r.kind
          apiGroup := Record.recordedGroup (Api.splitApiVersion r.apiVersion).1
          apiVersion := (Api.splitApiVersion r.apiVersion).2
          resourceType := Text.toLower r.kind }
      objectMeta := .ofObject found
      spec := .emptyObject
      status := .emptyObject
      rootOwner := none }

/-- The end of a walk: what it gives, and how many owners were asked for. -/
structure Halt where
  outcome : Outcome
  fetches : Nat

/-- The end of a walk at owner number `k`, if it ends there. -/
def haltAt? (k : Nat) : Option Halt := do
  let r ← owner? answers m k
  if ∃ j < k, owner? answers m j = some r then some ⟨.error (.cycle r), k⟩
  else if k = maxHops then some ⟨.error .tooLong, k⟩
  else
    match answers r with
    | .error e => some ⟨.error (.fetch r e), k + 1⟩
    | .ok none => some ⟨.ok none, k + 1⟩
    | .ok (some found) =>
      if found.objectMeta.controller?.isNone then
        some ⟨.ok (some (rootAt r found.objectMeta)), k + 1⟩
      else none

/-- Owner number `k` is the first at which a walk ends. -/
structure FirstHalt (k : Nat) (halt : Halt) : Prop where
  passed : ∀ j < k, haltAt? answers m j = none
  here : haltAt? answers m k = some halt

variable {answers m} in
/-- A walk ends in one way only. -/
theorem FirstHalt.unique {k k' : Nat} {halt halt' : Halt} (h : FirstHalt answers m k halt)
    (h' : FirstHalt answers m k' halt') : k = k' ∧ halt = halt' := by
  obtain hlt | rfl | hlt := Nat.lt_trichotomy k k'
  · exact absurd (h'.passed k hlt) (by simp [h.here])
  · exact ⟨rfl, Option.some.inj (h.here.symm.trans h'.here)⟩
  · exact absurd (h.passed k' hlt) (by simp [h'.here])

end Chain

theorem ofRoot_eq_rootAt (r : ObjectRef) (found : Object.Meta) :
    Resolution.ofRoot r found = rootAt r found := rfl

theorem recordedGroup_recordedGroup (group : String) :
    Record.recordedGroup (Record.recordedGroup group) = Record.recordedGroup group := by
  by_cases h : group.isEmpty
  · have hcore : Record.recordedGroup group = Record.coreGroup := if_pos h
    rw [hcore]
    rfl
  · have hgroup : Record.recordedGroup group = group := if_neg h
    rw [hgroup, hgroup]

/-- The root and the record that may stand for it are one workload. -/
theorem id_root_rootAt (r : ObjectRef) (found : Object.Meta) :
    (rootAt r found).root.id = (rootAt r found).placeholder.id := by
  simp only [rootAt, Record.RootOwner.id, Record.Workload.id, recordedGroup_recordedGroup]
  rfl

section Roots

variable {σ : Type} {fetch : Fetcher σ} {P : Session σ → Prop}
  {Q : ObjectRef → Object.Dynamic → Prop}

/-- What holds of all that look-ups find holds of the object at which a walk ends with a root
owner. -/
theorem exists_rootAt_of_walk (hP : ∀ r s, P s → P (s.lookup fetch r).2)
    (hQ : ∀ r s found s', P s → s.lookup fetch r = (.ok (some found), s') → Q r found)
    {«namespace» : Option String} {visited : List ObjectRef} {next : ObjectRef} {s : Session σ}
    (hs : P s) {res : Resolution}
    (h : (walk fetch «namespace» visited next s).1 = .ok (some res)) :
    ∃ r found, Q r found ∧ res = rootAt r found.objectMeta := by
  fun_induction walk fetch «namespace» visited next s with
  | case1 => cases h
  | case2 => cases h
  | case3 => cases h
  | case4 => cases h
  | case5 _ next s _ _ _ _ hl _ _ ih =>
    have hs' := hP next s hs
    rw [hl] at hs'
    exact ih hs' h
  | case6 _ next s _ _ found s' hl _ =>
    cases h
    exact ⟨next, found, hQ next s found s' hs hl, ofRoot_eq_rootAt next found.objectMeta⟩

theorem exists_rootAt_of_resolve_of (hP : ∀ r s, P s → P (s.lookup fetch r).2)
    (hQ : ∀ r s found s', P s → s.lookup fetch r = (.ok (some found), s') → Q r found)
    {m : Object.Meta} {s : Session σ} (hs : P s) {res : Resolution}
    (h : (resolve fetch m s).1 = .ok (some res)) :
    ∃ r found, Q r found ∧ res = rootAt r found.objectMeta := by
  unfold resolve at h
  split at h
  · cases h
  · exact exists_rootAt_of_walk hP hQ hs h

/-- Every root owner that a resolution gives is an object that was found at some address. -/
theorem exists_rootAt_of_resolve {m : Object.Meta} {s : Session σ} {res : Resolution}
    (h : (resolve fetch m s).1 = .ok (some res)) : ∃ r found, res = rootAt r found := by
  obtain ⟨r, found, -, heq⟩ := exists_rootAt_of_resolve_of (P := fun _ => True)
    (Q := fun _ _ => True) (fun _ _ _ => trivial) (fun _ _ _ _ _ _ => trivial) trivial h
  exact ⟨r, found.objectMeta, heq⟩

end Roots

variable {σ : Type} {answers : ObjectRef → Answer} {m : Object.Meta} {k : Nat} {r : ObjectRef}

section Places

theorem haltAt?_of_repeated (h : owner? answers m k = some r)
    (hr : ∃ j < k, owner? answers m j = some r) :
    haltAt? answers m k = some ⟨.error (.cycle r), k⟩ := by
  simp only [haltAt?, h, Option.bind_eq_bind, Option.bind_some]
  rw [if_pos hr]

theorem haltAt?_of_maxHops (h : owner? answers m k = some r)
    (hr : ¬∃ j < k, owner? answers m j = some r) (hk : k = maxHops) :
    haltAt? answers m k = some ⟨.error .tooLong, k⟩ := by
  simp only [haltAt?, h, Option.bind_eq_bind, Option.bind_some]
  rw [if_neg hr, if_pos hk]

/-- At an owner that is asked for the answer decides. -/
theorem haltAt?_of_fetched (h : owner? answers m k = some r)
    (hr : ¬∃ j < k, owner? answers m j = some r) (hk : k ≠ maxHops) :
    haltAt? answers m k =
      match answers r with
      | .error e => some ⟨.error (.fetch r e), k + 1⟩
      | .ok none => some ⟨.ok none, k + 1⟩
      | .ok (some found) =>
        if found.objectMeta.controller?.isNone then
          some ⟨.ok (some (rootAt r found.objectMeta)), k + 1⟩
        else none := by
  simp only [haltAt?, h, Option.bind_eq_bind, Option.bind_some]
  rw [if_neg hr, if_neg hk]

theorem fetches_le_maxHops {halt : Halt} (h : haltAt? answers m k = some halt)
    (hk : k ≤ maxHops) : halt.fetches ≤ maxHops := by
  obtain ⟨r, hr, h⟩ := Option.bind_eq_some_iff.1 h
  split at h
  · cases h
    exact hk
  · split at h
    · cases h
      exact hk
    · next hne =>
      have hlt : k + 1 ≤ maxHops := Nat.lt_of_le_of_ne hk hne
      split at h
      · cases h
        exact hlt
      · cases h
        exact hlt
      · split at h
        · cases h
          exact hlt
        · cases h

end Places

/-! ## A walk follows the chain -/

/-- A walk that remembered nothing before it began stands at owner number `k`: it has visited
the owners before, asked for each of them once, and remembers no others. -/
structure Walking (fetch : Fetcher σ) (answers : ObjectRef → Answer) (m : Object.Meta) (k : Nat)
    (visited : List ObjectRef) (next : ObjectRef) (s : Session (σ × List Call)) : Prop where
  standing : owner? answers m k = some next
  behind : ∀ r, r ∈ visited ↔ ∃ j < k, owner? answers m j = some r
  length : visited.length = k
  inReach : k ≤ maxHops
  passed : ∀ j < k, haltAt? answers m j = none
  asked : s.log.map (fun c => some c.ref) = (List.range k).map (owner? answers m)
  remembered : ∀ r, r ∈ s.cache → r ∈ visited
  steady : fetch.logged.Steady answers s.world

namespace Walking

variable {fetch : Fetcher σ} {visited : List ObjectRef} {next : ObjectRef}
  {s s' : Session (σ × List Call)}

theorem start {world : σ} (h : fetch.Steady answers world)
    (hr : owner? answers m 0 = some r) :
    Walking fetch answers m 0 [] r (.start (world, [])) where
  standing := hr
  behind := by simp
  length := rfl
  inReach := Nat.zero_le _
  passed := by simp
  asked := rfl
  remembered := by simp [Session.start]
  steady := h.logged

/-- An owner that was not visited is not remembered either, so it is asked for. -/
theorem lookup (h : Walking fetch answers m k visited next s) (hnext : next ∉ visited)
    {answer : Answer} (hl : s.lookup fetch.logged next = (answer, s')) :
    answers next = answer ∧ s'.log = s.log ++ [⟨next, answer⟩] ∧
      (∀ r, r ∈ s'.cache → r ∈ next :: visited) ∧ fetch.logged.Steady answers s'.world := by
  obtain ⟨_, hhit, _⟩ | ⟨found, _, ha, hl'⟩ | ⟨e, _, ha, hl'⟩ :=
    Session.lookup_cases fetch.logged next s
  · exact absurd (h.remembered next (Std.HashMap.mem_iff_isSome_getElem?.2 (by simp [hhit]))) hnext
  · rw [hl'] at hl
    cases hl
    refine ⟨(h.steady.answer next).symm.trans ha, ?_, fun r hr => ?_, h.steady.next next⟩
    · rw [← ha]; rfl
    · rcases Std.HashMap.mem_insert.1 hr with heq | hr
      · exact List.mem_cons.2 (.inl (eq_of_beq heq).symm)
      · exact List.mem_cons_of_mem _ (h.remembered r hr)
  · rw [hl'] at hl
    cases hl
    refine ⟨(h.steady.answer next).symm.trans ha, ?_, fun r hr => ?_, h.steady.next next⟩
    · rw [← ha]; rfl
    · exact List.mem_cons_of_mem _ (h.remembered r hr)

theorem asked_next (h : Walking fetch answers m k visited next s) {answer : Answer}
    (hlog : s'.log = s.log ++ [⟨next, answer⟩]) :
    s'.log.map (fun c => some c.ref) = (List.range (k + 1)).map (owner? answers m) := by
  rw [hlog, List.map_append, h.asked, List.range_succ, List.map_append]
  simp [h.standing]

theorem not_repeated (h : Walking fetch answers m k visited next s) (hnext : next ∉ visited) :
    ¬∃ j < k, owner? answers m j = some next :=
  fun hr => hnext ((h.behind next).2 hr)

theorem ne_maxHops (h : Walking fetch answers m k visited next s)
    (hlen : ¬visited.length ≥ maxHops) : k ≠ maxHops := by
  have := h.length
  omega

/-- The walk goes on from an owner that is itself controlled. -/
theorem step (h : Walking fetch answers m k visited next s) (hnext : next ∉ visited)
    (hlen : ¬visited.length ≥ maxHops) {found : Object.Dynamic} {parent : Object.OwnerReference}
    (hl : s.lookup fetch.logged next = (.ok (some found), s'))
    (hc : found.objectMeta.controller? = some parent) :
    Walking fetch answers m (k + 1) (next :: visited) (refOf m.namespace parent) s' := by
  obtain ⟨ha, hlog, hcache, hsteady⟩ := h.lookup hnext hl
  refine ⟨?_, fun r => ?_, ?_, ?_, fun j hj => ?_, h.asked_next hlog, hcache, hsteady⟩
  · simp [owner?, h.standing, ha, hc]
  · rw [List.mem_cons, h.behind]
    constructor
    · rintro (rfl | ⟨j, hj, hr⟩)
      · exact ⟨k, Nat.lt_succ_self k, h.standing⟩
      · exact ⟨j, Nat.lt_succ_of_lt hj, hr⟩
    · rintro ⟨j, hj, hr⟩
      rcases Nat.lt_succ_iff_lt_or_eq.1 hj with hj | rfl
      · exact .inr ⟨j, hj, hr⟩
      · exact .inl (Option.some.inj (hr.symm.trans h.standing))
  · rw [List.length_cons, h.length]
  · have := h.length
    omega
  · rcases Nat.lt_succ_iff_lt_or_eq.1 hj with hj | rfl
    · exact h.passed j hj
    · rw [haltAt?_of_fetched h.standing (h.not_repeated hnext) (h.ne_maxHops hlen), ha]
      simp [hc]

/-- From where it stands, the walk ends at the first place where a walk ends, and has then asked
for as many owners as that place says. -/
theorem run (h : Walking fetch answers m k visited next s) :
    ∃ n halt, FirstHalt answers m n halt ∧ n ≤ maxHops ∧
      (walk fetch.logged m.namespace visited next s).1 = halt.outcome ∧
      (walk fetch.logged m.namespace visited next s).2.log.map (fun c => some c.ref) =
        (List.range halt.fetches).map (owner? answers m) := by
  fun_induction walk fetch.logged m.namespace visited next s generalizing k with
  | case1 visited next s hmem =>
    have here := haltAt?_of_repeated h.standing ((h.behind next).1 hmem)
    exact ⟨k, _, ⟨h.passed, here⟩, h.inReach, rfl, h.asked⟩
  | case2 visited next s hmem hlen =>
    -- the walk stands within reach and has visited all it may, so it stands at the limit
    have hk : k = maxHops := by
      have := h.length
      have := h.inReach
      omega
    have here := haltAt?_of_maxHops h.standing (h.not_repeated hmem) hk
    exact ⟨k, _, ⟨h.passed, here⟩, h.inReach, rfl, h.asked⟩
  | case3 visited next s hmem hlen e s' hl =>
    obtain ⟨ha, hlog, _⟩ := h.lookup hmem hl
    have here := haltAt?_of_fetched h.standing (h.not_repeated hmem) (h.ne_maxHops hlen)
    rw [ha] at here
    exact ⟨k, _, ⟨h.passed, here⟩, h.inReach, rfl, h.asked_next hlog⟩
  | case4 visited next s hmem hlen s' hl =>
    obtain ⟨ha, hlog, _⟩ := h.lookup hmem hl
    have here := haltAt?_of_fetched h.standing (h.not_repeated hmem) (h.ne_maxHops hlen)
    rw [ha] at here
    exact ⟨k, _, ⟨h.passed, here⟩, h.inReach, rfl, h.asked_next hlog⟩
  | case5 visited next s hmem hlen found s' hl parent hc ih =>
    exact ih (h.step hmem hlen hl hc)
  | case6 visited next s hmem hlen found s' hl hc =>
    obtain ⟨ha, hlog, _⟩ := h.lookup hmem hl
    have here := haltAt?_of_fetched h.standing (h.not_repeated hmem) (h.ne_maxHops hlen)
    simp only [ha, hc, Option.isNone_none, if_true] at here
    refine ⟨k, _, ⟨h.passed, here⟩, h.inReach, ?_, h.asked_next hlog⟩
    rw [ofRoot_eq_rootAt]

end Walking

/-- What a resolution is in a session that remembers nothing. Without an owner nothing is asked.
Otherwise the outcome is that of the first owner at which a walk ends, and exactly the owners up
to there are asked for, in their order; they are never more than `maxHops`, also where the chain
has no end. -/
theorem resolve_start_firstHalt (fetch : Fetcher σ) (answers : ObjectRef → Answer) (world : σ)
    (h : fetch.Steady answers world) (m : Object.Meta) :
    (m.controller? = none →
      resolve fetch.logged m (.start (world, [])) = (.ok none, .start (world, []))) ∧
    (m.controller? ≠ none →
      ∃ k halt, FirstHalt answers m k halt ∧ k ≤ maxHops ∧ halt.fetches ≤ maxHops ∧
        (resolve fetch.logged m (.start (world, []))).1 = halt.outcome ∧
        (resolve fetch.logged m (.start (world, []))).2.log.length = halt.fetches ∧
        (resolve fetch.logged m (.start (world, []))).2.log.map (fun c => some c.ref) =
          (List.range halt.fetches).map (owner? answers m)) ∧
    (resolve fetch m (.start world)).1 = (resolve fetch.logged m (.start (world, []))).1 := by
  refine ⟨?_, ?_, ?_⟩
  · intro hc
    simp [resolve, hc]
  · intro hc
    obtain ⟨first, hfirst⟩ := Option.ne_none_iff_exists'.1 hc
    have h0 : owner? answers m 0 = some (refOf m.namespace first) := by simp [owner?, hfirst]
    obtain ⟨k, halt, hhalt, hk, houtcome, hlog⟩ := (Walking.start h h0).run
    have hlength := congrArg List.length hlog
    rw [List.length_map, List.length_map, List.length_range] at hlength
    simp only [resolve, hfirst]
    exact ⟨k, halt, hhalt, hk, fetches_le_maxHops hhalt.here hk, houtcome, hlength, hlog⟩
  · exact ((simulates_logged fetch).resolve m (.start (world, [])) _ rfl).1.symm

/-- A replica set as a controlling owner. -/
def replicaSet (name : String) : Object.OwnerReference :=
  { apiVersion := "apps/v1", kind := "ReplicaSet", name, controller := some true }

/-- Of two owners each controls the other. -/
def mutualOwners (r : ObjectRef) : Answer :=
  .ok (some
    { objectMeta := { ownerReferences := some [replicaSet (if r.name = "a" then "b" else "a")] }
      data := .null })

/-- A walk up to owners that control each other asks for both, and stops where it meets the first
of them again. -/
theorem resolve_start_mutualOwners :
    (Fetcher.ofAnswers mutualOwners).Steady mutualOwners () ∧
      (resolve (Fetcher.ofAnswers mutualOwners).logged { ownerReferences := some [replicaSet "a"] }
        (.start ((), []))).1 = .error (.cycle ⟨"apps/v1", "ReplicaSet", none, "a"⟩) ∧
      (resolve (Fetcher.ofAnswers mutualOwners).logged { ownerReferences := some [replicaSet "a"] }
        (.start ((), []))).2.log.length = 2 := by
  have hs := Fetcher.steady_ofAnswers mutualOwners ()
  have hhalt : FirstHalt mutualOwners { ownerReferences := some [replicaSet "a"] } 2
      ⟨.error (.cycle ⟨"apps/v1", "ReplicaSet", none, "a"⟩), 2⟩ := by
    refine ⟨fun j hj => ?_, rfl⟩
    match j with
    | 0 => rfl
    | 1 => rfl
  obtain ⟨_, hrun, _⟩ := resolve_start_firstHalt (Fetcher.ofAnswers mutualOwners) mutualOwners () hs
    { ownerReferences := some [replicaSet "a"] }
  obtain ⟨k, halt, hhalt', _, _, houtcome, hlength, _⟩ := hrun (by decide)
  obtain ⟨rfl, rfl⟩ := hhalt.unique hhalt'
  exact ⟨hs, houtcome, hlength⟩

end ClusterInventory.Ownership
