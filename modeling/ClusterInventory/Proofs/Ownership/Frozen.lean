import ClusterInventory.Proofs.Ownership.Chain

/-!
# A session freezes the cluster and changes nothing else

`rootOver` is the walk without any memory, over a view of the cluster that is given at once. The
memory of a session is read off its log (`Session.Coherent`): it holds the first answer without
failure that each address got. `resolve_frozen` compares the two, over any history of resolutions
and for any fetcher: what a session gives is what the walk without memory gives over the view
`frozen`, in which every address keeps that first answer.
-/

namespace ClusterInventory.Ownership

open Api (ObjectRef CallError)

/-! ## The walk without memory -/

/-- Walks on to the owner `next`, after those in `visited`, over a given view of the cluster. -/
def climb (view : ObjectRef → Answer) («namespace» : Option String) (visited : List ObjectRef)
    (next : ObjectRef) : Outcome :=
  if next ∈ visited then .error (.cycle next)
  else if visited.length ≥ maxHops then .error .tooLong
  else
    match view next with
    | .error e => .error (.fetch next e)
    | .ok none => .ok none
    | .ok (some found) =>
      match found.objectMeta.controller? with
      | some parent => climb view «namespace» (next :: visited) (refOf «namespace» parent)
      | none => .ok (some (.ofRoot next found.objectMeta))
termination_by maxHops - visited.length

/-- The root owner of an object over a given view of the cluster. -/
def rootOver (view : ObjectRef → Answer) (m : Object.Meta) : Outcome :=
  match m.controller? with
  | none => .ok none
  | some first => climb view m.namespace [] (refOf m.namespace first)

section Climb

variable {view : ObjectRef → Answer} {«namespace» : Option String} {visited : List ObjectRef}
  {next : ObjectRef}

theorem climb_of_mem (h : next ∈ visited) :
    climb view «namespace» visited next = .error (.cycle next) := by
  rw [climb, if_pos h]

theorem climb_of_maxHops (h : next ∉ visited) (hlen : visited.length ≥ maxHops) :
    climb view «namespace» visited next = .error .tooLong := by
  rw [climb, if_neg h, if_pos hlen]

theorem climb_of_view (h : next ∉ visited) (hlen : ¬visited.length ≥ maxHops) :
    climb view «namespace» visited next =
      match view next with
      | .error e => .error (.fetch next e)
      | .ok none => .ok none
      | .ok (some found) =>
        match found.objectMeta.controller? with
        | some parent => climb view «namespace» (next :: visited) (refOf «namespace» parent)
        | none => .ok (some (.ofRoot next found.objectMeta)) := by
  rw [climb, if_neg h]
  exact if_neg hlen

end Climb

/-! ## What a log says of an address -/

/-- The first answer without failure that an address got. -/
def firstFound (log : List Call) (r : ObjectRef) : Option (Option Object.Dynamic) :=
  log.findSome? fun c => if c.ref = r then c.answer.toOption else none

/-- The view in which each address has the first answer without failure that it got, in the past
or now. Where there is none it has the answer that it gets now, and where it is not asked for now
any answer will do. -/
def frozen (past now : List Call) (elsewhere : ObjectRef → Answer) (r : ObjectRef) : Answer :=
  match firstFound (past ++ now) r with
  | some found => .ok found
  | none => ((now.find? fun c => c.ref = r).map (·.answer)).getD (elsewhere r)

/-- No address is asked for again after an answer without failure. -/
def NotAskedAgain (log : List Call) : Prop :=
  log.Pairwise fun c d => ∀ found, c.answer = .ok found → d.ref ≠ c.ref

section FirstFound

variable {past now : List Call} {elsewhere : ObjectRef → Answer} {r r' : ObjectRef}

theorem firstFound_append :
    firstFound (past ++ now) r = (firstFound past r).or (firstFound now r) :=
  List.findSome?_append

theorem firstFound_cons {c : Call} :
    firstFound (c :: now) r =
      (if c.ref = r then c.answer.toOption else none).or (firstFound now r) := by
  unfold firstFound
  rw [List.findSome?_cons]
  cases if c.ref = r then c.answer.toOption else none <;> rfl

theorem firstFound_single {answer : Answer} :
    firstFound [⟨r', answer⟩] r = if r' = r then answer.toOption else none := by
  rw [firstFound_cons]
  exact Option.or_none

/-- An address without such an answer was only ever answered with failures. -/
theorem ne_of_firstFound_eq_none {c : Call} {found : Option Object.Dynamic}
    (h : firstFound past r = none) (hc : c ∈ past) (ha : c.answer = .ok found) : r ≠ c.ref := by
  rintro rfl
  have := List.findSome?_eq_none_iff.1 h c hc
  simp [ha, Except.toOption] at this

theorem frozen_of_found {found : Option Object.Dynamic}
    (h : firstFound (past ++ now) r = some found) : frozen past now elsewhere r = .ok found := by
  simp only [frozen, h]

/-- A failure is seen where it is all that there is. -/
theorem frozen_of_failed {e : CallError} (h : firstFound past r = none) :
    frozen past [⟨r, .error e⟩] elsewhere r = .error e := by
  have hnone : firstFound (past ++ [⟨r, .error e⟩]) r = none := by
    rw [firstFound_append, h, firstFound_single]
    simp [Except.toOption]
  simp [frozen, hnone]

/-- An answer without failure may be counted to the past as well. -/
theorem frozen_cons_ok {found : Option Object.Dynamic} :
    frozen past (⟨r, .ok found⟩ :: now) elsewhere =
      frozen (past ++ [⟨r, .ok found⟩]) now elsewhere := by
  funext r'
  unfold frozen
  rw [List.append_assoc, List.singleton_append]
  split
  · rfl
  · next hnone =>
    have hne : r ≠ r' := by
      rintro rfl
      exact ne_of_firstFound_eq_none hnone (List.mem_append_right _ (.head _)) rfl rfl
    rw [List.find?_cons_of_neg (by simpa using hne)]

end FirstFound

/-! ## The memory of a session is read off its log -/

variable {σ : Type} {fetch : Fetcher σ}

/-- A session remembers of each address the first answer without failure that is in its log, and
an address that has got one is not asked for again. -/
structure Session.Coherent (s : Session (σ × List Call)) : Prop where
  cache : ∀ r : ObjectRef, s.cache[r]? = firstFound s.log r
  once : NotAskedAgain s.log

namespace Session.Coherent

variable {s s' : Session (σ × List Call)} {r : ObjectRef}

theorem start (world : σ) : Coherent (.start (world, [])) where
  cache r := by simp [Session.start, Session.log, firstFound]
  once := .nil

theorem once_snoc (h : s.Coherent) {answer : Answer} (hmiss : firstFound s.log r = none) :
    NotAskedAgain (s.log ++ [⟨r, answer⟩]) := by
  refine List.pairwise_append.2 ⟨h.once, List.pairwise_singleton _ _, fun c hc d hd found ha => ?_⟩
  cases List.mem_singleton.1 hd
  exact ne_of_firstFound_eq_none hmiss hc ha

theorem lookup (h : s.Coherent) (fetch : Fetcher σ) (r : ObjectRef) :
    (s.lookup fetch.logged r).2.Coherent := by
  obtain ⟨found, hhit, hl⟩ | ⟨found, hmiss, ha, hl⟩ | ⟨e, hmiss, ha, hl⟩ :=
    Session.lookup_cases fetch.logged r s <;> rw [hl]
  · exact h
  · have hnone := (h.cache r).symm.trans hmiss
    have hlog : Session.log ⟨s.cache.insert r found, (fetch.logged r s.world).2⟩ =
        s.log ++ [⟨r, .ok found⟩] := by rw [← ha]; rfl
    refine ⟨fun r' => ?_, hlog ▸ h.once_snoc hnone⟩
    rw [hlog, firstFound_append, firstFound_single, ← h.cache, Std.HashMap.getElem?_insert]
    by_cases heq : r = r'
    · subst heq
      simp [hmiss, Except.toOption]
    · simp [heq]
  · have hnone := (h.cache r).symm.trans hmiss
    have hlog : Session.log ⟨s.cache, (fetch.logged r s.world).2⟩ = s.log ++ [⟨r, .error e⟩] := by
      rw [← ha]; rfl
    refine ⟨fun r' => ?_, hlog ▸ h.once_snoc hnone⟩
    rw [hlog, firstFound_append, firstFound_single, ← h.cache]
    simp [Except.toOption]

theorem resolve (h : s.Coherent) (fetch : Fetcher σ) (m : Object.Meta) :
    (resolve fetch.logged m s).2.Coherent :=
  resolve_preserves (fun r _ h => h.lookup fetch r) m s h

theorem resolveAll (h : s.Coherent) (fetch : Fetcher σ) (ms : List Object.Meta) :
    (resolveAll fetch.logged ms s).2.Coherent :=
  resolveAll_preserves (fun r _ h => h.lookup fetch r) ms s h

/-- A look-up that did not fail shows in the frozen view, whatever is asked later. -/
theorem frozen_of_lookup_ok (h : s.Coherent) {found : Option Object.Dynamic}
    (hl : s.lookup fetch.logged r = (.ok found, s')) :
    ∃ now, s'.log = s.log ++ now ∧ ∀ later elsewhere,
      frozen s.log (now ++ later) elsewhere r = .ok found ∧
        frozen s.log (now ++ later) elsewhere = frozen s'.log later elsewhere := by
  obtain ⟨_, hhit, hl'⟩ | ⟨_, hmiss, ha, hl'⟩ | ⟨_, _, _, hl'⟩ :=
    Session.lookup_cases fetch.logged r s <;> rw [hl'] at hl <;> cases hl
  · refine ⟨[], (List.append_nil _).symm, fun later elsewhere => ⟨frozen_of_found ?_, rfl⟩⟩
    rw [firstFound_append, ← h.cache, hhit, Option.some_or]
  · have hlog : Session.log ⟨s.cache.insert r found, (fetch.logged r s.world).2⟩ =
        s.log ++ [⟨r, .ok found⟩] := by rw [← ha]; rfl
    refine ⟨[⟨r, .ok found⟩], hlog, fun later elsewhere => ⟨frozen_of_found ?_, ?_⟩⟩
    · rw [firstFound_append, ← h.cache, hmiss, Option.none_or, List.singleton_append,
        firstFound_cons]
      simp [Except.toOption]
    · rw [hlog]
      exact frozen_cons_ok

/-- A look-up that failed shows in the frozen view if nothing is asked after it. -/
theorem frozen_of_lookup_error (h : s.Coherent) {e : CallError}
    (hl : s.lookup fetch.logged r = (.error e, s')) :
    s'.log = s.log ++ [⟨r, .error e⟩] ∧
      ∀ elsewhere, frozen s.log [⟨r, .error e⟩] elsewhere r = .error e := by
  obtain ⟨_, _, hl'⟩ | ⟨_, _, _, hl'⟩ | ⟨_, hmiss, ha, hl'⟩ :=
    Session.lookup_cases fetch.logged r s <;> rw [hl'] at hl <;> cases hl
  refine ⟨by rw [← ha]; rfl, fun elsewhere => frozen_of_failed ?_⟩
  rw [← h.cache, hmiss]

/-- A walk gives what the walk without memory gives over the frozen view, and the calls that it
makes are all that this view needs of the present. -/
theorem walk (h : s.Coherent) (fetch : Fetcher σ) («namespace» : Option String)
    (visited : List ObjectRef) (next : ObjectRef) :
    ∃ now, (walk fetch.logged «namespace» visited next s).2.log = s.log ++ now ∧
      ∀ elsewhere, (walk fetch.logged «namespace» visited next s).1 =
        climb (frozen s.log now elsewhere) «namespace» visited next := by
  fun_induction Ownership.walk fetch.logged «namespace» visited next s with
  | case1 visited next s hmem =>
    exact ⟨[], (List.append_nil _).symm, fun _ => (climb_of_mem hmem).symm⟩
  | case2 visited next s hmem hlen =>
    exact ⟨[], (List.append_nil _).symm, fun _ => (climb_of_maxHops hmem hlen).symm⟩
  | case3 visited next s hmem hlen e s' hl =>
    obtain ⟨hlog, hview⟩ := h.frozen_of_lookup_error hl
    refine ⟨_, hlog, fun elsewhere => ?_⟩
    rw [climb_of_view hmem hlen, hview]
  | case4 visited next s hmem hlen s' hl =>
    obtain ⟨now, hlog, hview⟩ := h.frozen_of_lookup_ok hl
    refine ⟨now, hlog, fun elsewhere => ?_⟩
    have hnext := (hview [] elsewhere).1
    rw [List.append_nil] at hnext
    rw [climb_of_view hmem hlen, hnext]
  | case5 visited next s hmem hlen found s' hl parent hc ih =>
    -- what is asked later does not change the view of `next`, and what was asked now may be
    -- counted to the past of the rest of the walk
    obtain ⟨now, hlog, hview⟩ := h.frozen_of_lookup_ok hl
    have hs' : s'.Coherent := by
      have := h.lookup fetch next
      rwa [hl] at this
    obtain ⟨later, hlater, hclimb⟩ := ih hs'
    refine ⟨now ++ later, by rw [hlater, hlog, List.append_assoc], fun elsewhere => ?_⟩
    obtain ⟨hnext, hrest⟩ := hview later elsewhere
    rw [climb_of_view hmem hlen, hnext, hrest]
    simp only [hc]
    exact hclimb elsewhere
  | case6 visited next s hmem hlen found s' hl hc =>
    obtain ⟨now, hlog, hview⟩ := h.frozen_of_lookup_ok hl
    refine ⟨now, hlog, fun elsewhere => ?_⟩
    have hnext := (hview [] elsewhere).1
    rw [List.append_nil] at hnext
    rw [climb_of_view hmem hlen, hnext]
    simp only [hc]

theorem resolve_eq_rootOver (h : s.Coherent) (fetch : Fetcher σ) (m : Object.Meta) :
    ∃ now, (Ownership.resolve fetch.logged m s).2.log = s.log ++ now ∧
      ∀ elsewhere, (Ownership.resolve fetch.logged m s).1 =
        rootOver (frozen s.log now elsewhere) m := by
  cases hm : m.controller? with
  | none =>
    simp only [Ownership.resolve, rootOver, hm]
    exact ⟨[], (List.append_nil _).symm, fun _ => trivial⟩
  | some first =>
    simp only [Ownership.resolve, rootOver, hm]
    exact h.walk fetch m.namespace [] _

end Session.Coherent

/-! ## Asking once more -/

/-- A walk that did not fail on an owner is repeated without a call by any session that
remembers at least as much. -/
theorem walk_again {«namespace» : Option String} {visited : List ObjectRef} {next : ObjectRef}
    {s : Session σ}
    (hout : ∀ r e, (walk fetch «namespace» visited next s).1 ≠ .error (.fetch r e))
    {t : Session σ} (ht : (walk fetch «namespace» visited next s).2.Within t) :
    walk fetch «namespace» visited next t = ((walk fetch «namespace» visited next s).1, t) := by
  fun_induction walk fetch «namespace» visited next s with
  | case1 visited next s hmem => rw [walk_of_mem hmem]
  | case2 visited next s hmem hlen => rw [walk_of_maxHops hmem hlen]
  | case3 visited next s hmem hlen e s' hl => exact absurd rfl (hout next e)
  | case4 visited next s hmem hlen s' hl =>
    have hhit := ht next none (Session.cache_of_lookup_ok hl)
    rw [walk_of_lookup hmem hlen, Session.lookup_of_hit hhit]
  | case5 visited next s hmem hlen found s' hl parent hc ih =>
    -- the owner is remembered at `s'`, hence at the end of the walk, hence at `t`
    have hgrow :=
      (within_walk fetch «namespace» (next :: visited) (refOf «namespace» parent) s').trans ht
    have hhit := hgrow next (some found) (Session.cache_of_lookup_ok hl)
    rw [walk_of_lookup hmem hlen, Session.lookup_of_hit hhit]
    simp only [hc]
    exact ih hout ht
  | case6 visited next s hmem hlen found s' hl hc =>
    have hhit := ht next (some found) (Session.cache_of_lookup_ok hl)
    rw [walk_of_lookup hmem hlen, Session.lookup_of_hit hhit]
    simp only [hc]

/-- What of a controlling owner decides where it is looked for. -/
def ownerKey (o : Object.OwnerReference) : String × String × String :=
  (o.apiVersion, o.kind, o.name)

theorem refOf_eq_of_ownerKey {«namespace» : Option String} {o o' : Object.OwnerReference}
    (h : ownerKey o = ownerKey o') : refOf «namespace» o = refOf «namespace» o' := by
  simp only [ownerKey, Prod.mk.injEq] at h
  obtain ⟨hv, hk, hn⟩ := h
  simp only [refOf, hv, hk, hn]

theorem resolve_again {m m' : Object.Meta} {s t : Session σ} (hns : m'.namespace = m.namespace)
    (hc : m'.controller?.map ownerKey = m.controller?.map ownerKey)
    (hout : ∀ r e, (resolve fetch m s).1 ≠ .error (.fetch r e))
    (ht : (resolve fetch m s).2.Within t) :
    resolve fetch m' t = ((resolve fetch m s).1, t) := by
  cases hm : m.controller? with
  | none =>
    have hm' : m'.controller? = none := by simpa [hm] using hc
    simp only [resolve, hm, hm']
  | some o =>
    obtain ⟨o', hm', hkey⟩ := Option.map_eq_some_iff.1 (hc.trans (by rw [hm]; rfl))
    simp only [resolve, hm] at hout ht
    simp only [resolve, hm, hm', hns, refOf_eq_of_ownerKey hkey]
    exact walk_again hout ht

/-- What a session of resolutions gives, at any point of any history `ms` and for any fetcher, also
one that answers differently from call to call.

* No address is asked for again after an answer without failure.
* The outcome is that of the walk without memory over the view that is frozen in this way; an
  address without such an answer is seen as it is answered now.
* After an outcome that is no failure of a look-up, every later resolution that starts at the same
  owner in the same namespace has the same outcome and changes nothing, so that it makes no call.
* A session over a steady fetcher gives what a fresh session gives.

The log in which this is seen changes no outcome. -/
theorem resolve_frozen (fetch : Fetcher σ) (world : σ) (ms : List Object.Meta) (m : Object.Meta) :
    let s := (resolveAll fetch.logged ms (.start (world, []))).2
    let outcome := (resolve fetch.logged m s).1
    let s' := (resolve fetch.logged m s).2
    NotAskedAgain s'.log ∧
    (∃ now, s'.log = s.log ++ now ∧
      ∀ elsewhere, outcome = rootOver (frozen s.log now elsewhere) m) ∧
    ((∀ r e, outcome ≠ .error (.fetch r e)) → ∀ later m', m'.namespace = m.namespace →
      m'.controller?.map ownerKey = m.controller?.map ownerKey →
        resolve fetch.logged m' (resolveAll fetch.logged later s').2 =
          (outcome, (resolveAll fetch.logged later s').2)) ∧
    (∀ answers, fetch.Steady answers world →
      outcome = (resolve fetch m (.start world)).1 ∧
        outcome = (resolve fetch m (.start s.plain.world)).1) ∧
    outcome = (resolve fetch m (resolveAll fetch ms (.start world)).2).1 := by
  intro s outcome s'
  have hs : s.Coherent := (Session.Coherent.start world).resolveAll fetch ms
  refine ⟨(hs.resolve fetch m).once, hs.resolve_eq_rootOver fetch m, ?_, ?_, ?_⟩
  · intro hout later m' hns hc
    exact resolve_again hns hc hout (within_resolveAll fetch.logged later s')
  · intro answers hsteady
    have hagree : s.Agrees fetch.logged answers :=
      resolveAll_preserves (fun r _ h => (h.lookup r).2) ms _ (.start hsteady.logged)
    have hplain : s.plain.Agrees fetch answers := by
      rw [((simulates_logged fetch).resolveAll ms (.start (world, [])) _ rfl).2]
      exact resolveAll_preserves (fun r _ h => (h.lookup r).2) ms _ (.start hsteady)
    have hfresh : ∀ w, fetch.Steady answers w → outcome = (resolve fetch m (.start w)).1 :=
      fun w hw => (Session.Agrees.simulates.resolve m s _ ⟨hagree, .start hw⟩).1
    exact ⟨hfresh world hsteady, hfresh _ hplain.steady⟩
  · have hplain := ((simulates_logged fetch).resolveAll ms (.start (world, [])) _ rfl).2
    exact ((simulates_logged fetch).resolve m s _ hplain).1

/-- A fetcher that fails on the first call and finds nothing on all others. -/
def failsOnce : Fetcher Nat := fun _ n =>
  (if n = 0 then .error (.client "connection refused" []) else .ok none, n + 1)

/-- A failure is not remembered and an absence is: the second resolution asks again, the third one
does not. -/
theorem resolve_frozen_failsOnce :
    let m : Object.Meta := { ownerReferences := some [replicaSet "a"] }
    let s₁ := (resolve failsOnce.logged m (.start (0, []))).2
    let s₂ := (resolve failsOnce.logged m s₁).2
    (resolve failsOnce.logged m (.start (0, []))).1 =
        .error (.fetch (refOf none (replicaSet "a")) (.client "connection refused" [])) ∧
      (resolve failsOnce.logged m s₁).1 = .ok none ∧ s₂.log.length = 2 ∧
      resolve failsOnce.logged m s₂ = (.ok none, s₂) := by
  intro m s₁ s₂
  have hfirst : resolve failsOnce.logged m (.start (0, [])) =
      (.error (.fetch (refOf none (replicaSet "a")) (.client "connection refused" [])),
        ⟨∅, 1, [⟨refOf none (replicaSet "a"), .error (.client "connection refused" [])⟩]⟩) := by
    change walk _ none [] (refOf none (replicaSet "a")) _ = _
    rw [walk_of_lookup (by simp) (by decide),
      Session.lookup_of_failed (e := .client "connection refused" []) (by simp [Session.start]) rfl]
    rfl
  have hs₁ : s₁ =
      ⟨∅, 1, [⟨refOf none (replicaSet "a"), .error (.client "connection refused" [])⟩]⟩ :=
    congrArg Prod.snd hfirst
  have hsecond : (resolve failsOnce.logged m s₁).1 = .ok none ∧ s₂.log.length = 2 := by
    change (walk _ none [] (refOf none (replicaSet "a")) _).1 = _ ∧
      (walk _ none [] (refOf none (replicaSet "a")) _).2.log.length = 2
    rw [walk_of_lookup (by simp) (by decide), hs₁,
      Session.lookup_of_found (by simp) rfl]
    exact ⟨rfl, rfl⟩
  obtain ⟨_, _, hagain, _⟩ := resolve_frozen failsOnce 0 [m] m
  have hfound : ∀ r e, (resolve failsOnce.logged m s₁).1 ≠ .error (.fetch r e) := by
    intro r e h
    cases hsecond.1.symm.trans h
  have hthird : resolve failsOnce.logged m s₂ = ((resolve failsOnce.logged m s₁).1, s₂) :=
    hagain hfound [] m rfl rfl
  exact ⟨by rw [hfirst], hsecond.1, hsecond.2, by rw [hthird, hsecond.1]⟩

end ClusterInventory.Ownership
