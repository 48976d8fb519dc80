import ClusterInventory.Proofs.Workloads.Contributions

/-!
# No object of a pass affects another

All objects of a pass share one session, and each walk leaves something behind in it. Over a
steady fetcher none of that is seen: `assemble_isolated` says that the pass is the concatenation
of what each object contributes by itself.
-/

namespace ClusterInventory.Workloads

open Ownership (Fetcher Session Answer Call resolve)
open Api (ObjectRef)
open Record (Workload)

variable {σ : Type} {fetch : Fetcher σ} {answers : ObjectRef → Answer} {world : σ} {s : Session σ}

/-- What an object contributes by itself, within a session that remembers nothing. -/
def own (fetch : Fetcher σ) (world : σ) (src : Source) : Contribution :=
  (contribute fetch src (.start world)).1

/-- An object that is not recorded leaves the session as it is. -/
theorem contribute_of_not_value {src : Source} (h : ∀ w, src.record ≠ .value w) (fetch : Fetcher σ)
    (s : Session σ) : (contribute fetch src s).2 = s := by
  cases hrec : src.record with
  | value w => exact absurd hrec (h w)
  | failed chain => rw [contribute_of_failed hrec]
  | broken b => rw [contribute_of_broken hrec]

theorem contribute_preserves {P : Session σ → Prop} (hP : ∀ r s, P s → P (s.lookup fetch r).2)
    (src : Source) (h : P s) : P (contribute fetch src s).2 := by
  cases hrec : src.record with
  | failed chain => rwa [contribute_of_failed hrec]
  | broken b => rwa [contribute_of_broken hrec]
  | value w =>
    rw [contribute_of_value hrec]
    exact Ownership.resolve_preserves hP _ _ h

theorem agrees_contribute (hs : s.Agrees fetch answers) (src : Source) :
    (contribute fetch src s).2.Agrees fetch answers :=
  contribute_preserves (fun r _ h => (h.lookup r).2) src hs

/-- Whatever a session remembers of a steady cluster, an object contributes what it does by
itself. -/
theorem contribute_eq_own (hs : s.Agrees fetch answers) (hw : fetch.Steady answers world)
    (src : Source) : (contribute fetch src s).1 = own fetch world src := by
  unfold own
  cases hrec : src.record with
  | failed chain => rw [contribute_of_failed hrec, contribute_of_failed hrec]
  | broken b => rw [contribute_of_broken hrec, contribute_of_broken hrec]
  | value w =>
    have hsame := (Session.Agrees.simulates.resolve src.objectMeta s _ ⟨hs, .start hw⟩).1
    rw [contribute_of_value hrec, contribute_of_value hrec, hsame]

theorem contributions_eq_own (hs : s.Agrees fetch answers) (hw : fetch.Steady answers world)
    (srcs : List Source) :
    (contributions fetch srcs s).1 = srcs.map (own fetch world) ∧
      (contributions fetch srcs s).2.Agrees fetch answers := by
  induction srcs generalizing s with
  | nil => exact ⟨rfl, hs⟩
  | cons src srcs ih =>
    obtain ⟨hrest, hlast⟩ := ih (agrees_contribute hs src)
    rw [contributions_cons, contribute_eq_own hs hw, hrest]
    exact ⟨rfl, hlast⟩

/-- A pass over a steady fetcher is made of what each object contributes by itself, in the order
of the listings.

* What that is follows from the mapper of the object and its own resolution (`Contributes`).
* An object that is not recorded makes no call.
* Whatever objects come before it, an object contributes the same. -/
theorem assemble_isolated (fetch : Fetcher σ) (answers : ObjectRef → Answer) (world : σ)
    (h : fetch.Steady answers world) (o : Objects) :
    (assemble fetch o world).1 =
        merge (o.sources.flatMap fun src => (own fetch world src).records)
          (o.sources.flatMap fun src => (own fetch world src).placeholders) ∧
      (assemble fetch o world).2.1 = o.sources.flatMap (fun src => (own fetch world src).errors) ∧
      (∀ src ∈ o.sources, Contributes src (resolve fetch src.objectMeta (.start world)).1
        (own fetch world src)) ∧
      (∀ src : Source, (∀ w, src.record ≠ .value w) → ∀ s : Session (σ × List Call),
        (contribute fetch.logged src s).2 = s) ∧
      ∀ (before : List Source) (src : Source),
        (contribute fetch src (contributions fetch before (.start world)).2).1 =
          own fetch world src := by
  have hstart : (Session.start world).Agrees fetch answers := .start h
  have hall := (contributions_eq_own hstart h o.sources).1
  refine ⟨?_, ?_, ?_, ?_, ?_⟩
  · simp only [assemble, hall, List.flatMap_map]
  · simp only [assemble, hall, List.flatMap_map]
  · intro src hsrc
    exact contributes_contribute (faithful_of_mem_sources hsrc) fetch (.start world)
  · intro src hsrc s
    exact contribute_of_not_value hsrc fetch.logged s
  · intro before src
    exact contribute_eq_own (contributions_eq_own hstart h before).2 h src

/-- No owner can be asked for. -/
def unreachable (_ : ObjectRef) : Answer := .error (.client "connection refused" [])

/-- A pod whose owner has to be asked for, between a scheduled job that cannot be recorded and a
pod of its own. -/
def troubledObjects : Objects where
  cronJobs := [.v1beta1 { objectMeta := { name := some "nightly" }, data := .obj [] }]
  pods :=
    [{ objectMeta :=
        { name := some "web-1", ownerReferences := some [Ownership.replicaSet "web"] } },
      { objectMeta := { name := some "debug" } }]

/-- There is one error for the object that has no record, one for that whose owner is not known,
and none for the third. -/
theorem assemble_troubledObjects :
    (Fetcher.ofAnswers unreachable).Steady unreachable () ∧
      (assemble (Fetcher.ofAnswers unreachable) troubledObjects ()).2.1.map (·.subject) =
        [some "CronJob nightly", some "Pod web-1"] := by
  have hs := Fetcher.steady_ofAnswers unreachable ()
  obtain ⟨_, herrors, _⟩ := assemble_isolated _ unreachable () hs troubledObjects
  have hresolve : (resolve (Fetcher.ofAnswers unreachable) troubledObjects.sources[1].objectMeta
      (.start ())).1 =
      .error (.fetch ⟨"apps/v1", "ReplicaSet", none, "web"⟩ (.client "connection refused" [])) := by
    change (Ownership.walk _ none [] ⟨"apps/v1", "ReplicaSet", none, "web"⟩ _).1 = _
    rw [Ownership.walk_of_lookup (by simp) (by decide),
      Session.lookup_of_failed (by simp [Session.start]) rfl]
  have hjob : (own (Fetcher.ofAnswers unreachable) () troubledObjects.sources[0]).errors.map
      (·.subject) = [some "CronJob nightly"] := by
    rw [own, contribute_of_failed rfl]
    rfl
  have hweb : (own (Fetcher.ofAnswers unreachable) () troubledObjects.sources[1]).errors.map
      (·.subject) = [some "Pod web-1"] := by
    rw [own, contribute_of_value rfl, hresolve]
    rfl
  have hdebug :
      (own (Fetcher.ofAnswers unreachable) () troubledObjects.sources[2]).errors = [] := by
    rw [own, contribute_of_value rfl]
    rfl
  have hsources : troubledObjects.sources =
      [troubledObjects.sources[0], troubledObjects.sources[1], troubledObjects.sources[2]] := rfl
  rw [herrors, hsources, List.flatMap_cons, List.flatMap_cons, List.flatMap_cons, List.map_append,
    List.map_append, hjob, hweb, hdebug]
  exact ⟨hs, rfl⟩

end ClusterInventory.Workloads
