import ClusterInventory.Proofs.Ownership.Chain

/-!
# Where root owners come from

A session answers from memory what it has been given before. `Session.Since` says that everything
in its memory has been given by the fetcher since the session began, whatever was asked in between.
So has the object at which a walk ends with a root owner (`exists_gives_of_resolve`).
-/

namespace ClusterInventory.Ownership

open Api (ObjectRef)

variable {σ : Type}

/-- At some point of a row of questions that begins in `world`, the fetcher gives the object at the
address. -/
def Fetcher.Gives (fetch : Fetcher σ) (world : σ) (r : ObjectRef) (found : Object.Dynamic) : Prop :=
  ∃ rs, (fetch r (fetch.after rs world)).1 = .ok (some found)

theorem Fetcher.after_concat (fetch : Fetcher σ) (rs : List ObjectRef) (r : ObjectRef) (world : σ) :
    fetch.after (rs ++ [r]) world = (fetch r (fetch.after rs world)).2 := by
  simp [after]

/-- The session has asked questions since `world`, and remembers nothing but what was given. -/
structure Session.Since (fetch : Fetcher σ) (world : σ) (s : Session σ) : Prop where
  asked : ∃ rs, s.world = fetch.after rs world
  given : ∀ (r : ObjectRef) (found : Object.Dynamic),
    s.cache[r]? = some (some found) → fetch.Gives world r found

namespace Session.Since

variable {fetch : Fetcher σ} {world : σ} {s s' : Session σ} {r : ObjectRef}

theorem start (fetch : Fetcher σ) (world : σ) : Since fetch world (.start world) where
  asked := ⟨[], rfl⟩
  given r found h := by simp [Session.start] at h

theorem lookup (h : s.Since fetch world) (r : ObjectRef) :
    (s.lookup fetch r).2.Since fetch world := by
  obtain ⟨rs, hworld⟩ := h.asked
  have hasked : ∃ rs, (fetch r s.world).2 = fetch.after rs world :=
    ⟨rs ++ [r], by rw [hworld, Fetcher.after_concat]⟩
  obtain ⟨_, _, hl⟩ | ⟨found, _, ha, hl⟩ | ⟨_, _, _, hl⟩ := lookup_cases fetch r s <;> rw [hl]
  · exact h
  · refine ⟨hasked, fun r' found' hr' => ?_⟩
    rw [Std.HashMap.getElem?_insert] at hr'
    split at hr'
    · next heq =>
      cases hr'
      rw [← eq_of_beq heq]
      exact ⟨rs, hworld ▸ ha⟩
    · exact h.given r' found' hr'
  · exact ⟨hasked, h.given⟩

/-- What a look-up finds has been given, if not just now. -/
theorem gives (h : s.Since fetch world) {found : Object.Dynamic}
    (hl : s.lookup fetch r = (.ok (some found), s')) : fetch.Gives world r found := by
  have hsince := h.lookup r
  rw [hl] at hsince
  exact hsince.given r found (cache_of_lookup_ok hl)

theorem resolve (h : s.Since fetch world) (m : Object.Meta) :
    (resolve fetch m s).2.Since fetch world :=
  resolve_preserves (fun r _ hs => hs.lookup r) m s h

end Session.Since

/-- The root owner of a resolution is that of an object that the fetcher has given at the address by
which it was referred to. -/
theorem exists_gives_of_resolve {fetch : Fetcher σ} {world : σ} {m : Object.Meta} {s : Session σ}
    {res : Resolution} (hs : s.Since fetch world) (h : (resolve fetch m s).1 = .ok (some res)) :
    ∃ r found, fetch.Gives world r found ∧ res = rootAt r found.objectMeta :=
  exists_rootAt_of_resolve_of (fun r _ h => h.lookup r) (fun _ _ _ _ h => h.gives) hs h

end ClusterInventory.Ownership
