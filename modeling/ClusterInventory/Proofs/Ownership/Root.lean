import ClusterInventory.Proofs.Ownership.Chain

/-!
# Where a walk finds a root

A walk finds a root exactly when the chain of owners comes to an end at an object that is there,
within the hops that a walk may take (`resolve_start_eq_root_iff`). On such a chain no owner comes
twice.
-/

namespace ClusterInventory.Ownership

open Api (ObjectRef)

variable {σ : Type} {answers : ObjectRef → Answer} {m : Object.Meta} {i j k : Nat}
  {r r' : ObjectRef} {found : Object.Dynamic}

/-- The chain above an object with metadata `m` ends, within reach of a walk, at the address `r`:
an object is found there, and nothing controls it. -/
structure RootedAt (answers : ObjectRef → Answer) (m : Object.Meta) (r : ObjectRef)
    (found : Object.Dynamic) : Prop where
  reached : ∃ k < maxHops, owner? answers m k = some r
  there : answers r = .ok (some found)
  uncontrolled : found.objectMeta.controller? = none

section Chain

theorem owner?_succ_of_found (hr : owner? answers m k = some r)
    (hfound : answers r = .ok (some found)) :
    owner? answers m (k + 1) = found.objectMeta.controller?.map (refOf m.namespace) := by
  simp only [owner?, hr, Option.bind_eq_bind, Option.bind_some, hfound]

/-- There is a further owner only above one that is found and is controlled itself. -/
theorem exists_of_owner?_succ (h : owner? answers m (k + 1) = some r') :
    ∃ r found parent, owner? answers m k = some r ∧ answers r = .ok (some found) ∧
      found.objectMeta.controller? = some parent := by
  obtain ⟨r, hr, h⟩ := Option.bind_eq_some_iff.1 h
  split at h
  · next found hfound =>
    obtain ⟨parent, hparent, -⟩ := Option.map_eq_some_iff.1 h
    exact ⟨r, found, parent, hr, hfound, hparent⟩
  · cases h

theorem exists_owner?_of_le (h : owner? answers m k = some r) (hj : j ≤ k) :
    ∃ r', owner? answers m j = some r' := by
  induction k generalizing r with
  | zero =>
    obtain rfl := Nat.le_zero.1 hj
    exact ⟨r, h⟩
  | succ k ih =>
    rcases Nat.lt_or_eq_of_le hj with hj | rfl
    · obtain ⟨r', _, _, hr', _⟩ := exists_of_owner?_succ h
      exact ih hr' (Nat.le_of_lt_succ hj)
    · exact ⟨r, h⟩

/-- From equal owners on the chain goes on alike. -/
theorem owner?_add_eq (h : owner? answers m i = owner? answers m j) (n : Nat) :
    owner? answers m (i + n) = owner? answers m (j + n) := by
  induction n with
  | zero => exact h
  | succ n ih => rw [← Nat.add_assoc, ← Nat.add_assoc, owner?, owner?, ih]

/-- No owner comes twice in a chain that ends. -/
theorem not_repeated_of_last (h : owner? answers m k = some r)
    (hlast : owner? answers m (k + 1) = none) (hj : j ≤ k) :
    ¬∃ i < j, owner? answers m i = owner? answers m j := by
  rintro ⟨i, hi, hsame⟩
  -- the chain would go on after the earlier of the two for as long as after the later
  have hend := owner?_add_eq hsame (k + 1 - j)
  rw [Nat.add_sub_of_le (Nat.le_succ_of_le hj), hlast] at hend
  obtain ⟨_, hthere⟩ := exists_owner?_of_le h (show i + (k + 1 - j) ≤ k by omega)
  rw [hthere] at hend
  cases hend

end Chain

/-- A walk passes every owner before the last one. -/
theorem haltAt?_of_lt_last (h : owner? answers m k = some r)
    (hlast : owner? answers m (k + 1) = none) (hk : k < maxHops) (hj : j < k) :
    haltAt? answers m j = none := by
  obtain ⟨_, hsucc⟩ := exists_owner?_of_le h (show j + 1 ≤ k from hj)
  obtain ⟨r', found, parent, hr', hfound, hparent⟩ := exists_of_owner?_succ hsucc
  have hfresh := not_repeated_of_last h hlast (Nat.le_of_lt hj)
  rw [hr'] at hfresh
  rw [haltAt?_of_fetched hr' hfresh (by omega), hfound]
  simp [hparent]

theorem firstHalt_of_root (hr : owner? answers m k = some r) (hk : k < maxHops)
    (hfound : answers r = .ok (some found)) (hroot : found.objectMeta.controller? = none) :
    FirstHalt answers m k ⟨.ok (some (rootAt r found.objectMeta)), k + 1⟩ := by
  have hlast : owner? answers m (k + 1) = none := by
    rw [owner?_succ_of_found hr hfound, hroot]
    rfl
  refine ⟨fun j hj => haltAt?_of_lt_last hr hlast hk hj, ?_⟩
  have hfresh := not_repeated_of_last hr hlast (Nat.le_refl k)
  rw [hr] at hfresh
  rw [haltAt?_of_fetched hr hfresh (Nat.ne_of_lt hk), hfound]
  simp [hroot]

/-- A walk that ends with a root ends where the chain does. -/
theorem rootedAt_of_haltAt? {halt : Halt} {res : Resolution} (hk : k ≤ maxHops)
    (h : haltAt? answers m k = some halt) (hres : halt.outcome = .ok (some res)) :
    ∃ r found, RootedAt answers m r found ∧ res = rootAt r found.objectMeta := by
  obtain ⟨r, hr, h⟩ := Option.bind_eq_some_iff.1 h
  split at h
  · cases h
    cases hres
  · split at h
    · cases h
      cases hres
    · next hne =>
      split at h
      · cases h
        cases hres
      · cases h
        cases hres
      · next found hfound =>
        split at h
        · next hroot =>
          cases h
          cases hres
          have hreached : ∃ k < maxHops, owner? answers m k = some r :=
            ⟨k, Nat.lt_of_le_of_ne hk hne, hr⟩
          exact ⟨r, found, ⟨hreached, hfound, Option.isNone_iff_eq_none.1 hroot⟩, rfl⟩
        · cases h

/-- Over a steady fetcher an object has a root owner exactly when the chain above it ends within
reach at an object that is there. -/
theorem resolve_start_eq_root_iff {fetch : Fetcher σ} {world : σ}
    (h : fetch.Steady answers world) (m : Object.Meta) (res : Resolution) :
    (resolve fetch m (.start world)).1 = .ok (some res) ↔
      ∃ r found, RootedAt answers m r found ∧ res = rootAt r found.objectMeta := by
  have hlogged : (resolve fetch m (.start world)).1 =
      (resolve fetch.logged m (.start (world, []))).1 :=
    ((simulates_logged fetch).resolve m (.start (world, [])) _ rfl).1.symm
  rw [hlogged]
  unfold resolve
  cases hfirst : m.controller? with
  | none =>
    constructor
    · intro hres
      cases hres
    · rintro ⟨r, found, ⟨⟨k, -, hr⟩, -, -⟩, -⟩
      obtain ⟨_, h0⟩ := exists_owner?_of_le hr (Nat.zero_le k)
      simp [owner?, hfirst] at h0
  | some first =>
    have h0 : owner? answers m 0 = some (refOf m.namespace first) := by simp [owner?, hfirst]
    obtain ⟨n, halt, hhalt, hn, houtcome, -⟩ := (Walking.start h h0).run
    simp only [houtcome]
    constructor
    · exact rootedAt_of_haltAt? hn hhalt.here
    · rintro ⟨r, found, ⟨⟨k, hk, hr⟩, hfound, hroot⟩, rfl⟩
      obtain ⟨-, rfl⟩ := hhalt.unique (firstHalt_of_root hr hk hfound hroot)
      rfl

end ClusterInventory.Ownership
