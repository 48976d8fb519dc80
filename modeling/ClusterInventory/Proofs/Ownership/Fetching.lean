import ClusterInventory.Ownership.Resolver

/-!
# Fetchers under observation

`Fetcher.logged` is a fetcher that keeps a list of all that it is asked and of what it answers;
`simulates_logged` says that nothing else depends on it. `Fetcher.Steady` is the promise that every
address is answered the same way throughout. What holds of one look-up is carried to walks and to
resolutions by `walk_preserves` and, for two sessions side by side, by `Simulates.walk`.
-/

namespace ClusterInventory.Ownership

open Api (ObjectRef CallError)

abbrev Answer := Except CallError (Option Object.Dynamic)

/-- One question that reached a fetcher, with the answer to it. -/
structure Call where
  ref : ObjectRef
  answer : Answer

variable {σ : Type}

namespace Fetcher

/-- The same fetcher, with a list of the calls that were made of it. -/
def logged (fetch : Fetcher σ) : Fetcher (σ × List Call) := fun r w =>
  ((fetch r w.1).1, (fetch r w.1).2, w.2 ++ [⟨r, (fetch r w.1).1⟩])

/-- The world after a row of questions. -/
def after (fetch : Fetcher σ) (rs : List ObjectRef) (w : σ) : σ :=
  rs.foldl (fun w r => (fetch r w).2) w

/-- From `w` on each address is always answered as `answers` says, whatever is asked before. -/
def Steady (fetch : Fetcher σ) (answers : ObjectRef → Answer) (w : σ) : Prop :=
  ∀ rs r, (fetch r (fetch.after rs w)).1 = answers r

variable {fetch : Fetcher σ} {answers : ObjectRef → Answer} {w : σ}

theorem Steady.answer (h : Steady fetch answers w) (r : ObjectRef) : (fetch r w).1 = answers r :=
  h [] r

theorem Steady.next (h : Steady fetch answers w) (r : ObjectRef) :
    Steady fetch answers (fetch r w).2 :=
  fun rs r' => h (r :: rs) r'

theorem after_logged (fetch : Fetcher σ) (rs : List ObjectRef) (w : σ × List Call) :
    (fetch.logged.after rs w).1 = fetch.after rs w.1 := by
  induction rs generalizing w with
  | nil => rfl
  | cons r rs ih => exact ih _

theorem Steady.logged {log : List Call} (h : Steady fetch answers w) :
    Steady fetch.logged answers (w, log) := by
  intro rs r
  have hw : (fetch.logged.after rs (w, log)).1 = fetch.after rs w := after_logged fetch rs (w, log)
  simp only [Fetcher.logged, hw]
  exact h rs r

/-- The fetcher that answers as `answers` says and has no world. -/
def ofAnswers (answers : ObjectRef → Answer) : Fetcher Unit := fun r w => (answers r, w)

theorem steady_ofAnswers (answers : ObjectRef → Answer) (w : Unit) :
    (ofAnswers answers).Steady answers w :=
  fun _ _ => rfl

end Fetcher

namespace Session

def log (s : Session (σ × List Call)) : List Call := s.world.2

/-- The session without its log. -/
def plain (s : Session (σ × List Call)) : Session σ := ⟨s.cache, s.world.1⟩

variable {fetch : Fetcher σ} {r : ObjectRef} {s : Session σ}

theorem lookup_of_hit {found : Option Object.Dynamic} (h : s.cache[r]? = some found) :
    s.lookup fetch r = (.ok found, s) := by
  simp [lookup, h]

theorem lookup_of_found {found : Option Object.Dynamic} (h : s.cache[r]? = none)
    (ha : (fetch r s.world).1 = .ok found) :
    s.lookup fetch r = (.ok found, ⟨s.cache.insert r found, (fetch r s.world).2⟩) := by
  simp only [lookup, h]
  split
  · next w heq => rw [heq] at ha ⊢; cases ha; rfl
  · next w heq => rw [heq] at ha; cases ha

theorem lookup_of_failed {e : CallError} (h : s.cache[r]? = none)
    (ha : (fetch r s.world).1 = .error e) :
    s.lookup fetch r = (.error e, ⟨s.cache, (fetch r s.world).2⟩) := by
  simp only [lookup, h]
  split
  · next w heq => rw [heq] at ha; cases ha
  · next w heq => rw [heq] at ha ⊢; cases ha; rfl

/-- All that a look-up can do: answer from memory, or ask and remember, or ask and fail. -/
theorem lookup_cases (fetch : Fetcher σ) (r : ObjectRef) (s : Session σ) :
    (∃ found, s.cache[r]? = some found ∧ s.lookup fetch r = (.ok found, s)) ∨
    (∃ found, s.cache[r]? = none ∧ (fetch r s.world).1 = .ok found ∧
      s.lookup fetch r = (.ok found, ⟨s.cache.insert r found, (fetch r s.world).2⟩)) ∨
    (∃ e, s.cache[r]? = none ∧ (fetch r s.world).1 = .error e ∧
      s.lookup fetch r = (.error e, ⟨s.cache, (fetch r s.world).2⟩)) := by
  cases h : s.cache[r]? with
  | some found => exact .inl ⟨found, rfl, lookup_of_hit h⟩
  | none =>
    cases ha : (fetch r s.world).1 with
    | ok found => exact .inr (.inl ⟨found, rfl, rfl, lookup_of_found h ha⟩)
    | error e => exact .inr (.inr ⟨e, rfl, rfl, lookup_of_failed h ha⟩)

/-- What one session remembers the other remembers too. -/
def Within (s s' : Session σ) : Prop :=
  ∀ (r : ObjectRef) (found : Option Object.Dynamic),
    s.cache[r]? = some found → s'.cache[r]? = some found

theorem Within.refl (s : Session σ) : s.Within s := fun _ _ h => h

theorem Within.trans {s₁ s₂ s₃ : Session σ} (h : s₁.Within s₂) (h' : s₂.Within s₃) :
    s₁.Within s₃ :=
  fun r found hr => h' r found (h r found hr)

theorem within_lookup (fetch : Fetcher σ) (r : ObjectRef) (s : Session σ) :
    s.Within (s.lookup fetch r).2 := by
  intro r' found hr'
  obtain ⟨_, _, h⟩ | ⟨_, hmiss, _, h⟩ | ⟨_, _, _, h⟩ := lookup_cases fetch r s <;> rw [h]
  · exact hr'
  · -- only an address that is not remembered is written
    have hne : r ≠ r' := by rintro rfl; rw [hmiss] at hr'; cases hr'
    simpa [Std.HashMap.getElem?_insert, hne] using hr'
  · exact hr'

/-- What was answered without failure is remembered. -/
theorem cache_of_lookup_ok {found : Option Object.Dynamic} {s' : Session σ}
    (h : s.lookup fetch r = (.ok found, s')) : s'.cache[r]? = some found := by
  obtain ⟨_, hhit, h'⟩ | ⟨_, _, _, h'⟩ | ⟨_, _, _, h'⟩ := lookup_cases fetch r s <;>
    rw [h'] at h <;> cases h
  · exact hhit
  · simp

end Session

/-! ## From one look-up to a walk, a resolution and a row of them -/

abbrev Outcome := Except ResolveError (Option Resolution)

/-- A row of resolutions within one session. -/
def resolveAll (fetch : Fetcher σ) : List Object.Meta → Session σ → List Outcome × Session σ
  | [], s => ([], s)
  | m :: ms, s =>
    let (outcome, s) := resolve fetch m s
    let (outcomes, s) := resolveAll fetch ms s
    (outcome :: outcomes, s)

section Walk

variable {fetch : Fetcher σ} {«namespace» : Option String} {visited : List ObjectRef}
  {next : ObjectRef} {s : Session σ}

theorem walk_of_mem (h : next ∈ visited) :
    walk fetch «namespace» visited next s = (.error (.cycle next), s) := by
  rw [walk, if_pos h]

theorem walk_of_maxHops (h : next ∉ visited) (hlen : visited.length ≥ maxHops) :
    walk fetch «namespace» visited next s = (.error .tooLong, s) := by
  rw [walk, if_neg h, if_pos hlen]

/-- A walk that may go on looks its next owner up, and the answer decides. -/
theorem walk_of_lookup (h : next ∉ visited) (hlen : ¬visited.length ≥ maxHops) :
    walk fetch «namespace» visited next s =
      match s.lookup fetch next with
      | (.error e, s) => (.error (.fetch next e), s)
      | (.ok none, s) => (.ok none, s)
      | (.ok (some found), s) =>
        match found.objectMeta.controller? with
        | some parent => walk fetch «namespace» (next :: visited) (refOf «namespace» parent) s
        | none => (.ok (some (.ofRoot next found.objectMeta)), s) := by
  rw [walk, if_neg h]
  exact if_neg hlen

end Walk

section Preservation

variable {fetch : Fetcher σ} {P : Session σ → Prop}

theorem walk_preserves (hP : ∀ r s, P s → P (s.lookup fetch r).2) («namespace» : Option String)
    (visited : List ObjectRef) (next : ObjectRef) (s : Session σ) (h : P s) :
    P (walk fetch «namespace» visited next s).2 := by
  fun_induction walk fetch «namespace» visited next s with
  | case1 => exact h
  | case2 => exact h
  | case3 _ next s _ _ _ _ hl =>
    have hs := hP next s h
    rwa [hl] at hs
  | case4 _ next s _ _ _ hl =>
    have hs := hP next s h
    rwa [hl] at hs
  | case5 _ next s _ _ _ _ hl _ _ ih =>
    have hs := hP next s h
    rw [hl] at hs
    exact ih hs
  | case6 _ next s _ _ _ _ hl =>
    have hs := hP next s h
    rwa [hl] at hs

theorem resolve_preserves (hP : ∀ r s, P s → P (s.lookup fetch r).2) (m : Object.Meta)
    (s : Session σ) (h : P s) : P (resolve fetch m s).2 := by
  unfold resolve
  split
  · exact h
  · exact walk_preserves hP _ _ _ _ h

theorem resolveAll_preserves (hP : ∀ r s, P s → P (s.lookup fetch r).2) (ms : List Object.Meta)
    (s : Session σ) (h : P s) : P (resolveAll fetch ms s).2 := by
  induction ms generalizing s with
  | nil => exact h
  | cons m ms ih => exact ih _ (resolve_preserves hP m s h)

end Preservation

theorem within_walk (fetch : Fetcher σ) («namespace» : Option String) (visited : List ObjectRef)
    (next : ObjectRef) (s : Session σ) : s.Within (walk fetch «namespace» visited next s).2 :=
  walk_preserves (P := s.Within) (fun r _ h => h.trans (Session.within_lookup fetch r _)) _ _ _ s
    (.refl s)

theorem within_resolveAll (fetch : Fetcher σ) (ms : List Object.Meta) (s : Session σ) :
    s.Within (resolveAll fetch ms s).2 :=
  resolveAll_preserves (P := s.Within) (fun r _ h => h.trans (Session.within_lookup fetch r _)) ms s
    (.refl s)

/-! ## Two sessions side by side -/

section Simulation

variable {τ : Type} {fetch : Fetcher σ} {fetch' : Fetcher τ} {R : Session σ → Session τ → Prop}

/-- The sessions related by `R` answer alike, and stay related. -/
def Simulates (fetch : Fetcher σ) (fetch' : Fetcher τ) (R : Session σ → Session τ → Prop) : Prop :=
  ∀ r s s', R s s' → (s.lookup fetch r).1 = (s'.lookup fetch' r).1 ∧
    R (s.lookup fetch r).2 (s'.lookup fetch' r).2

theorem Simulates.lookup (hR : Simulates fetch fetch' R) {r : ObjectRef} {s s₁ : Session σ}
    {s' : Session τ} {answer : Answer} (h : R s s') (hl : s.lookup fetch r = (answer, s₁)) :
    ∃ s₁', s'.lookup fetch' r = (answer, s₁') ∧ R s₁ s₁' := by
  obtain ⟨h₁, h₂⟩ := hR r s s' h
  rw [hl] at h₁ h₂
  exact ⟨_, Prod.ext h₁.symm rfl, h₂⟩

theorem Simulates.walk (hR : Simulates fetch fetch' R) («namespace» : Option String)
    (visited : List ObjectRef) (next : ObjectRef) (s : Session σ) (s' : Session τ) (h : R s s') :
    (walk fetch «namespace» visited next s).1 = (walk fetch' «namespace» visited next s').1 ∧
      R (walk fetch «namespace» visited next s).2 (walk fetch' «namespace» visited next s').2 := by
  fun_induction Ownership.walk fetch «namespace» visited next s generalizing s' with
  | case1 _ _ _ hmem => rw [walk_of_mem hmem]; exact ⟨rfl, h⟩
  | case2 _ _ _ hmem hlen => rw [walk_of_maxHops hmem hlen]; exact ⟨rfl, h⟩
  | case3 _ _ _ hmem hlen _ _ hl =>
    obtain ⟨s₁', hl', h'⟩ := hR.lookup h hl
    rw [walk_of_lookup hmem hlen, hl']
    exact ⟨rfl, h'⟩
  | case4 _ _ _ hmem hlen _ hl =>
    obtain ⟨s₁', hl', h'⟩ := hR.lookup h hl
    rw [walk_of_lookup hmem hlen, hl']
    exact ⟨rfl, h'⟩
  | case5 _ _ _ hmem hlen _ _ hl _ hc ih =>
    obtain ⟨s₁', hl', h'⟩ := hR.lookup h hl
    rw [walk_of_lookup hmem hlen, hl']
    simp only [hc]
    exact ih s₁' h'
  | case6 _ _ _ hmem hlen _ _ hl hc =>
    obtain ⟨s₁', hl', h'⟩ := hR.lookup h hl
    rw [walk_of_lookup hmem hlen, hl']
    simp only [hc]
    exact ⟨trivial, h'⟩

theorem Simulates.resolve (hR : Simulates fetch fetch' R) (m : Object.Meta) (s : Session σ)
    (s' : Session τ) (h : R s s') :
    (resolve fetch m s).1 = (resolve fetch' m s').1 ∧
      R (resolve fetch m s).2 (resolve fetch' m s').2 := by
  unfold Ownership.resolve
  split
  · exact ⟨rfl, h⟩
  · exact hR.walk _ _ _ s s' h

theorem Simulates.resolveAll (hR : Simulates fetch fetch' R) (ms : List Object.Meta)
    (s : Session σ) (s' : Session τ) (h : R s s') :
    (resolveAll fetch ms s).1 = (resolveAll fetch' ms s').1 ∧
      R (resolveAll fetch ms s).2 (resolveAll fetch' ms s').2 := by
  induction ms generalizing s s' with
  | nil => exact ⟨rfl, h⟩
  | cons m ms ih =>
    obtain ⟨h₁, h₂⟩ := hR.resolve m s s' h
    obtain ⟨ih₁, ih₂⟩ := ih _ _ h₂
    refine ⟨?_, ih₂⟩
    simp only [Ownership.resolveAll, h₁, ih₁]

end Simulation

/-- The log changes neither the answers nor what is remembered. -/
theorem simulates_logged (fetch : Fetcher σ) :
    Simulates fetch.logged fetch fun s s' => s.plain = s' := by
  rintro r s _ rfl
  obtain ⟨_, hhit, h⟩ | ⟨_, hmiss, ha, h⟩ | ⟨_, hmiss, ha, h⟩ :=
    Session.lookup_cases fetch.logged r s
  · rw [h, Session.lookup_of_hit (s := s.plain) hhit]; exact ⟨rfl, rfl⟩
  · rw [h, Session.lookup_of_found (s := s.plain) hmiss ha]; exact ⟨rfl, rfl⟩
  · rw [h, Session.lookup_of_failed (s := s.plain) hmiss ha]; exact ⟨rfl, rfl⟩

/-! ## Sessions over a steady fetcher -/

/-- All that is remembered is what the fetcher answers, now and later. -/
structure Session.Agrees (fetch : Fetcher σ) (answers : ObjectRef → Answer) (s : Session σ) :
    Prop where
  cache : ∀ (r : ObjectRef) (found : Option Object.Dynamic),
    s.cache[r]? = some found → answers r = .ok found
  steady : fetch.Steady answers s.world

namespace Session.Agrees

variable {fetch : Fetcher σ} {answers : ObjectRef → Answer}

theorem start {w : σ} (h : fetch.Steady answers w) : Agrees fetch answers (.start w) :=
  ⟨fun r found hr => by simp [Session.start] at hr, h⟩

theorem lookup {s : Session σ} (h : s.Agrees fetch answers) (r : ObjectRef) :
    (s.lookup fetch r).1 = answers r ∧ (s.lookup fetch r).2.Agrees fetch answers := by
  obtain ⟨found, hhit, hl⟩ | ⟨found, _, ha, hl⟩ | ⟨e, _, ha, hl⟩ := lookup_cases fetch r s <;>
    rw [hl]
  · exact ⟨(h.cache r found hhit).symm, h⟩
  · rw [h.steady.answer] at ha
    refine ⟨ha.symm, fun r' found' hr' => ?_, h.steady.next r⟩
    rw [Std.HashMap.getElem?_insert] at hr'
    split at hr'
    · next heq => cases hr'; rw [← eq_of_beq heq, ha]
    · exact h.cache r' found' hr'
  · rw [h.steady.answer] at ha
    exact ⟨ha.symm, h.cache, h.steady.next r⟩

theorem simulates {τ : Type} {fetch' : Fetcher τ} :
    Simulates fetch fetch' fun s s' => s.Agrees fetch answers ∧ s'.Agrees fetch' answers := by
  rintro r s s' ⟨h, h'⟩
  exact ⟨(h.lookup r).1.trans (h'.lookup r).1.symm, (h.lookup r).2, (h'.lookup r).2⟩

end Session.Agrees

end ClusterInventory.Ownership
