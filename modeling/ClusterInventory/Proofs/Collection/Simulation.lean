import ClusterInventory.Collection.Live
import ClusterInventory.Proofs.Collection.WorkloadAnswers

/-!
# Work that depends on nothing but the answers

Two clusters, each in a world of its own, that are asked by the same work. As long as the requests
made so far are *good*, both answer alike (`Handle.Matches`), and then they are asked the same and
the work comes to the same (`Follows`). `follows_call` is the one step where a cluster is asked; all
else is made of it.
-/

namespace ClusterInventory

variable {σ τ α β : Type} {good : σ → Prop} {R : σ → τ → Prop}

/-! ## Two pieces of work side by side -/

/-- One step gives what another one gives, provided that the first ends in a good world. What is
good stays so when steps are taken back, and related worlds stay related. -/
def Tracks (good : σ → Prop) (R : σ → τ → Prop) (f : σ → α × σ) (g : τ → α × τ) : Prop :=
  ∀ w, good (f w).2 → good w ∧ ∀ v, R w v → (g v).1 = (f w).1 ∧ R (f w).2 (g v).2

/-- The same for work that may not come to an end. -/
def Follows (good : σ → Prop) (R : σ → τ → Prop) (x : Api.Calls σ α) (y : Api.Calls τ α) : Prop :=
  ∀ w a w', x w = some (a, w') → good w' →
    good w ∧ ∀ v, R w v → ∃ v', y v = some (a, v') ∧ R w' v'

namespace Tracks

variable {f : σ → α × σ} {g : τ → α × τ}

theorem pure (a : α) : Tracks good R (fun w => (a, w)) (fun v => (a, v)) :=
  fun _ hgood => ⟨hgood, fun _ hR => ⟨rfl, hR⟩⟩

/-- Steps that go on with what the ones before them gave. -/
theorem bind {k : α → σ → β × σ} {l : α → τ → β × τ} (h : Tracks good R f g)
    (h' : ∀ a, Tracks good R (k a) (l a)) :
    Tracks good R (fun w => k (f w).1 (f w).2) (fun v => l (g v).1 (g v).2) := by
  intro w hgood
  obtain ⟨hmid, hrest⟩ := h' _ _ hgood
  obtain ⟨hgood', hfirst⟩ := h w hmid
  refine ⟨hgood', fun v hR => ?_⟩
  obtain ⟨heq, hR'⟩ := hfirst v hR
  simp only [heq]
  exact hrest _ hR'

theorem congr {f' : σ → α × σ} {g' : τ → α × τ} (h : Tracks good R f g) (hf : ∀ w, f' w = f w)
    (hg : ∀ v, g' v = g v) : Tracks good R f' g' := by
  rwa [funext hf, funext hg]

theorem follows (h : Tracks good R f g) :
    Follows good R (fun w => some (f w)) (fun v => some (g v)) := by
  intro w a w' hf hgood
  have hf : f w = (a, w') := Option.some.inj hf
  obtain ⟨hgood', hg⟩ := h w (by rwa [hf])
  rw [hf] at hg
  exact ⟨hgood', fun v hR => ⟨(g v).2, congrArg some (Prod.ext (hg v hR).1 rfl), (hg v hR).2⟩⟩

end Tracks

namespace Follows

variable {x : Api.Calls σ α} {y : Api.Calls τ α}

theorem pure (a : α) : Follows good R (Pure.pure a) (Pure.pure a) :=
  (Tracks.pure a).follows

theorem bind {f : α → Api.Calls σ β} {g : α → Api.Calls τ β} (h : Follows good R x y)
    (h' : ∀ a, Follows good R (f a) (g a)) : Follows good R (x >>= f) (y >>= g) := by
  intro w b w' hxf hgood
  obtain ⟨a, mid, hx, hf⟩ := Collection.Calls.bind_eq_some.1 hxf
  obtain ⟨hmid, hrest⟩ := h' a mid b w' hf hgood
  obtain ⟨hgood', hfirst⟩ := h w a mid hx hmid
  refine ⟨hgood', fun v hR => ?_⟩
  obtain ⟨mid', hy, hR'⟩ := hfirst v hR
  obtain ⟨v', hg, hR''⟩ := hrest mid' hR'
  exact ⟨v', Collection.Calls.bind_eq_some.2 ⟨a, mid', hy, hg⟩, hR''⟩

end Follows

/-! ## Clusters -/

namespace Api

/-- Worlds that need have nothing in common. -/
def Unrelated (_ : σ) (_ : τ) : Prop := True

/-- Clusters that are asked in the same way, and whose servers answer alike while the world of the
first is good. -/
structure Handle.Matches (good : σ → Prop) (h₁ : Handle σ) (h₂ : Handle τ) : Prop where
  server : ∀ r, Tracks good Unrelated (h₁.server r) (h₂.server r)
  timeout : h₁.timeout = h₂.timeout
  asUser : h₁.asUser = h₂.asUser
  pages : h₁.pages ≤ h₂.pages

namespace Handle

/-- The objects on the page of a token and on those after it. -/
def after (h : Handle σ) (l : Listing α) (pages : Nat) (token : Option String) :
    Calls σ (Except CallError (List α)) :=
  l.after h.toConnection pages token

/-- A page, and the pages after it where there are more. -/
theorem after_succ (h : Handle σ) (l : Listing α) (pages : Nat) (token : Option String) :
    h.after l (pages + 1) token = do
      match ← h.once fun c => l.page c token with
      | .error e => return .error e
      | .ok p =>
        match p.next? with
        | none => return .ok p.items
        | some t => return (← h.after l pages (some t)).map (p.items ++ ·) := by
  funext world
  unfold after
  rcases hpage : l.page h.toConnection token world with ⟨e | p, world'⟩
  · rw [Collection.Calls.bind_of_eq_some (congrArg some hpage), Listing.after, hpage]
    rfl
  · rw [Collection.Calls.bind_of_eq_some (congrArg some hpage), Listing.after, hpage]
    simp only
    cases p.next? with
    | none => rfl
    | some t =>
      show Option.map _ _ = Option.bind _ _
      cases l.after h.toConnection pages (some t) world' <;> rfl

end Handle

section Calls

variable {h₁ : Handle σ} {h₂ : Handle τ} (hm : Handle.Matches good h₁ h₂)

include hm

theorem tracks_call (r : Request) (decode : Decoder α) :
    Tracks good Unrelated (h₁.toConnection.call r decode) (h₂.toConnection.call r decode) := by
  intro w hgood
  obtain ⟨hgood', hanswer⟩ := hm.server { r with asUser := h₁.asUser } w hgood
  refine ⟨hgood', fun v hR => ⟨?_, trivial⟩⟩
  simp only [Connection.call, ← hm.asUser, ← hm.timeout, (hanswer v hR).1]

theorem tracks_page (l : Listing α) (token : Option String) :
    Tracks good Unrelated (l.page h₁.toConnection token) (l.page h₂.toConnection token) := by
  unfold Listing.page
  cases l.request token with
  | error fault => exact .pure _
  | ok r => exact tracks_call hm r _

theorem tracks_getObject (target : String) :
    Tracks good Unrelated (h₁.toConnection.getObject target)
      (h₂.toConnection.getObject target) := by
  unfold Connection.getObject
  cases Request.ofTarget target with
  | error fault => exact .pure _
  | ok r => exact tracks_call hm r _

theorem tracks_get? (target : String) :
    Tracks good Unrelated (h₁.toConnection.get? target) (h₂.toConnection.get? target) := by
  have hget := (tracks_getObject hm target).bind fun answer => Tracks.pure (absentAsNone answer)
  intro w
  simp only [Connection.get?_eq]
  exact hget w

theorem tracks_lookup (hcatalog : h₁.catalog = h₂.catalog) (r : ObjectRef) :
    Tracks good Unrelated (h₁.lookup r) (h₂.lookup r) := by
  unfold Handle.lookup Connection.lookup
  rw [← hcatalog]
  cases h₁.catalog.find? r.apiVersion r.kind with
  | none => exact .pure _
  | some served => exact tracks_get? hm _

/-- More pages do no harm. -/
theorem follows_after (l : Listing α) {pages pages' : Nat} (hpages : pages ≤ pages')
    (token : Option String) :
    Follows good Unrelated (h₁.after l pages token) (h₂.after l pages' token) := by
  induction pages generalizing pages' token with
  | zero => intro w a w' h; cases h
  | succ pages ih =>
    obtain ⟨n, rfl⟩ : ∃ n, pages' = n + 1 := ⟨pages' - 1, by omega⟩
    rw [Handle.after_succ, Handle.after_succ]
    refine (tracks_page hm l token).follows.bind fun page => ?_
    rcases page with e | p
    · exact .pure _
    · simp only
      cases p.next? with
      | none => exact .pure _
      | some t => exact (ih (by omega) (some t)).bind fun _ => .pure _

theorem follows_list (l : Listing α) : Follows good Unrelated (h₁.list l) (h₂.list l) := by
  rw [Handle.list_eq, Handle.list_eq]
  exact (follows_after hm l hm.pages none).bind fun _ => .pure _

end Calls

end Api

/-! ## Searches for root owners -/

namespace Ownership

open Api (ObjectRef)

/-- Sessions that remember the same. -/
def Session.SameMemory (s : Session σ) (s' : Session τ) : Prop := s.cache = s'.cache

/-- How a walk goes on when it has looked its next owner up. -/
def walkOn (fetch : Fetcher σ) («namespace» : Option String) (visited : List ObjectRef)
    (next : ObjectRef) (answer : Answer) (s : Session σ) : Outcome × Session σ :=
  match answer with
  | .error e => (.error (.fetch next e), s)
  | .ok none => (.ok none, s)
  | .ok (some found) =>
    match found.objectMeta.controller? with
    | some parent => walk fetch «namespace» (next :: visited) (refOf «namespace» parent) s
    | none => (.ok (some (.ofRoot next found.objectMeta)), s)

theorem walk_eq_walkOn {fetch : Fetcher σ} {«namespace» : Option String}
    {visited : List ObjectRef} {next : ObjectRef} {s : Session σ} (h : next ∉ visited)
    (hlen : ¬visited.length ≥ maxHops) :
    walk fetch «namespace» visited next s = walkOn fetch «namespace» visited next
      (s.lookup fetch next).1 (s.lookup fetch next).2 := by
  rw [walk_of_lookup h hlen]
  rcases s.lookup fetch next with ⟨e | _ | found, s'⟩ <;> rfl

section Session

variable {fetch : Fetcher σ} {fetch' : Fetcher τ}

theorem tracks_lookup (hfetch : ∀ r, Tracks good Api.Unrelated (fetch r) (fetch' r))
    (r : ObjectRef) : Tracks (fun s : Session σ => good s.world) Session.SameMemory
      (Session.lookup fetch r) (Session.lookup fetch' r) := by
  intro s hgood
  obtain ⟨found, hhit, hs⟩ | ⟨found, hmiss, hanswer, hs⟩ | ⟨e, hmiss, hanswer, hs⟩ :=
    Session.lookup_cases fetch r s
  · rw [hs] at hgood ⊢
    refine ⟨hgood, fun s' hsame => ?_⟩
    rw [Session.lookup_of_hit (by rwa [← show s.cache = s'.cache from hsame])]
    exact ⟨rfl, hsame⟩
  · rw [hs] at hgood ⊢
    obtain ⟨hgood', hg⟩ := hfetch r s.world hgood
    refine ⟨hgood', fun s' hsame => ?_⟩
    have hcache : s.cache = s'.cache := hsame
    rw [Session.lookup_of_found (by rwa [← hcache]) ((hg s'.world trivial).1.trans hanswer)]
    exact ⟨rfl, show s.cache.insert r found = s'.cache.insert r found from hcache ▸ rfl⟩
  · rw [hs] at hgood ⊢
    obtain ⟨hgood', hg⟩ := hfetch r s.world hgood
    refine ⟨hgood', fun s' hsame => ?_⟩
    have hcache : s.cache = s'.cache := hsame
    rw [Session.lookup_of_failed (by rwa [← hcache]) ((hg s'.world trivial).1.trans hanswer)]
    exact ⟨rfl, hcache⟩

variable {goodSession : Session σ → Prop} {R : Session σ → Session τ → Prop}
  (hlookup : ∀ r, Tracks goodSession R (Session.lookup fetch r) (Session.lookup fetch' r))

include hlookup

theorem tracks_walk («namespace» : Option String) (visited : List ObjectRef) (next : ObjectRef) :
    Tracks goodSession R (walk fetch «namespace» visited next)
      (walk fetch' «namespace» visited next) := by
  induction hfuel : maxHops - visited.length generalizing visited next with
  | zero =>
    by_cases hmem : next ∈ visited
    · exact (Tracks.pure _).congr (fun _ => walk_of_mem hmem) fun _ => walk_of_mem hmem
    · have hlen : visited.length ≥ maxHops := by omega
      exact (Tracks.pure _).congr (fun _ => walk_of_maxHops hmem hlen)
        fun _ => walk_of_maxHops hmem hlen
  | succ fuel ih =>
    by_cases hmem : next ∈ visited
    · exact (Tracks.pure _).congr (fun _ => walk_of_mem hmem) fun _ => walk_of_mem hmem
    · have hlen : ¬visited.length ≥ maxHops := by omega
      refine ((hlookup next).bind (k := walkOn fetch «namespace» visited next)
        (l := walkOn fetch' «namespace» visited next) fun answer => ?_).congr
          (fun _ => walk_eq_walkOn hmem hlen) fun _ => walk_eq_walkOn hmem hlen
      rcases answer with e | _ | found
      · exact .pure _
      · exact .pure _
      · cases hparent : found.objectMeta.controller? with
        | none =>
          refine (Tracks.pure (.ok (some (.ofRoot next found.objectMeta)))).congr ?_ ?_ <;>
            · intro s
              simp only [walkOn, hparent]
        | some parent =>
          refine (ih (next :: visited) (refOf «namespace» parent) ?_).congr ?_ ?_
          · simp only [List.length_cons]
            omega
          all_goals
            intro s
            simp only [walkOn, hparent]

theorem tracks_resolve (m : Object.Meta) :
    Tracks goodSession R (resolve fetch m) (resolve fetch' m) := by
  unfold resolve
  cases m.controller? with
  | none => exact .pure _
  | some first => exact tracks_walk hlookup _ _ _

end Session

end Ownership

namespace Workloads

open Ownership (Fetcher Session)

section Search

variable {fetch : Fetcher σ} {fetch' : Fetcher τ} {goodSession : Session σ → Prop}
  {R : Session σ → Session τ → Prop}
  (hlookup : ∀ r, Tracks goodSession R (Session.lookup fetch r) (Session.lookup fetch' r))

include hlookup

theorem tracks_search (src : Source) :
    Tracks goodSession R (search fetch src) (search fetch' src) := by
  unfold search
  cases src.record with
  | value w =>
    exact (Ownership.tracks_resolve hlookup src.objectMeta).bind fun outcome =>
      .pure (Search.mk src (some outcome))
  | failed chain => exact .pure _
  | broken b => exact .pure _

theorem tracks_searchAll (srcs : List Source) :
    Tracks goodSession R (searchAll fetch srcs) (searchAll fetch' srcs) := by
  induction srcs with
  | nil => exact .pure []
  | cons src srcs ih =>
    exact (tracks_search hlookup src).bind fun x => ih.bind fun xs => .pure (x :: xs)

end Search

end Workloads

end ClusterInventory
