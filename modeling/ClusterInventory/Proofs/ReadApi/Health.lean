import ClusterInventory.Proofs.ReadApi.Interleaving
import Mathlib.Logic.Relation

/-!
# Health beside the snapshots

Neither a publication nor an answer about health is one step. A publication replaces the snapshot
and counts it then; an answer is put together from a look at the count and a look at the snapshot
after it. An `Audience` is a service with readers of its health, whose looks come between any two
steps of the service (`Audience.Step`). `health_never_ahead` says that the snapshot of an answer is
never older than its count.
-/

namespace ClusterInventory.ReadApi

open Credentials (Manager)

variable {σ : Type}

/-- An answer about health that a reader was given. -/
structure HealthAnswer where
  reader : Nat
  health : Health
  /-- The snapshot that was looked at. Nothing reads this. -/
  snapshot : Inventory

/-- A service and its readers, who are told by a number. -/
structure Audience (σ : Type) where
  service : Service σ
  /-- For a reader who has looked at the count alone, the store as it was then. -/
  halfway : Nat → Option SnapshotStore := fun _ => none
  /-- The answers so far, the first first. Nothing reads this. -/
  answers : List HealthAnswer := []

namespace Audience

/-- The answer to a reader who looked at the count of this store, and looks at the snapshot now. -/
def answerTo (a : Audience σ) (reader : Nat) (atCount : SnapshotStore) : HealthAnswer where
  reader
  health := (Source.ofStores atCount a.service.store a.service.acks).health
  snapshot := a.service.store.current

/-- The first look of a reader, at the count. -/
def begin (a : Audience σ) (reader : Nat) : Audience σ :=
  { a with halfway := Function.update a.halfway reader (some a.service.store) }

/-- The second look of a reader, at the snapshot. -/
def finish (a : Audience σ) (reader : Nat) (atCount : SnapshotStore) : Audience σ :=
  { a with
    halfway := Function.update a.halfway reader none
    answers := a.answers ++ [a.answerTo reader atCount] }

/-- The snapshots so far, from the empty one before the first publication on. -/
def snapshots (a : Audience σ) : List Inventory := {} :: a.service.published

/-- One step of the service, or one look of a reader. -/
inductive Step (o : Setup σ) (a : Audience σ) : Audience σ → Prop
  | serve (e : Event σ) {responses : List (Option Response)} {service : Service σ} :
      a.service.step o e = some (responses, service) → Step o a { a with service }
  | begin (reader : Nat) : a.halfway reader = none → Step o a (a.begin reader)
  | finish (reader : Nat) {atCount : SnapshotStore} :
      a.halfway reader = some atCount → Step o a (a.finish reader atCount)

end Audience

/-! ## The count -/

/-- How many snapshots have taken their place without being counted. -/
def Phase.uncounted : Phase σ → Nat
  | .counting _ _ => 1
  | _ => 0

theorem Phase.uncounted_le_one (p : Phase σ) : p.uncounted ≤ 1 := by
  cases p <;> simp [uncounted]

theorem Phase.uncounted_ofAcquired (clientVersion : String) (now : Instant) (current : Inventory)
    (acquired : Attempt (List (Collection.Domain σ))) :
    (Phase.ofAcquired clientVersion now current acquired).uncounted = 0 := by
  cases acquired <;> rfl

namespace Service

variable {o : Setup σ} {s s' : Service σ}

/-- Every publication has been counted, except for one that is about to be. -/
def Counted (s : Service σ) : Prop := s.store.epoch + s.phase.uncounted = s.published.length

/-- The count never goes back, and nothing that was published is forgotten. -/
structure Grows (s s' : Service σ) : Prop where
  epoch_le : s.store.epoch ≤ s'.store.epoch
  published : s.published <+: s'.published

theorem Grows.of_eq (hstore : s'.store = s.store) (hpublished : s'.published = s.published) :
    Grows s s' :=
  ⟨Nat.le_of_eq (congrArg SnapshotStore.epoch hstore.symm), hpublished ▸ List.prefix_refl _⟩

theorem Counted.works {now : Instant} {salt : List UInt8} (hs : s.Counted)
    (h : Works o now salt s s') : s'.Counted ∧ Grows s s' := by
  unfold Counted at hs
  cases h with
  | acquired heq hacquire =>
    rw [heq] at hs
    refine ⟨?_, .of_eq rfl rfl⟩
    rw [Counted, Phase.uncounted_ofAcquired]
    exact hs
  | published heq =>
    rw [heq] at hs
    refine ⟨?_, Nat.le_refl _, List.prefix_append _ _⟩
    rw [Counted, List.length_append]
    exact congrArg (· + 1) hs
  | @counted inv isFresh heq =>
    rw [heq] at hs
    refine ⟨?_, Nat.le_succ _, List.prefix_refl _⟩
    cases isFresh <;> exact hs
  | finished heq | collected heq | kept heq | answered heq | refused heq | acknowledged heq =>
    rw [heq] at hs
    exact ⟨hs, .of_eq rfl rfl⟩

theorem Counted.step {e : Event σ} {responses : List (Option Response)} (hs : s.Counted)
    (h : s.step o e = some (responses, s')) : s'.Counted ∧ Grows s s' := by
  cases e with
  | work now salt =>
    obtain ⟨_, hwork, heq⟩ := Option.map_eq_some_iff.1 h
    cases heq
    exact hs.works (works_of_work hwork)
  | elsewhere world manager =>
    cases h
    exact ⟨hs, .of_eq rfl rfl⟩
  | request method uri =>
    cases h
    exact ⟨hs, .of_eq rfl rfl⟩

end Service

/-! ## What holds of every audience -/

namespace Audience

variable {o : Setup σ} {a a' : Audience σ}

/-- An answer tells of the snapshot with the number of its count, or of a later one. -/
structure Answers (a : Audience σ) (answer : HealthAnswer) : Prop where
  succeeded : answer.health.collectionSucceeded = answer.snapshot.collectionSucceeded
  snapshot : ∃ k, answer.health.epoch ≤ k ∧ a.snapshots[k]? = some answer.snapshot

structure Sound (o : Setup σ) (a : Audience σ) : Prop where
  service : a.service.Sound o
  counted : a.service.Counted
  halfway : ∀ reader atCount, a.halfway reader = some atCount →
    atCount.epoch ≤ a.service.store.epoch
  answers : ∀ answer ∈ a.answers, a.Answers answer
  epoch_le : ∀ answer ∈ a.answers, answer.health.epoch ≤ a.service.store.epoch
  /-- A reader who is halfway has found no smaller count than ever before. -/
  epoch_le_halfway : ∀ answer ∈ a.answers, ∀ atCount, a.halfway answer.reader = some atCount →
    answer.health.epoch ≤ atCount.epoch
  ordered : a.answers.Pairwise fun x y => x.reader = y.reader → x.health.epoch ≤ y.health.epoch

theorem Sound.fresh (world : σ) (manager : Manager) :
    Sound o { service := { world, manager } } where
  service := .fresh world manager
  counted := rfl
  halfway _ _ h := nomatch h
  answers _ h := absurd h List.not_mem_nil
  epoch_le _ h := absurd h List.not_mem_nil
  epoch_le_halfway _ h := absurd h List.not_mem_nil
  ordered := .nil

/-- The snapshot that is looked at is the last one, and the count is not above its number. -/
theorem Sound.answers_answerTo (ha : a.Sound o) {reader : Nat} {atCount : SnapshotStore}
    (h : a.halfway reader = some atCount) : a.Answers (a.answerTo reader atCount) where
  succeeded := rfl
  snapshot := by
    have hcounted := ha.counted
    have hhalfway := ha.halfway reader atCount h
    refine ⟨a.service.published.length, ?_, ?_⟩
    · show atCount.epoch ≤ _
      unfold Service.Counted at hcounted
      omega
    · show a.snapshots[_]? = some a.service.store.current
      rw [ha.service.current, snapshots, ← List.getLast?_cons, List.getLast?_eq_getElem?]
      rfl

theorem Answers.mono {answer : HealthAnswer} (h : a.Answers answer)
    (hgrows : a.service.Grows a'.service) : a'.Answers answer := by
  obtain ⟨hsucceeded, k, hk, hsnapshot⟩ := h
  obtain ⟨later, hlater⟩ := hgrows.published
  refine ⟨hsucceeded, k, hk, ?_⟩
  rw [snapshots, ← hlater, ← List.cons_append]
  have hk : k < a.snapshots.length := (List.getElem?_eq_some_iff.1 hsnapshot).1
  exact (List.getElem?_append_left hk).trans hsnapshot

theorem halfway_begin {reader r : Nat} {atCount : SnapshotStore}
    (h : (a.begin reader).halfway r = some atCount) :
    r = reader ∧ atCount = a.service.store ∨ a.halfway r = some atCount := by
  simp only [begin, Function.update_apply] at h
  split at h
  · next hr => exact .inl ⟨hr, (Option.some.inj h).symm⟩
  · exact .inr h

theorem halfway_finish {reader r : Nat} {atCount atCount' : SnapshotStore}
    (h : (a.finish reader atCount).halfway r = some atCount') :
    r ≠ reader ∧ a.halfway r = some atCount' := by
  simp only [finish, Function.update_apply] at h
  split at h
  · cases h
  · next hr => exact ⟨hr, h⟩

theorem Sound.begin (ha : a.Sound o) (reader : Nat) : (a.begin reader).Sound o where
  service := ha.service
  counted := ha.counted
  halfway r atCount h := by
    obtain ⟨-, rfl⟩ | h := halfway_begin h
    · exact Nat.le_refl _
    · exact ha.halfway r atCount h
  answers answer hanswer := (ha.answers answer hanswer).mono (.of_eq rfl rfl)
  epoch_le := ha.epoch_le
  epoch_le_halfway answer hanswer atCount h := by
    obtain ⟨-, rfl⟩ | h := halfway_begin h
    · exact ha.epoch_le answer hanswer
    · exact ha.epoch_le_halfway answer hanswer atCount h
  ordered := ha.ordered

theorem Sound.finish (ha : a.Sound o) {reader : Nat} {atCount : SnapshotStore}
    (h : a.halfway reader = some atCount) : (a.finish reader atCount).Sound o where
  service := ha.service
  counted := ha.counted
  halfway r s hs := ha.halfway r s (halfway_finish hs).2
  answers := List.forall_mem_append.2
    ⟨fun answer hanswer => (ha.answers answer hanswer).mono (.of_eq rfl rfl),
      List.forall_mem_singleton.2 ((ha.answers_answerTo h).mono (.of_eq rfl rfl))⟩
  epoch_le := List.forall_mem_append.2
    ⟨ha.epoch_le, List.forall_mem_singleton.2 (ha.halfway reader atCount h)⟩
  epoch_le_halfway := List.forall_mem_append.2
    ⟨fun answer hanswer s hs => ha.epoch_le_halfway answer hanswer s (halfway_finish hs).2,
      List.forall_mem_singleton.2 fun s hs => absurd rfl (halfway_finish hs).1⟩
  ordered := by
    refine List.pairwise_append.2 ⟨ha.ordered, List.pairwise_singleton _ _, ?_⟩
    intro answer hanswer last hlast hreader
    obtain rfl := List.mem_singleton.1 hlast
    exact ha.epoch_le_halfway answer hanswer atCount (by rw [hreader]; exact h)

theorem Sound.step (ha : a.Sound o) (h : Step o a a') : a'.Sound o := by
  cases h with
  | serve _ hstep =>
    obtain ⟨hcounted, hgrows⟩ := ha.counted.step hstep
    exact { ha with
      service := ha.service.step hstep, counted := hcounted
      halfway := fun reader atCount h => Nat.le_trans (ha.halfway reader atCount h) hgrows.epoch_le
      answers := fun answer hanswer => (ha.answers answer hanswer).mono hgrows
      epoch_le := fun answer hanswer => Nat.le_trans (ha.epoch_le answer hanswer) hgrows.epoch_le }
  | begin reader _ => exact ha.begin reader
  | finish _ h => exact ha.finish h

end Audience

/-- Whatever comes between the looks of readers and the steps of a service, an answer with a count
is made from the snapshot of the publication with that number, or of a later one. Of successive
answers to one reader none has a smaller count than the one before. The count is that of all
publications, or of all but the last. -/
theorem health_never_ahead (o : Setup σ) {world : σ} {manager : Manager} {a : Audience σ}
    (h : Relation.ReflTransGen (Audience.Step o) { service := { world, manager } } a) :
    (∀ answer ∈ a.answers,
      answer.health.collectionSucceeded = answer.snapshot.collectionSucceeded ∧
        ∃ k, answer.health.epoch ≤ k ∧ a.snapshots[k]? = some answer.snapshot) ∧
    (a.answers.Pairwise fun x y => x.reader = y.reader → x.health.epoch ≤ y.health.epoch) ∧
    (a.service.store.epoch ≤ a.service.published.length ∧
      a.service.published.length ≤ a.service.store.epoch + 1) := by
  have hsound : a.Sound o := by
    induction h with
    | refl => exact .fresh world manager
    | tail _ hstep ih => exact ih.step hstep
  refine ⟨fun answer hanswer => ?_, hsound.ordered, ?_⟩
  · obtain ⟨hsucceeded, hsnapshot⟩ := hsound.answers answer hanswer
    exact ⟨hsucceeded, hsnapshot⟩
  · have hcounted := hsound.counted
    have huncounted := a.service.phase.uncounted_le_one
    unfold Service.Counted at hcounted
    omega

/-- A collection of nothing, for nobody. -/
def idle : Setup Unit where
  acquire world := some (.value [], world)
  clientVersion := "0.1.0"

/-- The first snapshot takes its place between two looks of a reader, who is told of it beside a
count of zero. The next answer to this reader has a count of one. -/
theorem health_never_ahead_overtaken : ∃ a : Audience Unit,
    Relation.ReflTransGen (Audience.Step idle)
        { service := { world := (), manager := .disabled } } a ∧
      a.answers.map (fun x => (x.reader, x.health)) = [(7, ⟨0, true⟩), (7, ⟨1, true⟩)] ∧
      a.snapshots.map (·.collectionSucceeded) = [false, true] ∧
      ∀ x ∈ a.answers, ∃ k, x.health.epoch ≤ k ∧ a.snapshots[k]? = some x.snapshot := by
  have h₀ : Relation.ReflTransGen (Audience.Step idle)
      { service := { world := (), manager := .disabled } } _ := .refl
  have h₁ := h₀.tail (.begin 7 rfl)
  have h₂ := h₁.tail (.serve (.work .epoch []) rfl)
  have h₃ := h₂.tail (.serve (.work .epoch []) rfl)
  have h₄ := h₃.tail (.serve (.work .epoch []) rfl)
  have h₅ := h₄.tail (.finish 7 rfl)
  have h₆ := h₅.tail (.serve (.work .epoch []) rfl)
  have h₇ := h₆.tail (.begin 7 rfl)
  have h₈ := h₇.tail (.finish 7 rfl)
  exact ⟨_, h₈, rfl, rfl, fun x hx => ((health_never_ahead idle h₈).1 x hx).2⟩

end ClusterInventory.ReadApi
