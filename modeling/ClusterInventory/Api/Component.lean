import ClusterInventory.Api.Handle

/-! Components of a world. Work that only knows of one component can be done in the whole world,
where it leaves all else as it is. -/

namespace ClusterInventory.Api

/-- A component of a world, which another can take the place of. -/
structure Component (ω σ : Type) where
  get : ω → σ
  set : ω → σ → ω
  get_set : ∀ w s, get (set w s) = s
  set_get : ∀ w, set w (get w) = w
  set_set : ∀ w s t, set (set w s) t = set w t

namespace Component

variable {ω σ τ α : Type}

def fst : Component (σ × τ) σ where
  get := Prod.fst
  set w s := (s, w.2)
  get_set _ _ := rfl
  set_get _ := rfl
  set_set _ _ _ := rfl

def snd : Component (σ × τ) τ where
  get := Prod.snd
  set w t := (w.1, t)
  get_set _ _ := rfl
  set_get _ := rfl
  set_set _ _ _ := rfl

/-- Work in a component of a world. -/
def lift (c : Component ω σ) (x : Calls σ α) : Calls ω α := fun w =>
  (x (c.get w)).map fun (a, s) => (a, c.set w s)

end Component

end ClusterInventory.Api
