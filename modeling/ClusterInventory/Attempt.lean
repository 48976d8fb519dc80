/-! Work that may fail or break off. A failure is a chain of messages, outermost first; work that
breaks off leaves at most a text behind. -/

namespace ClusterInventory

inductive Breakdown where
  | text (s : String)
  | unprintable
  deriving DecidableEq, Repr

namespace Breakdown

def message : Breakdown → String
  | .text s => s
  | .unprintable => "unknown panic"

/-- A sum of whole numbers that left its range. -/
def overflow : Breakdown := .text "attempt to add with overflow"

end Breakdown

/-- The messages of a chain of causes, joined from the outermost to the innermost. -/
def causeText (chain : List String) : String := ": ".intercalate chain

/-- The outcome of work that may fail or break off. -/
inductive Attempt (α : Type) where
  | value (a : α)
  | failed (chain : List String)
  | broken (b : Breakdown)
  deriving DecidableEq, Repr

namespace Attempt

variable {α β : Type}

/-- Goes on with the value, if there is one. -/
def bind : Attempt α → (α → Attempt β) → Attempt β
  | .value a, f => f a
  | .failed chain, _ => .failed chain
  | .broken b, _ => .broken b

instance : Monad Attempt where
  pure := .value
  bind := bind

@[simp] theorem pure_eq (a : α) : (pure a : Attempt α) = .value a := rfl

@[simp] theorem value_bind (a : α) (f : α → Attempt β) : (Attempt.value a >>= f) = f a := rfl

@[simp] theorem failed_bind (chain : List String) (f : α → Attempt β) :
    (Attempt.failed chain >>= f) = .failed chain := rfl

@[simp] theorem broken_bind (b : Breakdown) (f : α → Attempt β) :
    (Attempt.broken b >>= f) = .broken b := rfl

end Attempt

end ClusterInventory
