import ClusterInventory.Text.Decimal
import ClusterInventory.Text.Split

/-! The order of the versions of a group: stable ones first, then those in beta, then those in
alpha, of each the highest first; texts of another form follow in their own order. -/

namespace ClusterInventory.Api

inductive Stability where
  | other | alpha | beta | stable
  deriving DecidableEq, Repr

def Stability.height : Stability → Nat
  | other => 0
  | alpha => 1
  | beta => 2
  | stable => 3

structure VersionRank where
  stability : Stability
  major : Nat := 0
  minor : Option Nat := none
  /-- The whole text, where it is of no known form. -/
  text : String := ""
  deriving DecidableEq, Repr

namespace VersionRank

/-- A number of 32 bits without sign. -/
def number? (cs : List Char) : Option Nat := (Text.readUnsigned? cs).filter (· < UInt32.size)

/-- The place of a version of a known form: `v2`, `v1beta1`, `v1alpha`. -/
def ofForm? (version : String) : Option VersionRank := do
  let 'v' :: cs := version.toList | none
  let digits := cs.takeWhile Char.isDigit
  let major ← number? digits
  let within (stability : Stability) (rest : List Char) : Option VersionRank :=
    if rest.isEmpty then some { stability, major }
    else (number? rest).map fun minor =>
      { stability, major, minor := some minor }
  let rest := cs.drop digits.length
  if rest.isEmpty then some { stability := .stable, major }
  else if "alpha".toList.isPrefixOf rest then within .alpha (rest.drop 5)
  else if "beta".toList.isPrefixOf rest then within .beta (rest.drop 4)
  else none

def ofVersion (version : String) : VersionRank :=
  (ofForm? version).getD { stability := .other, text := version }

/-- One version comes before another, or at the same place. -/
def notAfter (a b : VersionRank) : Bool :=
  if a.stability ≠ b.stability then a.stability.height > b.stability.height
  else if a.major ≠ b.major then a.major > b.major
  else
    match a.minor, b.minor with
    | some m, some n => m ≥ n
    | none, some _ => false
    | some _, none => true
    | none, none => !(b.text < a.text)

end VersionRank

end ClusterInventory.Api
