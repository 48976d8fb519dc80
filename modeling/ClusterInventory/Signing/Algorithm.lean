import ClusterInventory.Asn1.Content

/-! Identifiers of algorithms, with parameters whose kind depends on the algorithm. -/

namespace ClusterInventory.Signing

open Asn1 (Element Tag)

structure Algorithm where
  /-- The content of its object identifier. -/
  identifier : List UInt8
  parameters : Option Element
  /-- Both in their shortest form. -/
  written : List UInt8
  deriving DecidableEq, Repr

/-- The algorithm that a value stands for. Parameters may be of any kind, but not missing content
of theirs. -/
def Algorithm.ofElement? (e : Element) : Option Algorithm := do
  let id :: rest ← e.fields? .sequence | none
  let identifier ← id.content? .identifier
  let (parameters, written) ← match rest with
    | [] => some (none, [])
    | [p] => p.rewritten?.map (some p, ·)
    | _ => none
  return { identifier, parameters
           written := Element.writtenSequence [Element.written .identifier identifier, written] }

end ClusterInventory.Signing
