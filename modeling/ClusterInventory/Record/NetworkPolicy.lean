import ClusterInventory.Record.Meta

/-! Records of network policies. -/

namespace ClusterInventory.Record

/-- A network policy: which pods it selects, and how many rules it has in each direction. -/
structure NetworkPolicy where
  objectMeta : ObjectMeta
  podSelector : StringMap String
  policyTypes : List String
  ingressRules : UInt64
  egressRules : UInt64
  deriving DecidableEq, Inhabited

namespace NetworkPolicy

def toJson (p : NetworkPolicy) : Json :=
  .obj <| p.objectMeta.members ++
    Json.memberIf (!p.podSelector.isEmpty) "pod_selector" (Json.stringMap p.podSelector) ++
    [("policy_types", Json.strings p.policyTypes), ("ingress_rules", .int p.ingressRules.toNat),
      ("egress_rules", .int p.egressRules.toNat)]

def fields : Fields NetworkPolicy := do
  let objectMeta ← ObjectMeta.fields
  let podSelector ← Fields.map "pod_selector" Decoder.string
  let policyTypes ← Fields.required "policy_types" (Decoder.list Decoder.string)
  let ingressRules ← Fields.required "ingress_rules" Decoder.uint64
  let egressRules ← Fields.required "egress_rules" Decoder.uint64
  return { objectMeta, podSelector, policyTypes, ingressRules, egressRules }

def decoder : Decoder NetworkPolicy := Decoder.objectRecord fields

end NetworkPolicy

end ClusterInventory.Record
