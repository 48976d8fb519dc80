import ClusterInventory.Asn1.Header

/-! ASN.1 values out of a stream, which are cut out before anything within them is looked at. Each
header has to fit into a window of a few bytes, and in a content of open length any empty value
whose number is zero is taken for a mark. -/

namespace ClusterInventory.Asn1.Stream

/-- The number of bytes that a header is looked for in. -/
def window : Nat := 8

/-- The first header and what follows. -/
def header? (bytes : List UInt8) : Option (Header × List UInt8) :=
  (Header.parse? (bytes.take window)).map fun (h, rest) =>
    (h, bytes.drop ((bytes.take window).length - rest.length))

theorem length_header?_lt {h : Header} {bytes rest : List UInt8}
    (e : header? bytes = some (h, rest)) : rest.length < bytes.length := by
  obtain ⟨⟨h', rest'⟩, hp, e⟩ := Option.map_eq_some_iff.mp e
  have := Header.length_parse?_lt hp
  have := congrArg List.length (Prod.mk.inj e).2
  simp only [List.length_drop, List.length_take] at *
  omega

/-- What follows a value, or so many contents of open length. -/
def after? (depth : Nat) (bytes : List UInt8) : Option (List UInt8) :=
  match _h : header? bytes with
  | none => none
  | some (h, rest) =>
    match h.length with
    | none => after? (depth + 1) rest
    | some n =>
      let isMark := 0 < depth ∧ n = 0 ∧ h.tag.number = 0
      let depth := if isMark then depth - 1 else depth
      if rest.length < n then none
      else if depth = 0 then some (rest.drop n)
      else after? depth (rest.drop n)
termination_by bytes.length
decreasing_by
  · exact length_header?_lt _h
  · have := length_header?_lt _h
    simp only [List.length_drop]
    omega

/-- The bytes of the first value. -/
def first? (bytes : List UInt8) : Option (List UInt8) :=
  (after? 0 bytes).map fun rest => bytes.take (bytes.length - rest.length)

end ClusterInventory.Asn1.Stream
