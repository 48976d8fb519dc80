import ClusterInventory.Asn1.Header

/-! ASN.1 values as they are written, one after the other or within one another. A content whose
length is open reaches up to a mark, two bytes of zeros. -/

namespace ClusterInventory.Asn1

structure Element where
  tag : Tag
  /-- The content is made up of values again. -/
  isConstructed : Bool
  /-- The content, without a mark that ends it. -/
  content : List UInt8
  /-- The value with its header and such a mark. -/
  whole : List UInt8
  deriving DecidableEq, Repr

namespace Element

/-- The mark that ends a content. -/
def mark : List UInt8 := [0, 0]

/-- What follows the mark that ends a content, in which so many further ones have to be met
first. -/
def afterMark? (depth : Nat) (bytes : List UInt8) : Option (List UInt8) :=
  if _hm : mark.isPrefixOf bytes then
    match depth with
    | 0 => some (bytes.drop 2)
    | depth + 1 => afterMark? depth (bytes.drop 2)
  else
    match _h : Header.read? bytes with
    | none => none
    | some (header, rest) =>
      match header.length with
      | none => afterMark? (depth + 1) rest
      | some n => afterMark? depth (rest.drop n)
termination_by bytes.length
decreasing_by
  · have := List.IsPrefix.length_le (List.isPrefixOf_iff_prefix.mp _hm)
    simp only [mark, List.length_cons, List.length_nil] at this
    simp only [List.length_drop]
    omega
  · exact Header.length_read?_lt _h
  · have := Header.length_read?_lt _h
    simp only [List.length_drop]
    omega

def after? (length : Option Nat) (bytes : List UInt8) : Option (List UInt8) :=
  match length with
  | some n => some (bytes.drop n)
  | none => afterMark? 0 bytes

/-- The first value and what follows. -/
def read? (bytes : List UInt8) : Option (Element × List UInt8) := do
  let (header, rest) ← Header.read? bytes
  let after ← after? header.length rest
  let closing := if header.length.isNone then mark.length else 0
  let element : Element :=
    { tag := header.tag
      isConstructed := header.isConstructed
      content := rest.take (rest.length - after.length - closing)
      whole := bytes.take (bytes.length - after.length) }
  return (element, after)

theorem length_afterMark?_le {depth : Nat} {bytes after : List UInt8}
    (h : afterMark? depth bytes = some after) : after.length ≤ bytes.length := by
  fun_induction afterMark? depth bytes with
  | case1 =>
    rw [← Option.some.inj h, List.length_drop]
    omega
  | case2 _ _ _ ih =>
    have := ih h
    simp only [List.length_drop] at this
    omega
  | case3 => simp at h
  | case4 _ _ _ _ _ e _ ih =>
    have := ih h
    have := Header.length_read?_lt e
    omega
  | case5 _ _ _ _ _ e _ _ ih =>
    have := Header.length_read?_lt e
    have := List.length_drop ▸ ih h
    omega

theorem length_after?_le {length : Option Nat} {bytes after : List UInt8}
    (h : after? length bytes = some after) : after.length ≤ bytes.length := by
  cases length with
  | none => exact length_afterMark?_le h
  | some n =>
    simp only [after?, Option.some.injEq] at h
    simp [← h]

theorem length_read?_lt {e : Element} {bytes rest : List UInt8}
    (h : read? bytes = some (e, rest)) : rest.length < bytes.length := by
  simp only [read?, Option.bind_eq_bind, Option.bind_eq_some_iff] at h
  obtain ⟨⟨header, within⟩, hh, after, ha, h⟩ := h
  simp only [Option.pure_def, Option.some.injEq, Prod.mk.injEq] at h
  have := Header.length_read?_lt hh
  have : after.length ≤ within.length := length_after?_le ha
  have := congrArg List.length h.2
  omega

/-- The values that bytes are made up of. A mark is none. -/
def readAll? (bytes : List UInt8) : Option (List Element) :=
  if bytes.isEmpty then some []
  else if mark.isPrefixOf bytes then none
  else
    match _h : read? bytes with
    | none => none
    | some (e, rest) => (readAll? rest).map (e :: ·)
termination_by bytes.length
decreasing_by exact length_read?_lt _h

/-- The values within a value with this tag. -/
def items? (tag : Tag) (e : Element) : Option (List Element) :=
  if e.tag = tag then readAll? e.content else none

/-- The values within a constructed value with this tag. -/
def fields? (tag : Tag) (e : Element) : Option (List Element) :=
  if e.isConstructed then e.items? tag else none

/-- The value within a value that has a tag with this number around its own. -/
def tagged? (number : Nat) (e : Element) : Option Element := do
  let [inner] ← e.fields? ⟨.contextual, number⟩ | none
  return inner

end Element

end ClusterInventory.Asn1
