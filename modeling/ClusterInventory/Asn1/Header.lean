import ClusterInventory.Bytes.Number

/-! Headers of ASN.1 values: a tag, and the length of the content that follows. One number can be
written in several ways here, and a length can be left open. -/

namespace ClusterInventory.Asn1

/-- The space that the number of a tag belongs to. -/
inductive TagSpace where
  | universal | application | contextual | personal
  deriving DecidableEq, Repr

namespace TagSpace

/-- The space that the two highest bits of a header stand for. -/
def ofBits : Nat → TagSpace
  | 0 => universal
  | 1 => application
  | 2 => contextual
  | _ => personal

/-- The bits that stand for a space. -/
def bits : TagSpace → Nat
  | universal => 0
  | application => 1
  | contextual => 2
  | personal => 3

end TagSpace

structure Tag where
  space : TagSpace
  number : Nat
  deriving DecidableEq, Repr

structure Header where
  tag : Tag
  /-- The content is made up of values again. -/
  isConstructed : Bool
  /-- The number of bytes of the content; nothing if a mark ends it. -/
  length : Option Nat
  deriving DecidableEq, Repr

namespace Header

/-- The rest of a number whose bytes hold seven bits each, and what follows. What has been read of
it must leave room for seven more bits in 31. -/
def readDigits? (n : Nat) : List UInt8 → Option (Nat × List UInt8)
  | [] => none
  | b :: rest =>
    if b.toNat < 128 then some (n * 128 + b.toNat, rest)
    else
      let n := n * 128 + (b.toNat - 128)
      if n > 16777215 then none else readDigits? n rest

/-- The number of a tag, of which the first byte shows so much, and what follows. -/
def readNumber? (shown : Nat) (rest : List UInt8) : Option (Nat × List UInt8) :=
  if shown = 31 then readDigits? 0 rest else some (shown, rest)

def maxLength : Nat := 9223372036854775807

/-- The length of a content and what follows. A length that takes up bytes of its own is not the
last thing that there is. -/
def readLength? : List UInt8 → Option (Option Nat × List UInt8)
  | [] => none
  | b :: rest =>
    if b.toNat < 128 then some (some b.toNat, rest)
    else if b.toNat = 128 then some (none, rest)
    else
      let count := b.toNat - 128
      let n := Bytes.natOfBytes (rest.take count)
      if rest.length ≤ count ∨ n > maxLength then none else some (some n, rest.drop count)

/-- The first header and what follows, which may fall short of it. Only a constructed value can be
of open length. -/
def parse? : List UInt8 → Option (Header × List UInt8)
  | [] => none
  | b :: rest => do
    let (number, rest) ← readNumber? (b.toNat % 32) rest
    let (length, rest) ← readLength? rest
    let h : Header := ⟨⟨.ofBits (b.toNat / 64), number⟩, b.toNat / 32 % 2 = 1, length⟩
    if h.length.isNone && !h.isConstructed then none else some (h, rest)

/-- The first header and what follows, where that has as many bytes as the content. -/
def read? (bytes : List UInt8) : Option (Header × List UInt8) :=
  (parse? bytes).filter fun (h, rest) => h.length.all (· ≤ rest.length)

theorem length_readDigits?_le {n m : Nat} {bytes rest : List UInt8}
    (h : readDigits? n bytes = some (m, rest)) : rest.length ≤ bytes.length := by
  induction bytes generalizing n with
  | nil => simp [readDigits?] at h
  | cons b bs ih =>
    simp only [readDigits?] at h
    split at h
    · simp only [Option.some.injEq, Prod.mk.injEq] at h
      simp [h.2]
    · split at h
      · simp at h
      · exact Nat.le_succ_of_le (ih h)

theorem length_readNumber?_le {n m : Nat} {bytes rest : List UInt8}
    (h : readNumber? n bytes = some (m, rest)) : rest.length ≤ bytes.length := by
  simp only [readNumber?] at h
  split at h
  · exact length_readDigits?_le h
  · simp only [Option.some.injEq, Prod.mk.injEq] at h
    simp [h.2]

theorem length_readLength?_le {l : Option Nat} {bytes rest : List UInt8}
    (h : readLength? bytes = some (l, rest)) : rest.length ≤ bytes.length := by
  cases bytes with
  | nil => simp [readLength?] at h
  | cons b bs =>
    simp only [readLength?] at h
    split at h
    · simp only [Option.some.injEq, Prod.mk.injEq] at h
      simp [h.2]
    · split at h
      · simp only [Option.some.injEq, Prod.mk.injEq] at h
        simp [h.2]
      · split at h
        · simp at h
        · simp only [Option.some.injEq, Prod.mk.injEq] at h
          simp only [← h.2, List.length_drop, List.length_cons]
          omega

/-- A header takes up bytes. -/
theorem length_parse?_lt {h : Header} {bytes rest : List UInt8}
    (e : parse? bytes = some (h, rest)) : rest.length < bytes.length := by
  cases bytes with
  | nil => simp [parse?] at e
  | cons b bs =>
    simp only [parse?, Option.bind_eq_bind, Option.bind_eq_some_iff] at e
    obtain ⟨⟨number, afterTag⟩, htag, ⟨length, afterLength⟩, hlength, e⟩ := e
    have := length_readNumber?_le htag
    have : afterLength.length ≤ afterTag.length := length_readLength?_le hlength
    split at e
    · simp at e
    · simp only [Option.some.injEq, Prod.mk.injEq] at e
      simp only [← e.2, List.length_cons]
      omega

theorem length_read?_lt {h : Header} {bytes rest : List UInt8}
    (e : read? bytes = some (h, rest)) : rest.length < bytes.length :=
  length_parse?_lt (Option.filter_eq_some_iff.mp e).1

/-! ## Writing -/

/-- The digits of a number to the base 128, all but the last marked as such, in front of more. -/
def writeDigits (n : Nat) (rest : List UInt8) : List UInt8 :=
  if n = 0 then rest else writeDigits (n / 128) (UInt8.ofNat (128 + n % 128) :: rest)
termination_by n
decreasing_by omega

/-- A header that is as short as it can be. -/
def write (tag : Tag) (isConstructed : Bool) (length : Nat) : List UInt8 :=
  let first := tag.space.bits * 64 + if isConstructed then 32 else 0
  let tag :=
    if tag.number < 31 then [UInt8.ofNat (first + tag.number)]
    else UInt8.ofNat (first + 31) ::
      writeDigits (tag.number / 128) [UInt8.ofNat (tag.number % 128)]
  let digits := Bytes.minimalBytes length
  let length :=
    if length < 128 then [UInt8.ofNat length] else UInt8.ofNat (128 + digits.length) :: digits
  tag ++ length

end Header

end ClusterInventory.Asn1
