/-! Reading UTF-8. A sequence that breaks off or cannot stand is replaced, up to the byte at which
it goes wrong, by one replacement character or by whatever else is to stand for it. -/

namespace ClusterInventory.Text.Utf8

/-- The character that stands for what cannot be read. -/
def replacement : Char := '\uFFFD'

/-- How a sequence goes on after its first byte: the bits that this byte gives, the number of bytes
that follow, and the bounds of the first of them. -/
structure Lead where
  bits : Nat
  following : Nat
  least : UInt8 := 0x80
  most : UInt8 := 0xBF

/-- What a first byte announces. -/
def lead? (b : UInt8) : Option Lead :=
  if b < 0x80 then some { bits := b.toNat, following := 0 }
  else if b < 0xC2 then none
  else if b < 0xE0 then some { bits := b.toNat - 0xC0, following := 1 }
  else if b < 0xF0 then
    some { bits := b.toNat - 0xE0, following := 2, least := if b = 0xE0 then 0xA0 else 0x80
           most := if b = 0xED then 0x9F else 0xBF }
  else if b < 0xF5 then
    some { bits := b.toNat - 0xF0, following := 3, least := if b = 0xF0 then 0x90 else 0x80
           most := if b = 0xF4 then 0x8F else 0xBF }
  else none

/-- Reads so many more bytes of a sequence, the first within bounds; gives the number that they
spell, if they can all stand, and what follows the last byte that can. -/
def readFollowing (bits : Nat) (least most : UInt8) : Nat → List UInt8 → Option Nat × List UInt8
  | 0, rest => (some bits, rest)
  | _ + 1, [] => (none, [])
  | n + 1, b :: rest =>
    if least ≤ b && b ≤ most then readFollowing (bits * 64 + (b.toNat - 0x80)) 0x80 0xBF n rest
    else (none, b :: rest)

theorem length_readFollowing_le (bits : Nat) (least most : UInt8) (n : Nat) (bs : List UInt8) :
    (readFollowing bits least most n bs).2.length ≤ bs.length := by
  induction n generalizing bits least most bs with
  | zero => simp [readFollowing]
  | succ n ih =>
    cases bs with
    | nil => simp [readFollowing]
    | cons b rest =>
      simp only [readFollowing]
      split
      · exact Nat.le_succ_of_le (ih ..)
      · exact Nat.le_refl _

/-- The characters that bytes spell, with `stray` in place of every sequence that breaks off or
cannot stand. -/
def decodeWith (stray : List Char) : List UInt8 → List Char
  | [] => []
  | b :: rest =>
    match lead? b with
    | none => stray ++ decodeWith stray rest
    | some l =>
      match _h : readFollowing l.bits l.least l.most l.following rest with
      | (some n, after) => Char.ofNat n :: decodeWith stray after
      | (none, after) => stray ++ decodeWith stray after
termination_by bs => bs.length
decreasing_by
  · simp
  all_goals
    have := length_readFollowing_le l.bits l.least l.most l.following rest
    simp only [_h, List.length_cons] at this ⊢
    omega

/-- The characters that bytes spell, where one stands for what cannot be read. -/
def decode (bytes : List UInt8) : List Char := decodeWith [replacement] bytes

def text (bytes : List UInt8) : String := String.ofList (decode bytes)

/-- The text that bytes spell, if they spell one throughout. -/
def decode? (bytes : List UInt8) : Option String := String.fromUTF8? ⟨bytes.toArray⟩

def bytes (s : String) : List UInt8 := s.toUTF8.toList

end ClusterInventory.Text.Utf8
