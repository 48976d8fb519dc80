import ClusterInventory.Asn1.Element

/-! The contents of ASN.1 values of the universal kinds: what each kind admits, contents that come
in pieces, and values written anew in their shortest form. -/

namespace ClusterInventory.Asn1

namespace Tag

/-- A tag whose number says of which kind a value is. -/
def universal (number : Nat) : Tag := ⟨.universal, number⟩

def boolean : Tag := universal 1
def integer : Tag := universal 2
def bitString : Tag := universal 3
def octetString : Tag := universal 4
def null : Tag := universal 5
def identifier : Tag := universal 6
def enumerated : Tag := universal 10
def utf8String : Tag := universal 12
def sequence : Tag := universal 16
def set : Tag := universal 17
def shortTime : Tag := universal 23
def longTime : Tag := universal 24
def fourByteString : Tag := universal 28
def twoByteString : Tag := universal 30

/-- The tag of a value whose number depends on where it stands. -/
def contextual (number : Nat) : Tag := ⟨.contextual, number⟩

end Tag

namespace Content

/-- A number is there and takes no more bytes than its sign needs. -/
def isInteger : List UInt8 → Bool
  | [] => false
  | [_] => true
  | a :: b :: _ => !(a == 0 && b.toNat < 128 || a == 255 && b.toNat ≥ 128)

/-- The number that the content of an integer stands for. -/
def toInt (content : List UInt8) : Int :=
  let n := Int.ofNat (Bytes.natOfBytes content)
  if content.head?.any (·.toNat ≥ 128) then n - Int.ofNat (Nat.pow 256 content.length) else n

/-- Numbers of seven bits a byte, each of which ends and none of which starts with nothing; `fresh`
says that a number starts here. -/
def areDigits (fresh : Bool) : List UInt8 → Bool
  | [] => fresh
  | b :: rest => !(fresh && b.toNat == 128) && areDigits (b.toNat < 128) rest

/-- A string of bits: how many bits of the last byte do not count, and the bytes. -/
def isBits : List UInt8 → Bool
  | [] => false
  | unused :: _ => unused.toNat < 8

/-- The bytes are a content of the kind that goes with a tag. Kinds that are not told apart here
admit any. -/
def isOf (tag : Tag) (content : List UInt8) : Bool :=
  if tag = .boolean then content.length == 1
  else if tag = .integer ∨ tag = .enumerated then isInteger content
  else if tag = .bitString then isBits content
  else if tag = .null then content.isEmpty
  else if tag = .identifier then !content.isEmpty && areDigits true content
  else if tag = .shortTime then content.length ≥ 13
  else if tag = .longTime then content.length ≥ 15
  else if tag = .fourByteString then content.length % 4 == 0
  else if tag = .twoByteString then content.length % 2 == 0
  else true

/-- Values of this kind never come in pieces. -/
def isUndivided (tag : Tag) : Bool :=
  [Tag.boolean, .integer, .null, .identifier, .enumerated].contains tag

/-- How often a piece may be in pieces itself. -/
def maxDepth : Nat := 5

/-- What pieces make up, whatever their tags. -/
def gathered? : Nat → List UInt8 → Option (List UInt8)
  | 0, bytes => do
    let pieces ← (← Element.readAll? bytes).mapM fun e =>
      if e.isConstructed then none else some e.content
    return pieces.flatten
  | depth + 1, bytes => do
    let pieces ← (← Element.readAll? bytes).mapM fun e =>
      if e.isConstructed then gathered? depth e.content else some e.content
    return pieces.flatten

/-- The bits that do not count are off, and there are none without a byte. -/
def cleared : List UInt8 → List UInt8
  | [] => []
  | unused :: bytes =>
    match bytes.getLast? with
    | none => [0]
    | some last =>
      let unit := Nat.pow 2 unused.toNat
      unused :: bytes.dropLast ++ [UInt8.ofNat (last.toNat / unit * unit)]

end Content

namespace Element

/-- The content of a value that is of the kind of a tag, whatever its own. -/
def contentAs? (kind : Tag) (e : Element) : Option (List UInt8) := do
  let content ←
    if !e.isConstructed then some e.content
    else if Content.isUndivided kind then none
    else Content.gathered? Content.maxDepth e.content
  guard (Content.isOf kind content)
  return content

/-- The content of a value with this tag. -/
def content? (tag : Tag) (e : Element) : Option (List UInt8) :=
  if e.tag = tag then e.contentAs? tag else none

/-- A primitive value with this tag, in its shortest form. -/
def written (tag : Tag) (content : List UInt8) : List UInt8 :=
  Header.write tag false content.length ++ content

/-- A sequence of values in their written forms. -/
def writtenSequence (parts : List (List UInt8)) : List UInt8 :=
  let content := parts.flatten
  Header.write .sequence true content.length ++ content

/-- A string of bits in its shortest form. -/
def writtenBits (content : List UInt8) : List UInt8 := written .bitString (Content.cleared content)

/-- A value of any kind, written anew: sequences, sets and values of no universal kind stay as they
are, and other values take their shortest form. -/
def rewritten? (e : Element) : Option (List UInt8) :=
  if e.tag.space ≠ .universal then some e.whole
  else if e.tag = .sequence ∨ e.tag = .set then if e.isConstructed then some e.whole else none
  else do
    let content ← e.contentAs? e.tag
    return if e.tag = .bitString then writtenBits content else written e.tag content

/-- A number of which the sign does not count. -/
def natural? (e : Element) : Option Nat :=
  if e.tag = .integer ∧ !e.isConstructed then some (Bytes.natOfBytes e.content) else none

/-- A number of a version or a length, of at most 32 bits. Nothing stands for zero. -/
def small? (e : Element) : Option Int := do
  if e.tag = .integer ∧ !e.isConstructed ∧ e.content.isEmpty then return 0
  let n := Content.toInt (← e.content? .integer)
  guard (-2147483648 ≤ n ∧ n ≤ 2147483647)
  return n

/-- What stands first within a tag of its own, if the tag is there, and what follows. -/
def option? (number : Nat) : List Element → Option (Option Element × List Element)
  | [] => some (none, [])
  | e :: rest =>
    if e.tag = .contextual number then do return (some (← e.tagged? number), rest)
    else some (none, e :: rest)

end Element

end ClusterInventory.Asn1
