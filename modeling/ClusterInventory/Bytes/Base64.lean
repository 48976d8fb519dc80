/-! Bytes as text in base 64: three bytes stand as four digits. The last group may be shorter; it
is filled up with a mark, or left as it is. -/

namespace ClusterInventory.Bytes

/-- The parts in which forms of base 64 differ. -/
structure Base64 where
  /-- The digit of 62. -/
  plus : Char
  /-- The digit of 63. -/
  slash : Char
  /-- The last group is filled up. -/
  isPadded : Bool

namespace Base64

def standard : Base64 := ⟨'+', '/', true⟩

def urlSafe : Base64 := ⟨'-', '_', false⟩

/-- The digit of a number below 64. -/
def digit (v : Base64) (n : Nat) : Char :=
  if n < 26 then Char.ofNat (65 + n)
  else if n < 52 then Char.ofNat (71 + n)
  else if n < 62 then Char.ofNat (n - 4)
  else if n = 62 then v.plus
  else v.slash

def value? (v : Base64) (c : Char) : Option Nat :=
  if c.isUpper then some (c.toNat - 65)
  else if c.isLower then some (c.toNat - 71)
  else if c.isDigit then some (c.toNat + 4)
  else if c = v.plus then some 62
  else if c = v.slash then some 63
  else none

/-- What the last group is filled up with. -/
def padding (v : Base64) (n : Nat) : List Char := if v.isPadded then List.replicate n '=' else []

def encodeChars (v : Base64) : List UInt8 → List Char
  | [] => []
  | [a] =>
    let n := a.toNat
    v.digit (n / 4) :: v.digit (n % 4 * 16) :: v.padding 2
  | [a, b] =>
    let n := a.toNat * 256 + b.toNat
    v.digit (n / 1024) :: v.digit (n / 16 % 64) :: v.digit (n % 16 * 4) :: v.padding 1
  | a :: b :: c :: rest =>
    let n := (a.toNat * 256 + b.toNat) * 256 + c.toNat
    v.digit (n / 262144) :: v.digit (n / 4096 % 64) :: v.digit (n / 64 % 64) :: v.digit (n % 64) ::
      v.encodeChars rest

def encode (v : Base64) (bytes : List UInt8) : String := String.ofList (v.encodeChars bytes)

/-- The bytes of numbers below 64, of which the last group may be shorter. Bits beyond the last
byte count for nothing. -/
def join : List Nat → Option (List UInt8)
  | [] => some []
  | [_] => none
  | [a, b] => some [UInt8.ofNat ((a * 64 + b) / 16)]
  | [a, b, c] =>
    let n := (a * 64 + b) * 64 + c
    some [UInt8.ofNat (n / 1024), UInt8.ofNat (n / 4)]
  | a :: b :: c :: d :: rest =>
    let n := ((a * 64 + b) * 64 + c) * 64 + d
    (join rest).map fun bytes =>
      UInt8.ofNat (n / 65536) :: UInt8.ofNat (n / 256) :: UInt8.ofNat n :: bytes

/-- The bytes of digits that nothing fills up. -/
def decodeChars? (v : Base64) (digits : List Char) : Option (List UInt8) :=
  (digits.mapM v.value?).bind join

def decode? (v : Base64) (s : String) : Option (List UInt8) :=
  let digits := s.toList.takeWhile (· != '=')
  if s.toList.drop digits.length == v.padding ((4 - digits.length % 4) % 4) then
    v.decodeChars? digits
  else none

end Base64

end ClusterInventory.Bytes
