import ClusterInventory.Text.Split
import ClusterInventory.Text.Utf8

/-! The pairs of a query such as `limit=500&continue=a%2Fb`. A plus sign stands for a space, and a
byte may be given by its number in base 16. Where a query is written, every byte is given so, save
those of `isPlainByte` and spaces. -/

namespace ClusterInventory.Text

/-- The value of a digit in base 16. -/
def hexDigit? (b : UInt8) : Option UInt8 :=
  if 0x30 ≤ b && b ≤ 0x39 then some (b - 0x30)
  else if 0x41 ≤ b && b ≤ 0x46 then some (b - 0x41 + 10)
  else if 0x61 ≤ b && b ≤ 0x66 then some (b - 0x61 + 10)
  else none

/-- The bytes that a part of a query stands for. -/
def queryBytes : List UInt8 → List UInt8
  | 0x25 :: hi :: lo :: rest =>
    match hexDigit? hi, hexDigit? lo with
    | some h, some l => (h * 16 + l) :: queryBytes rest
    | _, _ => 0x25 :: queryBytes (hi :: lo :: rest)
  | 0x2B :: rest => 0x20 :: queryBytes rest
  | b :: rest => b :: queryBytes rest
  | [] => []

/-- The text that a part of a query stands for. -/
def queryText (s : String) : String := Utf8.text (queryBytes (Utf8.bytes s))

/-- The pairs of a query; empty parts count for nothing. -/
def queryPairs (query : String) : List (String × String) :=
  ((query.splitOn "&").filter (· != "")).map fun part =>
    match splitOnce part "=" with
    | some (key, value) => (queryText key, queryText value)
    | none => (queryText part, "")

/-- The byte stands for itself where a query is written. -/
def isPlainByte (b : UInt8) : Bool :=
  0x30 ≤ b && b ≤ 0x39 || 0x41 ≤ b && b ≤ 0x5A || 0x61 ≤ b && b ≤ 0x7A ||
    b == 0x2A || b == 0x2D || b == 0x2E || b == 0x5F

/-- The number of bytes of a text where it is written in a query. -/
def querySize (s : String) : Nat :=
  (Utf8.bytes s).foldl (fun n b => n + if isPlainByte b || b == 0x20 then 1 else 3) 0

/-- The number of bytes of pairs that are written behind a query. -/
def pairsSize (pairs : List (String × String)) : Nat :=
  pairs.foldl (fun n p => n + querySize p.1 + querySize p.2 + 2) 0

end ClusterInventory.Text
