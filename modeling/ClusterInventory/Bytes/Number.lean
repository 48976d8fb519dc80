/-! Whole numbers as bytes, most significant first. -/

namespace ClusterInventory.Bytes

def natOfBytes (bytes : List UInt8) : Nat := bytes.foldl (fun n b => n * 256 + b.toNat) 0

/-- The last so many bytes of a number. -/
def bytesOfNat : Nat → Nat → List UInt8
  | 0, _ => []
  | width + 1, n => bytesOfNat width (n / 256) ++ [UInt8.ofNat n]

def bitCount (n : Nat) : Nat := if n = 0 then 0 else Nat.log2 n + 1

def byteCount (n : Nat) : Nat := (bitCount n + 7) / 8

/-- The bytes of a number, none of them for nothing. -/
def minimalBytes (n : Nat) : List UInt8 := bytesOfNat (byteCount n) n

end ClusterInventory.Bytes
