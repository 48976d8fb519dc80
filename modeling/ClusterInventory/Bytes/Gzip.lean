/-! The container format of gzip, with data in stored blocks: a header, blocks that hold up to
65535 bytes as they are, a checksum, and the length. -/

namespace ClusterInventory.Bytes.Gzip

def checksumStep (n : Nat) (crc : UInt32) : UInt32 :=
  match n with
  | 0 => crc
  | n + 1 => checksumStep n (if crc &&& 1 = 1 then (crc >>> 1) ^^^ 0xEDB88320 else crc >>> 1)

/-- The checksum CRC-32 of bytes. -/
def checksum (bytes : List UInt8) : UInt32 :=
  ~~~(bytes.foldl (fun crc b => checksumStep 8 (crc ^^^ b.toUInt32)) 0xFFFFFFFF)

/-- The bytes of a number, least significant first, in a field of so many. -/
def field : Nat → Nat → List UInt8
  | 0, _ => []
  | n + 1, value => UInt8.ofNat value :: field n (value / 256)

def number (bytes : List UInt8) : Nat := bytes.foldr (fun b n => b.toNat + 256 * n) 0

/-- The mark of the format, the method, no flags, no time, and no statement on the system. -/
def header : List UInt8 := [0x1F, 0x8B, 8, 0, 0, 0, 0, 0, 0, 0xFF]

def blockSize : Nat := 65535

def block (isLast : Bool) (bytes : List UInt8) : List UInt8 :=
  (if isLast then 1 else 0) :: field 2 bytes.length ++ field 2 (blockSize - bytes.length) ++ bytes

def blocks (bytes : List UInt8) : List UInt8 :=
  if bytes.length ≤ blockSize then block true bytes
  else block false (bytes.take blockSize) ++ blocks (bytes.drop blockSize)
termination_by bytes.length
decreasing_by simp_all [blockSize]; omega

def compress (bytes : List UInt8) : List UInt8 :=
  header ++ blocks bytes ++ field 4 (checksum bytes).toNat ++ field 4 bytes.length

/-- Reads stored blocks up to the last one; gives the bytes that they hold and what follows. -/
def readBlocks? (bytes : List UInt8) : Option (List UInt8 × List UInt8) :=
  match bytes with
  | mark :: l0 :: l1 :: m0 :: m1 :: rest =>
    let length := number [l0, l1]
    if mark.toNat ≤ 1 ∧ number [m0, m1] = blockSize - length ∧ length ≤ rest.length then
      if mark.toNat = 1 then some (rest.take length, rest.drop length)
      else (readBlocks? (rest.drop length)).map fun r => (rest.take length ++ r.1, r.2)
    else none
  | _ => none
termination_by bytes.length
decreasing_by simp only [List.length_drop, List.length_cons]; omega

/-- The bytes of a compressed form, if its data is stored and its checksum and length are right. -/
def expand? (bytes : List UInt8) : Option (List UInt8) := do
  guard (bytes.take 10 = header)
  let (data, rest) ← readBlocks? (bytes.drop 10)
  guard (rest = field 4 (checksum data).toNat ++ field 4 data.length)
  return data

end ClusterInventory.Bytes.Gzip
