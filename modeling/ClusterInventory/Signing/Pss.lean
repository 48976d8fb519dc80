import ClusterInventory.Bytes.Sha512
import ClusterInventory.Signing.Rsa

/-! Signatures of the scheme RSASSA-PSS with SHA-512 throughout and a salt as long as a hash. -/

namespace ClusterInventory.Signing.Pss

open Bytes (Sha512.hash Sha512.size natOfBytes bytesOfNat)

/-- The number of bytes of a salt. -/
def saltSize : Nat := Sha512.size

/-- So many blocks of the mask that a seed gives, from a block on. -/
def maskBlocks (seed : List UInt8) : Nat → Nat → List UInt8
  | 0, _ => []
  | n + 1, i => Sha512.hash (seed ++ bytesOfNat 4 i) ++ maskBlocks seed n (i + 1)

/-- The first so many bytes of the mask that a seed gives. -/
def mask (seed : List UInt8) (length : Nat) : List UInt8 :=
  (maskBlocks seed (length / Sha512.size + 1) 0).take length

def masked (bytes mask : List UInt8) : List UInt8 := List.zipWith (· ^^^ ·) bytes mask

/-- Bytes without the first so many bits, fewer than eight. -/
def clearBits (n : Nat) : List UInt8 → List UInt8
  | [] => []
  | b :: rest => UInt8.ofNat (b.toNat % Nat.pow 2 (8 - n)) :: rest

def bytesFor (bits : Nat) : Nat := (bits + 7) / 8

/-- The hash that binds a message to a salt. -/
def binding (message salt : List UInt8) : List UInt8 :=
  Sha512.hash (List.replicate 8 0 ++ Sha512.hash message ++ salt)

/-- The encoding of a message in so many bits, where they suffice. -/
def encode? (bits : Nat) (message salt : List UInt8) : Option (List UInt8) :=
  let length := bytesFor bits
  if length < Sha512.size + saltSize + 2 then none
  else
    let h := binding message salt
    let room := length - Sha512.size - 1
    let data := List.replicate (room - saltSize - 1) 0 ++ 1 :: salt
    some (clearBits (8 * length - bits) (masked data (mask h room)) ++ h ++ [0xBC])

/-- Bytes are the encoding of a message in so many bits, with some salt. -/
def isEncoding (bits : Nat) (message bytes : List UInt8) : Bool :=
  let length := bytesFor bits
  let room := length - Sha512.size - 1
  let h := (bytes.drop room).take Sha512.size
  let data := clearBits (8 * length - bits) (masked (bytes.take room) (mask h room))
  let salt := data.drop (room - saltSize)
  bytes.length == length && encode? bits message salt == some bytes

/-- The terms of a key allow for signatures of this scheme. -/
def meets (terms : Option SchemeTerms) : Bool :=
  terms.all fun t => t.hasUsualHash && 0 ≤ t.leastSalt && t.leastSalt ≤ Int.ofNat saltSize

/-- The signature of a message with a salt. A key whose encoding is too short signs nothing. -/
def sign? (k : RsaKey) (salt message : List UInt8) : Option (List UInt8) := do
  guard (meets k.terms)
  let encoded ← encode? (k.bits - 1) message salt
  return bytesOfNat k.size (← k.sealed? (natOfBytes encoded))

/-- The signature is one of the message under the key. -/
def verify (k : RsaPublicKey) (message signature : List UInt8) : Bool :=
  let bits := k.bits - 1
  k.isHandy && signature.length == k.size && natOfBytes signature < k.modulus &&
    isEncoding bits message (bytesOfNat (bytesFor bits) (k.opened (natOfBytes signature)))

end ClusterInventory.Signing.Pss
