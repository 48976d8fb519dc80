import ClusterInventory.Bytes.Gzip

/-!
# Compressed bytes read back

The reader of stored blocks undoes their writer, whatever follows the last block
(`readBlocks?_blocks`), and so what has been compressed expands to what it was
(`expand?_compress`).
-/

namespace ClusterInventory.Bytes.Gzip

theorem number_field {n value : Nat} (h : value < Nat.pow 256 n) :
    number (field n value) = value := by
  induction n generalizing value with
  | zero =>
    have : value = 0 := Nat.lt_one_iff.1 h
    rw [this]
    rfl
  | succ n ih =>
    have hquotient : value / 256 < Nat.pow 256 n := by
      rw [Nat.div_lt_iff_lt_mul (by omega)]
      exact h
    have hrest : number (field n (value / 256)) = value / 256 := ih hquotient
    change (UInt8.ofNat value).toNat + 256 * number (field n (value / 256)) = value
    rw [hrest, UInt8.toNat_ofNat']
    omega

/-- The number in a field of two bytes, of which the reader takes hold one by one. -/
theorem number_pair {value : Nat} (h : value ≤ blockSize) :
    number [UInt8.ofNat value, UInt8.ofNat (value / 256)] = value := by
  refine number_field (n := 2) (Nat.lt_of_le_of_lt h ?_)
  decide

/-- A block is read whole, and what follows it is left to be read. -/
theorem readBlocks?_block {bytes : List UInt8} (h : bytes.length ≤ blockSize) (isLast : Bool)
    (rest : List UInt8) : readBlocks? (block isLast bytes ++ rest) =
      if isLast then some (bytes, rest)
      else (readBlocks? rest).map fun r => (bytes ++ r.1, r.2) := by
  have hlength := number_pair h
  have hcheck := number_pair (Nat.sub_le blockSize bytes.length)
  have hmark : (if isLast then (1 : UInt8) else 0).toNat = if isLast then 1 else 0 := by
    cases isLast <;> rfl
  have hfits : bytes.length ≤ (bytes ++ rest).length := by simp
  have htake : (bytes ++ rest).take bytes.length = bytes := List.take_left
  have hdrop : (bytes ++ rest).drop bytes.length = rest := List.drop_left
  simp only [block, field, List.cons_append, List.nil_append]
  rw [readBlocks?]
  simp only [hlength, hcheck, hmark, hfits, htake, hdrop, and_true]
  cases isLast <;> rfl

theorem readBlocks?_blocks (bytes rest : List UInt8) :
    readBlocks? (blocks bytes ++ rest) = some (bytes, rest) := by
  fun_induction blocks bytes with
  | case1 bytes h => exact readBlocks?_block h true rest
  | case2 bytes h ih =>
    have hfirst : (bytes.take blockSize).length ≤ blockSize := List.length_take_le ..
    rw [List.append_assoc, readBlocks?_block hfirst, ih]
    simp

theorem expand?_compress (bytes : List UInt8) : expand? (compress bytes) = some bytes := by
  have hheader : (compress bytes).take 10 = header := rfl
  have hrest : (compress bytes).drop 10 =
      blocks bytes ++ (field 4 (checksum bytes).toNat ++ field 4 bytes.length) := by
    simp [compress, header]
  have hguard {p : Prop} [Decidable p] (h : p) : (guard p : Option Unit) = some () := if_pos h
  rw [expand?, hguard hheader, hrest, readBlocks?_blocks]
  show Option.bind (guard _) (fun _ => some bytes) = some bytes
  rw [hguard rfl]
  rfl

end ClusterInventory.Bytes.Gzip
