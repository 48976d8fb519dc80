import ClusterInventory.Proofs.Bytes.RoundTrip
import ClusterInventory.Proofs.Signing.Rsa
import ClusterInventory.Signing.Pss

/-!
# What a sound key signs, verifies

An encoding with a salt of the usual size is recognized as one (`Pss.isEncoding_of_encode?`): the
salt lies behind the first byte, so that clearing bits of that byte does not touch it. Together with
the RSA permutation of a sound key this gives `Pss.verify_of_sign?`.
-/

namespace ClusterInventory

open Bytes (natOfBytes bytesOfNat bitCount Sha512.hash Sha512.size)

namespace Bytes.Sha512

@[simp] theorem length_field (n value : Nat) : (field n value).length = n := by
  induction n generalizing value with
  | zero => rfl
  | succ n ih => simp [field, ih]

@[simp] theorem length_hash (message : List UInt8) : (hash message).length = size := by
  simp [hash, State.bytes, size]

end Bytes.Sha512

namespace Signing.Pss

/-! ## Masks -/

@[simp] theorem length_maskBlocks (seed : List UInt8) (n i : Nat) :
    (maskBlocks seed n i).length = n * Sha512.size := by
  induction n generalizing i with
  | zero => simp [maskBlocks]
  | succ n ih =>
    rw [maskBlocks, List.length_append, Bytes.Sha512.length_hash, ih]
    ring

@[simp] theorem length_mask (seed : List UInt8) (length : Nat) :
    (mask seed length).length = length := by
  rw [mask, List.length_take, length_maskBlocks, Sha512.size]
  omega

theorem masked_masked {bytes mask : List UInt8} (h : bytes.length = mask.length) :
    masked (masked bytes mask) mask = bytes := by
  induction bytes generalizing mask with
  | nil => rfl
  | cons b bytes ih =>
    cases mask with
    | nil => cases h
    | cons m mask =>
      have htail : masked (masked bytes mask) mask = bytes := ih (Nat.succ.inj h)
      simp only [masked, List.zipWith_cons_cons] at htail ⊢
      rw [htail, UInt8.xor_assoc, UInt8.xor_self, UInt8.xor_zero]

theorem drop_masked (n : Nat) (bytes mask : List UInt8) :
    (masked bytes mask).drop n = masked (bytes.drop n) (mask.drop n) :=
  List.drop_zipWith

theorem length_masked {bytes mask : List UInt8} (h : bytes.length = mask.length) :
    (masked bytes mask).length = mask.length := by
  rw [masked, List.length_zipWith, h, Nat.min_self]

/-! ## Cleared bits -/

@[simp] theorem length_clearBits (n : Nat) (bytes : List UInt8) :
    (clearBits n bytes).length = bytes.length := by
  cases bytes <;> rfl

/-- Only the first byte loses anything. -/
theorem drop_clearBits {n d : Nat} (hd : 0 < d) (bytes : List UInt8) :
    (clearBits n bytes).drop d = bytes.drop d := by
  obtain ⟨d, rfl⟩ := Nat.exists_eq_add_one.2 hd
  cases bytes <;> rfl

theorem natOfBytes_clearBits_append_lt {n : Nat} (hn : n < 8) {bytes : List UInt8}
    (h : bytes ≠ []) (rest : List UInt8) : natOfBytes (clearBits n bytes ++ rest) <
      Nat.pow 2 (8 * (bytes.length + rest.length) - n) := by
  obtain ⟨b, bytes, rfl⟩ := List.exists_cons_of_ne_nil h
  have hfirst : (UInt8.ofNat (b.toNat % Nat.pow 2 (8 - n))).toNat + 1 ≤ 2 ^ (8 - n) := by
    rw [UInt8.toNat_ofNat']
    exact Nat.lt_of_le_of_lt (Nat.mod_le _ _) (Nat.mod_lt _ (Nat.two_pow_pos _))
  have hrest := Bytes.natOfBytes_lt (bytes ++ rest)
  rw [clearBits, List.cons_append, Bytes.natOfBytes_cons]
  simp only [Nat.pow_eq] at hrest ⊢
  calc _ < (UInt8.ofNat (b.toNat % Nat.pow 2 (8 - n))).toNat * 256 ^ (bytes ++ rest).length +
        256 ^ (bytes ++ rest).length := Nat.add_lt_add_left hrest _
    _ = ((UInt8.ofNat (b.toNat % Nat.pow 2 (8 - n))).toNat + 1) * 256 ^ (bytes ++ rest).length := by
      ring
    _ ≤ 2 ^ (8 - n) * 256 ^ (bytes ++ rest).length := Nat.mul_le_mul_right _ hfirst
    _ = 2 ^ (8 * ((b :: bytes).length + rest.length) - n) := by
      rw [show (256 : Nat) = 2 ^ 8 by rfl, ← pow_mul, ← pow_add, List.length_append,
        List.length_cons]
      congr 1
      omega

/-! ## Encodings -/

/-- The number of bytes in front of the hash of an encoding. -/
def room (bits : Nat) : Nat := bytesFor bits - Sha512.size - 1

/-- What is masked in an encoding. -/
def data (bits : Nat) (salt : List UInt8) : List UInt8 :=
  List.replicate (room bits - saltSize - 1) 0 ++ 1 :: salt

/-- The masked part of an encoding, with the bits cleared that there is no room for. -/
def front (bits : Nat) (message salt : List UInt8) : List UInt8 :=
  clearBits (8 * bytesFor bits - bits)
    (masked (data bits salt) (mask (binding message salt) (room bits)))

section Encoding

variable {bits : Nat} {message salt encoded : List UInt8}

theorem encode?_eq_some (h : encode? bits message salt = some encoded) :
    bytesFor bits = room bits + (Sha512.size + 1) ∧ saltSize < room bits ∧
      encoded = front bits message salt ++ binding message salt ++ [0xBC] := by
  rw [encode?] at h
  simp only [Option.ite_none_left_eq_some, Option.some.injEq] at h
  obtain ⟨hlength, hencoded⟩ := h
  refine ⟨?_, ?_, hencoded.symm⟩ <;> simp only [room, saltSize, Sha512.size] at * <;> omega

@[simp] theorem length_binding (message salt : List UInt8) :
    (binding message salt).length = Sha512.size :=
  Bytes.Sha512.length_hash _

theorem length_data (hroom : saltSize < room bits) (hsalt : salt.length = saltSize) :
    (data bits salt).length = room bits := by
  simp only [data, List.length_append, List.length_replicate, List.length_cons, hsalt]
  omega

theorem length_front (hroom : saltSize < room bits) (hsalt : salt.length = saltSize) :
    (front bits message salt).length = room bits := by
  rw [front, length_clearBits, length_masked (by rw [length_mask, length_data hroom hsalt]),
    length_mask]

/-- The salt comes back from the masked part. -/
theorem drop_front (message : List UInt8) (hroom : saltSize < room bits)
    (hsalt : salt.length = saltSize) :
    (clearBits (8 * bytesFor bits - bits) (masked (front bits message salt)
      (mask (binding message salt) (room bits)))).drop (room bits - saltSize) = salt := by
  have hd : 0 < room bits - saltSize := by omega
  have hlength : (data bits salt).length = (mask (binding message salt) (room bits)).length := by
    rw [length_mask, length_data hroom hsalt]
  rw [drop_clearBits hd, drop_masked, front, drop_clearBits hd, ← drop_masked,
    masked_masked hlength, data, List.append_cons]
  refine List.drop_left' ?_
  rw [List.length_append, List.length_replicate, List.length_singleton]
  omega

theorem length_of_encode? (hsalt : salt.length = saltSize)
    (h : encode? bits message salt = some encoded) : encoded.length = bytesFor bits := by
  obtain ⟨hbytes, hroom, hencoded⟩ := encode?_eq_some h
  rw [hencoded, List.length_append, List.length_append, length_front hroom hsalt, length_binding,
    List.length_singleton, hbytes, Nat.add_assoc]

theorem isEncoding_of_encode? (hsalt : salt.length = saltSize)
    (h : encode? bits message salt = some encoded) : isEncoding bits message encoded = true := by
  obtain ⟨hbytes, hroom, hencoded⟩ := encode?_eq_some h
  have hfront : (front bits message salt).length = room bits := length_front hroom hsalt
  have htake : encoded.take (room bits) = front bits message salt := by
    rw [hencoded, List.append_assoc, List.take_left' hfront]
  have hhash : (encoded.drop (room bits)).take Sha512.size = binding message salt := by
    rw [hencoded, List.append_assoc, List.drop_left' hfront, List.take_left' (length_binding ..)]
  have hdrop := drop_front message hroom hsalt
  have hlength := length_of_encode? hsalt h
  change (encoded.length == bytesFor bits && encode? bits message ((clearBits _
    (masked (encoded.take (room bits)) (mask ((encoded.drop (room bits)).take Sha512.size)
      (room bits)))).drop (room bits - saltSize)) == some encoded) = true
  rw [htake, hhash, hdrop, h, hlength, beq_self_eq_true, beq_self_eq_true, Bool.and_self]

theorem natOfBytes_of_encode?_lt (hsalt : salt.length = saltSize)
    (h : encode? bits message salt = some encoded) : natOfBytes encoded < Nat.pow 2 bits := by
  obtain ⟨hbytes, hroom, hencoded⟩ := encode?_eq_some h
  have hlength : (masked (data bits salt) (mask (binding message salt) (room bits))).length =
      room bits := by
    rw [length_masked (by rw [length_mask, length_data hroom hsalt]), length_mask]
  have hne : masked (data bits salt) (mask (binding message salt) (room bits)) ≠ [] := by
    rw [← List.length_pos_iff, hlength]
    omega
  have hcleared : 8 * bytesFor bits - bits < 8 := by
    unfold bytesFor
    omega
  have hlt := natOfBytes_clearBits_append_lt hcleared hne (binding message salt ++ [0xBC])
  rw [hlength, List.length_append, length_binding, List.length_singleton, ← hbytes,
    ← List.append_assoc] at hlt
  have hbits : 8 * bytesFor bits - (8 * bytesFor bits - bits) = bits := by
    unfold bytesFor
    omega
  rwa [hbits, ← front, ← hencoded] at hlt

end Encoding

/-! ## Signatures -/

/-- The fewest bits of a modulus that leave room for an encoding. -/
def leastBits : Nat := 8 * (Sha512.size + saltSize + 1) + 2

/-- A regular key signs everything, if only its modulus is large enough. -/
theorem exists_sign? {k : RsaKey} (hk : k.IsRegular) (hterms : meets k.terms = true)
    (hbits : leastBits ≤ k.bits) (salt message : List UInt8) :
    ∃ signature, sign? k salt message = some signature := by
  have hlength : ¬ bytesFor (k.bits - 1) < Sha512.size + saltSize + 2 := by
    unfold bytesFor leastBits at *
    omega
  obtain ⟨encoded, hencoded⟩ : ∃ encoded, encode? (k.bits - 1) message salt = some encoded :=
    ⟨_, if_neg hlength⟩
  obtain ⟨r, hr⟩ := hk.exists_sealed? (natOfBytes encoded)
  exact ⟨bytesOfNat k.size r, by simp [sign?, hterms, hencoded, hr]⟩

theorem length_of_sign? {k : RsaKey} {salt message signature : List UInt8}
    (h : sign? k salt message = some signature) : signature.length = k.size := by
  simp only [sign?, Option.bind_eq_bind, Option.bind_eq_some_iff, Option.pure_def,
    Option.some.injEq] at h
  obtain ⟨_, -, _, -, r, -, rfl⟩ := h
  exact Bytes.length_bytesOfNat _ _

theorem length_of_verify {k : RsaPublicKey} {message signature : List UInt8}
    (h : verify k message signature = true) : signature.length = k.size := by
  simp only [verify, Bool.and_eq_true, beq_iff_eq] at h
  exact h.1.1.2

theorem verify_of_sign? {k : RsaKey} {salt message signature : List UInt8} (hk : k.IsSound)
    (hhandy : k.isHandy = true) (hsalt : salt.length = saltSize)
    (h : sign? k salt message = some signature) :
    verify k.toRsaPublicKey message signature = true := by
  simp only [sign?, Option.bind_eq_bind, Option.bind_eq_some_iff, Option.pure_def,
    Option.some.injEq] at h
  obtain ⟨_, -, encoded, hencoded, r, hr, rfl⟩ := h
  have hencodedlt : natOfBytes encoded < Nat.pow 2 (k.bits - 1) :=
    natOfBytes_of_encode?_lt hsalt hencoded
  have hmodulus : k.modulus ≠ 0 := by
    intro hzero
    have := hk.squarefree
    simp [hzero] at this
  have hlt : natOfBytes encoded < k.modulus :=
    Nat.lt_of_lt_of_le hencodedlt (Bytes.two_pow_bitCount_pred_le hmodulus)
  obtain ⟨hrlt, hopened⟩ := hk.opened_of_sealed? hlt hr
  have hsignature : natOfBytes (bytesOfNat k.size r) = r :=
    Bytes.natOfBytes_bytesOfNat (Nat.lt_trans hrlt (Bytes.lt_pow_byteCount k.modulus))
  have hback : bytesOfNat (bytesFor (k.bits - 1)) (natOfBytes encoded) = encoded := by
    rw [← length_of_encode? hsalt hencoded, Bytes.bytesOfNat_natOfBytes]
  simp only [verify, hhandy, Bytes.length_bytesOfNat, beq_self_eq_true, hsignature, hrlt, hopened,
    hback, isEncoding_of_encode? hsalt hencoded, decide_true, Bool.and_self]

end Signing.Pss

end ClusterInventory
