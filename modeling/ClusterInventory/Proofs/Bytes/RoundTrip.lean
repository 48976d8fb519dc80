import ClusterInventory.Bytes.Base64
import ClusterInventory.Bytes.Number
import ClusterInventory.Text.Utf8
import Mathlib.Data.List.Induction
import Mathlib.Tactic.Ring

/-!
# Bytes read back

Numbers come back from their bytes (`natOfBytes_bytesOfNat`, `bytesOfNat_natOfBytes`), bytes from
base 64 (`Base64.decode?_encode`), and texts from their bytes, whether these have to be UTF-8
throughout (`Utf8.decode?_bytes`) or something stands for what is not (`Utf8.decodeWith_bytes`).
-/

namespace ClusterInventory

namespace Bytes

/-! ## Numbers -/

@[simp] theorem length_bytesOfNat (width n : Nat) : (bytesOfNat width n).length = width := by
  induction width generalizing n with
  | zero => rfl
  | succ width ih => simp [bytesOfNat, ih]

@[simp] theorem natOfBytes_concat (bytes : List UInt8) (b : UInt8) :
    natOfBytes (bytes ++ [b]) = natOfBytes bytes * 256 + b.toNat := by
  simp [natOfBytes]

theorem natOfBytes_bytesOfNat {width n : Nat} (h : n < Nat.pow 256 width) :
    natOfBytes (bytesOfNat width n) = n := by
  induction width generalizing n with
  | zero =>
    have : n = 0 := by simpa using h
    rw [this]
    rfl
  | succ width ih =>
    have hquotient : n / 256 < Nat.pow 256 width := by
      rw [Nat.div_lt_iff_lt_mul (by omega)]
      exact h
    rw [bytesOfNat, natOfBytes_concat, ih hquotient, UInt8.toNat_ofNat']
    omega

theorem bytesOfNat_natOfBytes (bytes : List UInt8) :
    bytesOfNat bytes.length (natOfBytes bytes) = bytes := by
  induction bytes using List.reverseRecOn with
  | nil => rfl
  | append_singleton bytes b ih =>
    have hb := b.toNat_lt
    have hquotient : (natOfBytes bytes * 256 + b.toNat) / 256 = natOfBytes bytes := by omega
    have hlast : UInt8.ofNat (natOfBytes bytes * 256 + b.toNat) = b := by
      rw [← UInt8.toNat_inj, UInt8.toNat_ofNat']
      omega
    rw [List.length_append, List.length_singleton, bytesOfNat, natOfBytes_concat, hquotient, ih,
      hlast]

theorem natOfBytes_lt (bytes : List UInt8) : natOfBytes bytes < Nat.pow 256 bytes.length := by
  induction bytes using List.reverseRecOn with
  | nil => simp [natOfBytes]
  | append_singleton bytes b ih =>
    have hb := b.toNat_lt
    rw [natOfBytes_concat, List.length_append, List.length_singleton]
    simp only [Nat.pow_eq, pow_succ] at ih ⊢
    omega

theorem natOfBytes_cons (b : UInt8) (bytes : List UInt8) :
    natOfBytes (b :: bytes) = b.toNat * Nat.pow 256 bytes.length + natOfBytes bytes := by
  induction bytes using List.reverseRecOn with
  | nil => simp [natOfBytes]
  | append_singleton bytes c ih =>
    rw [← List.cons_append, natOfBytes_concat, natOfBytes_concat, ih, List.length_append,
      List.length_singleton]
    simp only [Nat.pow_eq, pow_succ]
    ring

theorem lt_two_pow_bitCount (n : Nat) : n < Nat.pow 2 (bitCount n) := by
  unfold bitCount
  split
  · next h => simp [h]
  · exact Nat.lt_log2_self

theorem two_pow_bitCount_pred_le {n : Nat} (h : n ≠ 0) : Nat.pow 2 (bitCount n - 1) ≤ n := by
  rw [bitCount, if_neg h, Nat.add_sub_cancel]
  exact Nat.log2_self_le h

theorem bitCount_mono {m n : Nat} (h : m ≤ n) : bitCount m ≤ bitCount n := by
  unfold bitCount
  split
  · exact Nat.zero_le _
  · next hm =>
    rw [if_neg (show n ≠ 0 by omega)]
    exact (Nat.log2_lt hm).2 (Nat.lt_of_le_of_lt h Nat.lt_log2_self)

theorem lt_pow_byteCount (n : Nat) : n < Nat.pow 256 (byteCount n) :=
  calc n < 2 ^ bitCount n := lt_two_pow_bitCount n
    _ ≤ 2 ^ (8 * byteCount n) := Nat.pow_le_pow_right (by omega) (by unfold byteCount; omega)
    _ = 256 ^ byteCount n := Nat.pow_mul 2 8 _

theorem natOfBytes_minimalBytes (n : Nat) : natOfBytes (minimalBytes n) = n :=
  natOfBytes_bytesOfNat (lt_pow_byteCount n)

/-! ## Base 64 -/

namespace Base64

variable {v : Base64}

/-- The numbers below 64 that bytes make up. -/
def sextets : List UInt8 → List Nat
  | [] => []
  | [a] => [a.toNat / 4, a.toNat % 4 * 16]
  | [a, b] =>
    let n := a.toNat * 256 + b.toNat
    [n / 1024, n / 16 % 64, n % 16 * 4]
  | a :: b :: c :: rest =>
    let n := (a.toNat * 256 + b.toNat) * 256 + c.toNat
    n / 262144 :: n / 4096 % 64 :: n / 64 % 64 :: n % 64 :: sextets rest

theorem sextets_lt (bytes : List UInt8) : ∀ n ∈ sextets bytes, n < 64 := by
  fun_induction sextets bytes with
  | case1 => simp
  | case2 a =>
    have := a.toNat_lt
    simp only [List.mem_cons, List.not_mem_nil, or_false]
    omega
  | case3 a b n =>
    have := a.toNat_lt
    have := b.toNat_lt
    simp only [List.mem_cons, List.not_mem_nil, or_false]
    omega
  | case4 a b c rest n ih =>
    have := a.toNat_lt
    have := b.toNat_lt
    have := c.toNat_lt
    simp only [List.mem_cons]
    rintro m (rfl | rfl | rfl | rfl | hm)
    case inr.inr.inr.inr => exact ih m hm
    all_goals omega

theorem join_sextets (bytes : List UInt8) : join (sextets bytes) = some bytes := by
  fun_induction sextets bytes with
  | case1 => rfl
  | case2 a =>
    have := a.toNat_lt
    simp only [join, Option.some.injEq, List.cons.injEq, and_true]
    rw [← UInt8.toNat_inj, UInt8.toNat_ofNat']
    omega
  | case3 a b n =>
    have := a.toNat_lt
    have := b.toNat_lt
    simp only [join, Option.some.injEq, List.cons.injEq, and_true]
    rw [← UInt8.toNat_inj, ← UInt8.toNat_inj, UInt8.toNat_ofNat', UInt8.toNat_ofNat']
    omega
  | case4 a b c rest n ih =>
    have := a.toNat_lt
    have := b.toNat_lt
    have := c.toNat_lt
    simp only [join, ih, Option.map_some, Option.some.injEq, List.cons.injEq, and_true]
    rw [← UInt8.toNat_inj, ← UInt8.toNat_inj, ← UInt8.toNat_inj, UInt8.toNat_ofNat',
      UInt8.toNat_ofNat', UInt8.toNat_ofNat']
    omega

/-- A text in base 64 is digits and what the last group is filled up with. -/
theorem encodeChars_eq (v : Base64) (bytes : List UInt8) : v.encodeChars bytes =
    (sextets bytes).map v.digit ++ v.padding ((4 - (sextets bytes).length % 4) % 4) := by
  fun_induction sextets bytes with
  | case1 => simp [encodeChars, padding]
  | case2 a => rfl
  | case3 a b n => rfl
  | case4 a b c rest n ih => simp [encodeChars, ih, n, Nat.add_assoc]

/-- The digits stand for what they should, and none of them is the mark that fills up. -/
def IsFair (v : Base64) : Prop := ∀ n < 64, v.value? (v.digit n) = some n ∧ v.digit n ≠ '='

theorem isFair_standard : standard.IsFair := by
  unfold IsFair
  decide

theorem isFair_urlSafe : urlSafe.IsFair := by
  unfold IsFair
  decide

theorem mapM_value?_digits (hv : v.IsFair) {ns : List Nat} (h : ∀ n ∈ ns, n < 64) :
    (ns.map v.digit).mapM v.value? = some ns := by
  induction ns with
  | nil => rfl
  | cons n ns ih =>
    have hn : v.value? (v.digit n) = some n := (hv n (h n (by simp))).1
    simp [List.mapM_cons, hn, ih fun m hm => h m (by simp [hm])]

theorem takeWhile_encodeChars (hv : v.IsFair) (bytes : List UInt8) :
    (v.encodeChars bytes).takeWhile (· != '=') = (sextets bytes).map v.digit := by
  have hdigits : ∀ c ∈ (sextets bytes).map v.digit, (c != '=') = true := by
    simp only [List.mem_map, bne_iff_ne]
    rintro c ⟨n, hn, rfl⟩
    exact (hv n (sextets_lt bytes n hn)).2
  have hpadding : ∀ n, (v.padding n).takeWhile (· != '=') = [] := by
    intro n
    unfold padding
    split
    · cases n <;> rfl
    · rfl
  rw [encodeChars_eq, List.takeWhile_append_of_pos hdigits, hpadding, List.append_nil]

theorem decode?_encode (hv : v.IsFair) (bytes : List UInt8) :
    v.decode? (v.encode bytes) = some bytes := by
  have hrest : (v.encodeChars bytes).drop (sextets bytes).length =
      v.padding ((4 - (sextets bytes).length % 4) % 4) := by
    rw [encodeChars_eq, List.drop_left' (List.length_map ..)]
  have hvalues := mapM_value?_digits hv (sextets_lt bytes)
  simp [decode?, encode, takeWhile_encodeChars hv, hrest, decodeChars?, hvalues, join_sextets]

end Base64

end Bytes

/-! ## Texts -/

namespace Text.Utf8

theorem toList_loop (bs : ByteArray) (i : Nat) (done : List UInt8) :
    ByteArray.toList.loop bs i done = done.reverse ++ bs.data.toList.drop i := by
  fun_induction ByteArray.toList.loop bs i done with
  | case1 i done h ih =>
    have hi : i < bs.data.toList.length := h
    have hget : bs.get! i = bs.data.toList[i] := by
      rw [Array.getElem_toList]
      exact getElem!_pos bs.data i h
    rw [ih, List.drop_eq_getElem_cons hi, hget]
    simp
  | case2 i done h =>
    have hi : bs.data.toList.length ≤ i := Nat.le_of_not_lt h
    simp [List.drop_eq_nil_of_le hi]

theorem toList_eq (bs : ByteArray) : bs.toList = bs.data.toList := by
  simp [ByteArray.toList, toList_loop]

theorem decode?_bytes (s : String) : decode? (bytes s) = some s := by
  have hbytes : (⟨(bytes s).toArray⟩ : ByteArray) = s.toUTF8 := by
    rw [bytes, toList_eq]
  rw [decode?, hbytes]
  exact dif_pos s.isValidUTF8

theorem decode?_eq_some_iff {bs : List UInt8} {s : String} :
    decode? bs = some s ↔ bs = bytes s := by
  constructor
  · intro h
    simp only [decode?, String.fromUTF8?] at h
    split at h
    · cases h
      rw [bytes, toList_eq]
      rfl
    · cases h
  · rintro rfl
    exact decode?_bytes s

/-- What comes first is read as one character. -/
theorem decodeWith_cons {stray : List Char} {b : UInt8} {l : Lead} {n : Nat}
    {rest after : List UInt8} (hlead : lead? b = some l)
    (h : readFollowing l.bits l.least l.most l.following rest = (some n, after)) :
    decodeWith stray (b :: rest) = Char.ofNat n :: decodeWith stray after := by
  rw [decodeWith, hlead]
  dsimp only
  split
  · next heq =>
    cases h.symm.trans heq
    rfl
  · next heq => cases h.symm.trans heq

/-- A byte within bounds goes on with a sequence. -/
theorem readFollowing_cons {bits k m : Nat} {least most : UInt8} {rest : List UInt8}
    (hm : m < 256) (hleast : least.toNat ≤ m) (hmost : m ≤ most.toNat) :
    readFollowing bits least most (k + 1) (UInt8.ofNat m :: rest) =
      readFollowing (bits * 64 + (m - 128)) 0x80 0xBF k rest := by
  rw [readFollowing, UInt8.toNat_ofNat_of_lt' hm, if_pos]
  simp only [Bool.and_eq_true, decide_eq_true_eq, UInt8.le_iff_toNat_le,
    UInt8.toNat_ofNat_of_lt' hm]
  exact ⟨hleast, hmost⟩

theorem lead?_ofNat {m : Nat} (h : m < 256) : lead? (UInt8.ofNat m) =
    if m < 0x80 then some { bits := m, following := 0 }
    else if m < 0xC2 then none
    else if m < 0xE0 then some { bits := m - 0xC0, following := 1 }
    else if m < 0xF0 then
      some { bits := m - 0xE0, following := 2, least := if m = 0xE0 then 0xA0 else 0x80
             most := if m = 0xED then 0x9F else 0xBF }
    else if m < 0xF5 then
      some { bits := m - 0xF0, following := 3, least := if m = 0xF0 then 0x90 else 0x80
             most := if m = 0xF4 then 0x8F else 0xBF }
    else none := by
  simp only [lead?, UInt8.lt_iff_toNat_lt, ← UInt8.toNat_inj, UInt8.toNat_ofNat_of_lt' h]
  rfl

section Widths

variable {stray : List Char} {v : Nat} {rest : List UInt8}

theorem decodeWith_two (h : 0x80 ≤ v) (hv : v < 0x800) :
    decodeWith stray (UInt8.ofNat (v / 64 % 32 + 192) :: UInt8.ofNat (v % 64 + 128) :: rest) =
      Char.ofNat v :: decodeWith stray rest := by
  have hbits : v / 64 % 32 + 192 - 0xC0 = v / 64 := by omega
  have hlast : v / 64 * 64 + (v % 64 + 128 - 128) = v := by omega
  have hlead := lead?_ofNat (show v / 64 % 32 + 192 < 256 by omega)
  rw [if_neg (by omega), if_neg (by omega), if_pos (by omega), hbits] at hlead
  refine decodeWith_cons hlead ?_
  rw [readFollowing_cons (by omega) (by simp) (by simp; omega), hlast, readFollowing]

theorem decodeWith_three (h : 0x800 ≤ v) (hv : v < 0x10000) (hpair : v < 0xD800 ∨ 0xDFFF < v) :
    decodeWith stray (UInt8.ofNat (v / 4096 % 16 + 224) :: UInt8.ofNat (v / 64 % 64 + 128) ::
      UInt8.ofNat (v % 64 + 128) :: rest) = Char.ofNat v :: decodeWith stray rest := by
  have hbits : v / 4096 % 16 + 224 - 0xE0 = v / 4096 := by omega
  have hmiddle : v / 4096 * 64 + (v / 64 % 64 + 128 - 128) = v / 64 := by omega
  have hlast : v / 64 * 64 + (v % 64 + 128 - 128) = v := by omega
  have hlead := lead?_ofNat (show v / 4096 % 16 + 224 < 256 by omega)
  rw [if_neg (by omega), if_neg (by omega), if_neg (by omega), if_pos (by omega), hbits] at hlead
  refine decodeWith_cons hlead ?_
  dsimp only
  rw [readFollowing_cons (by omega) (by split <;> simp; omega) (by split <;> (simp; omega)),
    hmiddle, readFollowing_cons (by omega) (by simp) (by simp; omega), hlast, readFollowing]

theorem decodeWith_four (h : 0x10000 ≤ v) (hv : v < 0x110000) :
    decodeWith stray (UInt8.ofNat (v / 262144 % 8 + 240) :: UInt8.ofNat (v / 4096 % 64 + 128) ::
      UInt8.ofNat (v / 64 % 64 + 128) :: UInt8.ofNat (v % 64 + 128) :: rest) =
      Char.ofNat v :: decodeWith stray rest := by
  have hbits : v / 262144 % 8 + 240 - 0xF0 = v / 262144 := by omega
  have hsecond : v / 262144 * 64 + (v / 4096 % 64 + 128 - 128) = v / 4096 := by omega
  have hthird : v / 4096 * 64 + (v / 64 % 64 + 128 - 128) = v / 64 := by omega
  have hlast : v / 64 * 64 + (v % 64 + 128 - 128) = v := by omega
  have hlead := lead?_ofNat (show v / 262144 % 8 + 240 < 256 by omega)
  rw [if_neg (by omega), if_neg (by omega), if_neg (by omega), if_neg (by omega),
    if_pos (by omega), hbits] at hlead
  refine decodeWith_cons hlead ?_
  dsimp only
  rw [readFollowing_cons (by omega) (by split <;> simp; omega) (by split <;> (simp; omega)),
    hsecond, readFollowing_cons (by omega) (by simp) (by simp; omega), hthird,
    readFollowing_cons (by omega) (by simp) (by simp; omega), hlast, readFollowing]

end Widths

/-- A character is read back from its bytes. -/
theorem decodeWith_utf8EncodeChar (stray : List Char) (c : Char) (rest : List UInt8) :
    decodeWith stray (String.utf8EncodeChar c ++ rest) = c :: decodeWith stray rest := by
  have hvalid : c.toNat < 0xD800 ∨ 0xDFFF < c.toNat ∧ c.toNat < 0x110000 := c.valid
  suffices h : decodeWith stray (String.utf8EncodeChar c ++ rest) =
      Char.ofNat c.toNat :: decodeWith stray rest by
    rwa [Char.ofNat_toNat] at h
  unfold String.utf8EncodeChar
  rw [show c.val.toNat = c.toNat from rfl]
  dsimp only
  split
  · exact decodeWith_cons ((lead?_ofNat (by omega)).trans (if_pos (by omega))) rfl
  · split
    · exact decodeWith_two (by omega) (by omega)
    · split
      · exact decodeWith_three (by omega) (by omega) (by omega)
      · exact decodeWith_four (by omega) (by omega)

/-- A text is read back from its bytes, and nothing in them is astray. -/
theorem decodeWith_bytes (stray : List Char) (s : String) :
    decodeWith stray (bytes s) = s.toList := by
  have hchars : ∀ cs : List Char,
      decodeWith stray (cs.flatMap String.utf8EncodeChar) = cs := by
    intro cs
    induction cs with
    | nil => rw [List.flatMap_nil, decodeWith]
    | cons c cs ih => rw [List.flatMap_cons, decodeWith_utf8EncodeChar, ih]
  have hbytes : bytes s = s.toList.flatMap String.utf8EncodeChar := by
    have hlist : s = String.ofList s.toList := (String.ofList_toList).symm
    rw [bytes, toList_eq]
    conv_lhs => rw [hlist]
    change (String.ofList s.toList).toByteArray.data.toList = _
    rw [String.toByteArray_ofList, List.utf8Encode, List.toList_data_toByteArray]
  rw [hbytes, hchars]

end Text.Utf8

end ClusterInventory
