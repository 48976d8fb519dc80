import ClusterInventory.Proofs.Bytes.RoundTrip
import ClusterInventory.Signing.Rsa
import Mathlib.Data.Nat.Squarefree
import Mathlib.FieldTheory.Finite.Basic

/-!
# What a sound key seals, it opens

A key is sound if its modulus has no square and its exponents undo each other modulo each prime
factor less one. A number that a sound key seals comes back when it is opened
(`RsaKey.opened_of_sealed?`), whichever way the owner has taken.
-/

namespace ClusterInventory

theorem powMod_eq (base exponent modulus : Nat) :
    powMod base exponent modulus = base ^ exponent % modulus := by
  fun_induction powMod base exponent modulus with
  | case1 base => rw [pow_zero]
  | case2 base exponent hne half hodd ih =>
    have hexponent : exponent = 2 * (exponent / 2) + 1 := by omega
    calc half * base % modulus
      _ = (base * base % modulus) ^ (exponent / 2) % modulus * base % modulus := by rw [← ih]
      _ = (base * base) ^ (exponent / 2) * base % modulus := by
        rw [← Nat.pow_mod, Nat.mod_mul_mod]
      _ = base ^ exponent % modulus := by
        conv_rhs => rw [hexponent, pow_succ, pow_mul, pow_two]
  | case3 base exponent hne half hodd ih =>
    have hexponent : exponent = 2 * (exponent / 2) := by omega
    calc half
      _ = (base * base % modulus) ^ (exponent / 2) % modulus := ih
      _ = (base * base) ^ (exponent / 2) % modulus := by rw [← Nat.pow_mod]
      _ = base ^ exponent % modulus := by
        conv_rhs => rw [hexponent, pow_mul, pow_two]

theorem powMod_lt {base exponent modulus : Nat} (h : 0 < modulus) :
    powMod base exponent modulus < modulus := by
  rw [powMod_eq]
  exact Nat.mod_lt _ h

namespace Signing

/-- Fermat's theorem, for exponents that are one modulo an odd prime less one. -/
theorem pow_modEq_of_prime {p a : Nat} (hp : p.Prime) (hodd : p ≠ 2) (h : a ≡ 1 [MOD p - 1])
    (n : Nat) : n ^ a ≡ n [MOD p] := by
  have htwo := hp.two_le
  have ha : a ≠ 0 := by
    rintro rfl
    have hdvd : p - 1 ∣ 1 := (Nat.modEq_zero_iff_dvd).1 h.symm
    have := Nat.le_of_dvd one_pos hdvd
    omega
  by_cases hn : p ∣ n
  · exact ((Nat.modEq_zero_iff_dvd).2 (dvd_pow hn ha)).trans ((Nat.modEq_zero_iff_dvd).2 hn).symm
  · obtain ⟨c, hc⟩ := (Nat.modEq_iff_dvd' (Nat.one_le_iff_ne_zero.2 ha)).1 h.symm
    have hexponent : a = (p - 1) * c + 1 := by omega
    have hfermat : n ^ (p - 1) ≡ 1 [MOD p] := by
      rw [← Nat.totient_prime hp]
      exact Nat.ModEq.pow_totient ((Nat.coprime_comm.1 ((Nat.Prime.coprime_iff_not_dvd hp).2 hn)))
    calc n ^ a = (n ^ (p - 1)) ^ c * n := by rw [hexponent, pow_succ, pow_mul]
      _ ≡ 1 ^ c * n [MOD p] := (hfermat.pow c).mul_right n
      _ = n := by rw [one_pow, one_mul]

theorem pow_modEq_of_squarefree {m a : Nat} (hm : Squarefree m) (hodd : m % 2 = 1)
    (h : ∀ p ∈ m.primeFactors, a ≡ 1 [MOD p - 1]) (n : Nat) : n ^ a ≡ n [MOD m] := by
  have hdvd : ∀ p ∈ m.primeFactors, (p : Int) ∣ n - (n ^ a : Nat) := by
    intro p hp
    have hne : p ≠ 2 := by
      rintro rfl
      have := Nat.dvd_of_mem_primeFactors hp
      omega
    exact Nat.modEq_iff_dvd.1
      (pow_modEq_of_prime (Nat.prime_of_mem_primeFactors hp) hne (h p hp) n)
  have hcoprime : (m.primeFactors : Set Nat).Pairwise
      (Function.onFun IsCoprime fun p => (p : Int)) := fun p hp q hq hne =>
    Nat.isCoprime_iff_coprime.2 <| (Nat.coprime_primes (Nat.prime_of_mem_primeFactors hp)
      (Nat.prime_of_mem_primeFactors hq)).2 hne
  have hprod : (m : Int) = ∏ p ∈ m.primeFactors, (p : Int) := by
    rw [← Nat.cast_prod, Nat.prod_primeFactors_of_squarefree hm]
  rw [Nat.modEq_iff_dvd, hprod]
  exact Finset.prod_dvd_of_coprime hcoprime hdvd

namespace RsaKey

/-- The modulus has no square in it, and the exponents are inverse modulo each of its prime factors
less one. Of the rest of a key nothing is asked. -/
structure IsSound (k : RsaKey) : Prop where
  squarefree : Squarefree k.modulus
  exponents : ∀ p ∈ k.modulus.primeFactors, k.exponent * k.secret ≡ 1 [MOD p - 1]

variable {k : RsaKey} {n r : Nat}

/-- A key with two primes is sound if its exponents are. -/
theorem isSound_of_primes {p q : Nat} (hp : p.Prime) (hq : q.Prime) (hne : p ≠ q)
    (hmodulus : k.modulus = p * q) (hpExponents : k.exponent * k.secret ≡ 1 [MOD p - 1])
    (hqExponents : k.exponent * k.secret ≡ 1 [MOD q - 1]) : k.IsSound := by
  constructor
  · rw [hmodulus, Nat.squarefree_mul ((Nat.coprime_primes hp hq).2 hne)]
    exact ⟨hp.squarefree, hq.squarefree⟩
  · rw [hmodulus, Nat.primeFactors_mul hp.ne_zero hq.ne_zero, hp.primeFactors, hq.primeFactors]
    intro r hr
    obtain h | h : r = p ∨ r = q := by simpa using hr
    · rwa [h]
    · rwa [h]

theorem IsSound.opened_powMod (hk : k.IsSound) (hodd : k.modulus % 2 = 1) (hn : n < k.modulus) :
    k.opened (powMod n k.secret k.modulus) = n := by
  rw [RsaPublicKey.opened, powMod_eq, powMod_eq, ← Nat.pow_mod, ← pow_mul, Nat.mul_comm]
  exact Nat.mod_eq_of_modEq (pow_modEq_of_squarefree hk.squarefree hodd hk.exponents n) hn

theorem opened_mod (k : RsaPublicKey) (n : Nat) : k.opened (n % k.modulus) = k.opened n := by
  rw [RsaPublicKey.opened, RsaPublicKey.opened, powMod_eq, powMod_eq, ← Nat.pow_mod]

/-- What goes through the factors has been checked, so that only the exponents have to fit. -/
theorem IsSound.opened_of_sealed? (hk : k.IsSound) (hn : n < k.modulus)
    (h : k.sealed? n = some r) : r < k.modulus ∧ k.opened r = n := by
  simp only [sealed?, Option.bind_eq_bind, Option.bind_eq_some_iff, Option.guard_eq_some'] at h
  obtain ⟨_, hguard, s, -, h⟩ := h
  have hodd : k.modulus % 2 = 1 := by
    simp only [isWorkable, Bool.and_eq_true, beq_iff_eq] at hguard
    exact hguard.2.1.1.1.1
  have hpos : 0 < k.modulus := by omega
  split at h
  · next hchecked =>
    split at h
    · cases h
    · cases h
      exact ⟨Nat.mod_lt s hpos, by rw [opened_mod, hchecked, Nat.mod_eq_of_lt hn]⟩
  · cases h
    exact ⟨powMod_lt hpos, hk.opened_powMod hodd hn⟩

/-! ## What can be sealed -/

/-- The modulus is made up of the two primes, and no part is too large for it. -/
structure IsRegular (k : RsaKey) : Prop where
  isBalanced : k.isBalanced = true
  isWorkable : k.isWorkable = true
  isManifold_eq : k.isManifold = false
  modulus_eq : k.firstPrime * k.secondPrime = k.modulus
  wordCount_coefficient_le : wordCount k.coefficient ≤ wordCount k.firstPrime

instance (k : RsaKey) : Decidable k.IsRegular :=
  decidable_of_iff (k.isBalanced = true ∧ k.isWorkable = true ∧ k.isManifold = false ∧
      k.firstPrime * k.secondPrime = k.modulus ∧
      wordCount k.coefficient ≤ wordCount k.firstPrime)
    ⟨fun ⟨hb, hw, hm, hn, hc⟩ => ⟨hb, hw, hm, hn, hc⟩,
      fun ⟨hb, hw, hm, hn, hc⟩ => ⟨hb, hw, hm, hn, hc⟩⟩

theorem wordCount_mono {m n : Nat} (h : m ≤ n) : wordCount m ≤ wordCount n :=
  Nat.div_le_div_right (Nat.add_le_add_right (Bytes.bitCount_mono h) 63)

theorem mul_add_lt {p q a b : Nat} (ha : a < p) (hb : b < q) : a * q + b < p * q :=
  calc a * q + b < a * q + q := Nat.add_lt_add_left hb _
    _ = (a + 1) * q := by ring
    _ ≤ p * q := Nat.mul_le_mul_right q ha

/-- What goes through the factors of a regular key stays below the modulus, whatever the exponents
are. -/
theorem IsRegular.exists_throughFactors? (hk : k.IsRegular) (n : Nat) :
    ∃ r, k.throughFactors? n = some r ∧ r < k.modulus := by
  have hodd := hk.isWorkable
  simp only [RsaKey.isWorkable, Bool.and_eq_true, beq_iff_eq] at hodd
  have hlt : ∀ a base : Nat,
      scaledDifference a (powMod base k.secondExponent k.secondPrime) k.coefficient k.firstPrime *
        k.secondPrime + powMod base k.secondExponent k.secondPrime < k.modulus := by
    intro a base
    rw [← hk.modulus_eq]
    exact mul_add_lt (Nat.mod_lt _ (by omega)) (powMod_lt (by omega))
  simp only [throughFactors?]
  split
  · rw [if_neg (Nat.not_lt.2 hk.wordCount_coefficient_le)]
    have hkept := Nat.lt_of_le_of_lt (Nat.mod_le _ (Nat.pow 2 (64 * wordCount k.modulus)))
      (hlt (powMod (n % Nat.pow 2 (128 * wordCount k.firstPrime)) k.firstExponent k.firstPrime)
        (n % Nat.pow 2 (128 * wordCount k.firstPrime)))
    exact ⟨_, rfl, by rwa [if_neg (Nat.not_le.2 hkept)]⟩
  · refine ⟨_, rfl, ?_⟩
    rw [furtherFactors, hk.isManifold_eq]
    exact hlt _ _

theorem IsRegular.exists_sealed? (hk : k.IsRegular) (n : Nat) : ∃ r, k.sealed? n = some r := by
  obtain ⟨r, hr, hlt⟩ := hk.exists_throughFactors? n
  have hwords : ¬ wordCount r > wordCount k.modulus := Nat.not_lt.2 (wordCount_mono hlt.le)
  simp only [sealed?, hk.isBalanced, hk.isWorkable, hr, hwords, Bool.and_self, guard_true,
    Option.pure_def, Option.bind_eq_bind, Option.bind_some, if_false]
  split
  · exact ⟨_, rfl⟩
  · exact ⟨_, rfl⟩

end RsaKey

end Signing

end ClusterInventory
