import Embedder.Number.Double
import Mathlib.Algebra.Order.Field.Rat
import Mathlib.Algebra.Order.Field.Power
import Mathlib.Data.Nat.Log
import Mathlib.Tactic.Ring
import Mathlib.Tactic.Linarith
import Mathlib.Tactic.NormNum

/-!
# Integers as doubles

What `Double.ofInt?` makes of an integer. Both of its branches give a significand `m` with `2 ^ 52 ≤
m ≤ 2 ^ 53` and an exponent, so the value is read off once (`toRat_ofSignBits`). An integer of 64
bits always has a double (`ofInt64`), at a distance of at most half the space between doubles
(`ofInt64_near`), and an integer up to `2 ^ 53` is one itself (`ofInt64_exact`).
-/

namespace Embedder.Double

/-- The rational value of a finite number. -/
def toRat (d : Double) : ℚ := (if d.isNegative then -1 else 1) * (d.significand * 2 ^ d.exponent)

/-! ## Reading the bits back -/

section Bits

variable {bits : Nat} (negative : Bool) (hbits : bits < 2 ^ 63)

include hbits

theorem toNat_ofSignBits :
    (ofSignBits negative bits).bits.toNat = (if negative then 2 ^ 63 else 0) + bits := by
  unfold ofSignBits
  rw [UInt64.toNat_ofNat']
  refine Nat.mod_eq_of_lt ?_
  split <;> omega

theorem isNegative_ofSignBits : (ofSignBits negative bits).isNegative = negative := by
  unfold isNegative
  rw [toNat_ofSignBits negative hbits, beq_eq_decide]
  cases negative with
  | true => exact decide_eq_true (by simp only [↓reduceIte]; omega)
  | false => exact decide_eq_false (by simp only [Bool.false_eq_true, ↓reduceIte]; omega)

theorem exponentBits_ofSignBits : (ofSignBits negative bits).exponentBits = bits / 2 ^ 52 := by
  unfold exponentBits
  rw [toNat_ofSignBits negative hbits]
  split <;> omega

theorem fractionBits_ofSignBits : (ofSignBits negative bits).fractionBits = bits % 2 ^ 52 := by
  unfold fractionBits
  rw [toNat_ofSignBits negative hbits]
  split <;> omega

end Bits

/-- Bits below those of infinity are those of a finite number. -/
theorem isFinite_ofSignBits {bits : Nat} (negative : Bool) (hbits : bits < 2047 * 2 ^ 52) :
    (ofSignBits negative bits).isFinite = true := by
  have hexp : (ofSignBits negative bits).exponentBits ≠ 2047 := by
    rw [exponentBits_ofSignBits negative (by omega)]
    omega
  exact bne_iff_ne.mpr hexp

theorem isNaN_of_isFinite {d : Double} (hd : d.isFinite) : d.isNaN = false := by
  have hexp : (d.exponentBits == 2047) = false := beq_false_of_ne (bne_iff_ne.mp hd)
  unfold isNaN
  rw [hexp, Bool.false_and]

/-- The value of a number by its significand. A significand of `2 ^ 53` carries into the exponent.
-/
theorem toRat_ofSignBits (negative : Bool) {e m : Nat} (he : 1 ≤ e) (heb : e ≤ 2045)
    (hlow : 2 ^ 52 ≤ m) (hhigh : m ≤ 2 ^ 53) :
    (ofSignBits negative (e * 2 ^ 52 + (m - 2 ^ 52))).toRat =
      (if negative then -1 else 1) * (m * 2 ^ ((e : ℤ) - 1075)) := by
  have hbits : e * 2 ^ 52 + (m - 2 ^ 52) < 2 ^ 63 := by omega
  unfold toRat significand exponent
  rw [isNegative_ofSignBits negative hbits, exponentBits_ofSignBits negative hbits,
    fractionBits_ofSignBits negative hbits]
  congr 1
  rcases Nat.lt_or_eq_of_le hhigh with hlt | rfl
  · have hexp : (e * 2 ^ 52 + (m - 2 ^ 52)) / 2 ^ 52 = e := by omega
    have hfrac : 2 ^ 52 + (e * 2 ^ 52 + (m - 2 ^ 52)) % 2 ^ 52 = m := by omega
    have hne : (e == 0) = false := beq_false_of_ne (by omega)
    rw [hexp, hne, if_neg Bool.false_ne_true, if_neg Bool.false_ne_true, hfrac]
  · have hexp : (e * 2 ^ 52 + (2 ^ 53 - 2 ^ 52)) / 2 ^ 52 = e + 1 := by omega
    have hfrac : 2 ^ 52 + (e * 2 ^ 52 + (2 ^ 53 - 2 ^ 52)) % 2 ^ 52 = 2 ^ 52 := by omega
    have hne : (e + 1 == 0) = false := beq_false_of_ne (by omega)
    have hshift : ((e + 1 : Nat) : ℤ) - 1075 = ((e : ℤ) - 1075) + 1 := by push_cast; ring
    rw [hexp, hne, if_neg Bool.false_ne_true, if_neg Bool.false_ne_true, hfrac, hshift,
      zpow_add_one₀ two_ne_zero]
    push_cast
    ring

/-! ## Rounding to a significand -/

theorem pow_le_of_bitLength {n : Nat} (hn : n ≠ 0) :
    1 ≤ bitLength n ∧ 2 ^ (bitLength n - 1) ≤ n ∧ n < 2 ^ bitLength n := by
  unfold bitLength
  rw [if_neg hn]
  exact ⟨by omega, Nat.log2_self_le hn, Nat.lt_log2_self⟩

theorem bitLength_le {n k : Nat} (hn : n ≠ 0) (hlt : n < 2 ^ k) : bitLength n ≤ k := by
  obtain ⟨-, hlow, -⟩ := pow_le_of_bitLength hn
  have hpow : bitLength n - 1 < k := (Nat.pow_lt_pow_iff_right (by decide)).mp (hlow.trans_lt hlt)
  omega

/-- The rounded quotient is one of the two integers next to the quotient. -/
theorem shiftRoundEven_bounds (n k : Nat) :
    n / 2 ^ k ≤ shiftRoundEven n k ∧ shiftRoundEven n k ≤ n / 2 ^ k + 1 := by
  unfold shiftRoundEven
  dsimp only
  split_ifs <;> omega

/-- Rounding moves a number by at most half a step. -/
theorem shiftRoundEven_near (n k : Nat) :
    2 * n ≤ 2 * (shiftRoundEven n k * 2 ^ k) + 2 ^ k ∧
      2 * (shiftRoundEven n k * 2 ^ k) ≤ 2 * n + 2 ^ k := by
  have hdiv : 2 ^ k * (n / 2 ^ k) + n % 2 ^ k = n := Nat.div_add_mod n (2 ^ k)
  have hup : (n / 2 ^ k + 1) * 2 ^ k = 2 ^ k * (n / 2 ^ k) + 2 ^ k := by ring
  have hdown : n / 2 ^ k * 2 ^ k = 2 ^ k * (n / 2 ^ k) := by ring
  have hmod : n % 2 ^ k < 2 ^ k := Nat.mod_lt n (by positivity)
  unfold shiftRoundEven
  dsimp only
  split_ifs with hless hmore
  · rw [hdown]
    omega
  · rw [hup]
    omega
  · -- a tie: either neighbour is at half a step
    rcases Nat.mod_two_eq_zero_or_one (n / 2 ^ k) with heven | hodd
    · rw [heven, Nat.add_zero, hdown]
      omega
    · rw [hodd, hup]
      omega

/-- A multiple of the step stays what it is. -/
theorem shiftRoundEven_mul (m k : Nat) : shiftRoundEven (m * 2 ^ k) k = m := by
  have hpos : 0 < 2 ^ k := by positivity
  unfold shiftRoundEven
  rw [Nat.mul_mod_left, Nat.mul_div_cancel m hpos]
  exact if_pos hpos

/-- The significand that an integer is rounded to. -/
def roundedSignificand (n : Nat) : Nat :=
  if bitLength n ≤ 53 then n * 2 ^ (53 - bitLength n) else shiftRoundEven n (bitLength n - 53)

theorem magnitudeBits_eq (n : Nat) :
    magnitudeBits n = (bitLength n + 1022) * 2 ^ 52 + (roundedSignificand n - 2 ^ 52) := by
  unfold magnitudeBits roundedSignificand
  dsimp only
  split <;> rfl

theorem roundedSignificand_bounds {n : Nat} (hn : n ≠ 0) :
    2 ^ 52 ≤ roundedSignificand n ∧ roundedSignificand n ≤ 2 ^ 53 := by
  obtain ⟨hpos, hlow, hhigh⟩ := pow_le_of_bitLength hn
  unfold roundedSignificand
  split
  next hshort =>
    have hsplit : 2 ^ (bitLength n - 1) * 2 ^ (53 - bitLength n) = 2 ^ 52 := by
      rw [← Nat.pow_add]
      congr 1
      omega
    have hwhole : 2 ^ bitLength n * 2 ^ (53 - bitLength n) = 2 ^ 53 := by
      rw [← Nat.pow_add]
      congr 1
      omega
    exact ⟨hsplit ▸ Nat.mul_le_mul_right _ hlow, hwhole ▸ Nat.mul_le_mul_right _ hhigh.le⟩
  next hlong =>
    obtain ⟨hfloor, hceil⟩ := shiftRoundEven_bounds n (bitLength n - 53)
    have hsplit : 2 ^ 52 * 2 ^ (bitLength n - 53) = 2 ^ (bitLength n - 1) := by
      rw [← Nat.pow_add]
      congr 1
      omega
    have hwhole : 2 ^ 53 * 2 ^ (bitLength n - 53) = 2 ^ bitLength n := by
      rw [← Nat.pow_add]
      congr 1
      omega
    have hge : 2 ^ 52 ≤ n / 2 ^ (bitLength n - 53) :=
      (Nat.le_div_iff_mul_le (by positivity)).mpr (hsplit ▸ hlow)
    have hlt : n / 2 ^ (bitLength n - 53) < 2 ^ 53 :=
      Nat.div_lt_of_lt_mul (by rw [Nat.mul_comm, hwhole]; exact hhigh)
    exact ⟨hge.trans hfloor, hceil.trans hlt⟩

/-- The significand times its step is at most half a step from the integer. -/
theorem roundedSignificand_near (n : Nat) :
    |((roundedSignificand n : ℚ) * 2 ^ ((bitLength n : ℤ) - 53)) - n| ≤
      2 ^ ((bitLength n : ℤ) - 54) := by
  unfold roundedSignificand
  split
  next hshort =>
    have hback : (2 : ℚ) ^ (53 - bitLength n) * 2 ^ ((bitLength n : ℤ) - 53) = 1 := by
      rw [← zpow_natCast, ← zpow_add₀ two_ne_zero, Nat.cast_sub hshort]
      simp
    push_cast
    rw [mul_assoc, hback, mul_one, sub_self, abs_zero]
    positivity
  next hlong =>
    obtain ⟨hbelow, habove⟩ := shiftRoundEven_near n (bitLength n - 53)
    have hstep : (2 : ℚ) ^ ((bitLength n : ℤ) - 53) = 2 ^ (bitLength n - 53) := by
      rw [← zpow_natCast, Nat.cast_sub (by omega)]
      rfl
    have hhalf : (2 : ℚ) ^ ((bitLength n : ℤ) - 54) * 2 = 2 ^ (bitLength n - 53) := by
      rw [← hstep, ← zpow_add_one₀ two_ne_zero]
      congr 1
      ring
    have hbelow' : 2 * (n : ℚ) ≤
        2 * (shiftRoundEven n (bitLength n - 53) * 2 ^ (bitLength n - 53)) +
          2 ^ (bitLength n - 53) := by exact_mod_cast hbelow
    have habove' : 2 * ((shiftRoundEven n (bitLength n - 53) : ℚ) * 2 ^ (bitLength n - 53)) ≤
        2 * n + 2 ^ (bitLength n - 53) := by exact_mod_cast habove
    rw [hstep, abs_le]
    constructor <;> linarith

/-- It is the integer if that has no more than 53 digits. -/
theorem roundedSignificand_exact {n : Nat} (hn : n ≠ 0) (hle : n ≤ 2 ^ 53) :
    (roundedSignificand n : ℚ) * 2 ^ ((bitLength n : ℤ) - 53) = n := by
  rcases Nat.lt_or_eq_of_le hle with hlt | rfl
  · have hshort : bitLength n ≤ 53 := bitLength_le hn hlt
    have hback : (2 : ℚ) ^ (53 - bitLength n) * 2 ^ ((bitLength n : ℤ) - 53) = 1 := by
      rw [← zpow_natCast, ← zpow_add₀ two_ne_zero, Nat.cast_sub hshort]
      simp
    unfold roundedSignificand
    rw [if_pos hshort]
    push_cast
    rw [mul_assoc, hback, mul_one]
  · have hlength : bitLength (2 ^ 53) = 54 := by
      unfold bitLength
      rw [if_neg hn, Nat.log2_two_pow]
    have hround : shiftRoundEven (2 ^ 53) 1 = 2 ^ 52 := shiftRoundEven_mul (2 ^ 52) 1
    unfold roundedSignificand
    rw [hlength, if_neg (by decide), hround]
    norm_num

/-! ## Integers of 64 bits -/

theorem natAbs_toInt_le (n : Int64) : n.toInt.natAbs ≤ 2 ^ 63 := by
  have hlow := n.le_toInt
  have hhigh := n.toInt_lt
  omega

/-- The bits of an integer of at most 64 digits are far from those of infinity. -/
theorem magnitudeBits_lt {n : Nat} (hn : n ≠ 0) (hle : n ≤ 2 ^ 63) :
    magnitudeBits n < 2047 * 2 ^ 52 := by
  have hlength : bitLength n ≤ 64 := bitLength_le hn (by omega)
  have hhigh := (roundedSignificand_bounds hn).2
  rw [magnitudeBits_eq]
  omega

theorem ofInt?_of_ne_zero {i : Int} (hi : i ≠ 0) (hle : i.natAbs ≤ 2 ^ 63) :
    ofInt? i = some (ofSignBits (i < 0) (magnitudeBits i.natAbs)) := by
  unfold ofInt?
  rw [if_neg hi]
  exact if_pos (magnitudeBits_lt (Int.natAbs_ne_zero.mpr hi) hle)

theorem isSome_ofInt? (n : Int64) : (ofInt? n.toInt).isSome := by
  by_cases hn : n.toInt = 0
  · rw [hn]
    rfl
  · rw [ofInt?_of_ne_zero hn (natAbs_toInt_le n)]
    rfl

/-- The double nearest to an integer of 64 bits. -/
def ofInt64 (n : Int64) : Double := (ofInt? n.toInt).get (isSome_ofInt? n)

theorem ofInt?_toInt (n : Int64) : ofInt? n.toInt = some (ofInt64 n) := by
  unfold ofInt64
  rw [Option.some_get]

theorem ofInt64_of_ne_zero {n : Int64} (hn : n.toInt ≠ 0) :
    ofInt64 n = ofSignBits (n.toInt < 0) (magnitudeBits n.toInt.natAbs) := by
  have hsome := ofInt?_of_ne_zero hn (natAbs_toInt_le n)
  rw [ofInt?_toInt] at hsome
  exact Option.some.inj hsome

theorem ofInt64_of_eq_zero {n : Int64} (hn : n.toInt = 0) : ofInt64 n = zero := by
  have hsome := ofInt?_toInt n
  rw [hn] at hsome
  exact (Option.some.inj hsome).symm

theorem isFinite_ofInt64 (n : Int64) : (ofInt64 n).isFinite = true := by
  by_cases hn : n.toInt = 0
  · rw [ofInt64_of_eq_zero hn]
    rfl
  · rw [ofInt64_of_ne_zero hn]
    exact isFinite_ofSignBits _ (magnitudeBits_lt (Int.natAbs_ne_zero.mpr hn) (natAbs_toInt_le n))

theorem toRat_zero : zero.toRat = 0 := by
  have hs : zero.significand = 0 := rfl
  unfold toRat
  rw [hs, Nat.cast_zero, zero_mul, mul_zero]

theorem toRat_ofInt64 {n : Int64} (hn : n.toInt ≠ 0) :
    (ofInt64 n).toRat = (if n.toInt < 0 then -1 else 1) *
      (roundedSignificand n.toInt.natAbs * 2 ^ ((bitLength n.toInt.natAbs : ℤ) - 53)) := by
  have hne : n.toInt.natAbs ≠ 0 := Int.natAbs_ne_zero.mpr hn
  obtain ⟨hlow, hhigh⟩ := roundedSignificand_bounds hne
  have hlength : bitLength n.toInt.natAbs ≤ 64 :=
    bitLength_le hne (by have := natAbs_toInt_le n; omega)
  have hexp : ((bitLength n.toInt.natAbs + 1022 : Nat) : ℤ) - 1075 =
      (bitLength n.toInt.natAbs : ℤ) - 53 := by push_cast; ring
  rw [ofInt64_of_ne_zero hn, magnitudeBits_eq,
    toRat_ofSignBits _ (by omega) (by omega) hlow hhigh, hexp]
  simp only [decide_eq_true_eq]

/-- An integer by its sign and magnitude. -/
theorem sign_mul_natAbs (i : ℤ) : (if i < 0 then (-1 : ℚ) else 1) * (i.natAbs : ℚ) = i := by
  rw [Nat.cast_natAbs]
  split
  next hneg => rw [abs_of_neg hneg, Int.cast_neg, neg_one_mul, neg_neg]
  next hpos => rw [abs_of_nonneg (not_lt.mp hpos), one_mul]

/-- The distance is at most half the space between the doubles around the integer. -/
theorem ofInt64_near (n : Int64) :
    |(ofInt64 n).toRat - n.toInt| ≤ 2 ^ ((bitLength n.toInt.natAbs : ℤ) - 54) := by
  by_cases hn : n.toInt = 0
  · rw [ofInt64_of_eq_zero hn, toRat_zero, hn, Int.cast_zero, sub_zero, abs_zero]
    positivity
  · have hsign : |(if n.toInt < 0 then (-1 : ℚ) else 1)| = 1 := by split <;> simp
    rw [toRat_ofInt64 hn, ← sign_mul_natAbs n.toInt, ← mul_sub, abs_mul, hsign, one_mul]
    exact roundedSignificand_near n.toInt.natAbs

/-- An integer of at most 53 digits is a double itself. -/
theorem ofInt64_exact {n : Int64} (hle : n.toInt.natAbs ≤ 2 ^ 53) :
    (ofInt64 n).toRat = n.toInt := by
  by_cases hn : n.toInt = 0
  · rw [ofInt64_of_eq_zero hn, toRat_zero, hn, Int.cast_zero]
  · rw [toRat_ofInt64 hn, roundedSignificand_exact (Int.natAbs_ne_zero.mpr hn) hle, sign_mul_natAbs]

end Embedder.Double
