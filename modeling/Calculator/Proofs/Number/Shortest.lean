import Calculator.Proofs.Number.Nearest

/-!
The shortest decimal of a magnitude lies in its rounding range, and every decimal in that range is read
as the magnitude.
-/

namespace Calculator

open scoped Binary64

namespace Decimal

variable {d d' : Decimal}

theorem fraction_pos (d : Decimal) : 0 < d.fraction.2 := by
  unfold fraction
  split
  · exact Nat.one_pos
  · exact Nat.pow_pos (by decide)

/-- Decimals that stand for the same number. -/
def SameValue (d d' : Decimal) : Prop :=
  d.fraction.1 * d'.fraction.2 = d'.fraction.1 * d.fraction.2

end Decimal

namespace Binary64

variable {m : Nat} {d d' : Decimal}

theorem roundsTo_iff : roundsTo m d ↔
    reaches (d.fraction.1 <<< 1075) d.fraction.2 m ∧
      ¬ reaches (d.fraction.1 <<< 1075) d.fraction.2 (m + 1) := by
  simp [roundsTo]

theorem roundsTo_congr (h : d.SameValue d') (m : Nat) : roundsTo m d = roundsTo m d' := by
  have hc := reaches_congr d.fraction_pos d'.fraction_pos h
  simp only [roundsTo, hc]

theorem roundsTo_of_gridPoint? {exponent : Int} (h : gridPoint? m exponent = some d) :
    roundsTo m d := by
  unfold gridPoint? at h
  dsimp only at h
  cases hl : decide (0 < (below m exponent).digits) && roundsTo m (below m exponent) with
  | false =>
    cases hu : roundsTo m ⟨(below m exponent).digits + 1, exponent⟩ with
    | false =>
      simp only [hl, hu] at h
      cases h
    | true =>
      simp only [hl, hu] at h
      cases h
      exact hu
  | true =>
    have hlower := (Bool.and_eq_true_iff.mp hl).2
    cases hu : roundsTo m ⟨(below m exponent).digits + 1, exponent⟩ with
    | false =>
      simp only [hl, hu] at h
      cases h
      exact hlower
    | true =>
      simp only [hl, hu] at h
      have hd := Option.some.inj h
      by_cases hb : nearerBelow m (below m exponent) = true
      · rw [if_pos hb] at hd
        exact hd ▸ hlower
      · rw [if_neg hb] at hd
        exact hd ▸ hu

theorem five_pow_shiftLeft (u n : Nat) : (u * 5 ^ n) <<< (n + 1) = 2 * u * 10 ^ n := by
  have h10 : 10 ^ n = 5 ^ n * 2 ^ n := Nat.mul_pow 5 2 n
  have h2 : 2 ^ (n + 1) = 2 * 2 ^ n := Nat.pow_succ'
  rw [Nat.shiftLeft_eq, h2, h10]
  ac_rfl

/-- On the finest grid stands the value itself, which is in the range. -/
theorem roundsTo_exact (hm : 0 < m) : roundsTo m ⟨units m * 5 ^ (1074 : Nat), -1074⟩ := by
  have hf : (⟨units m * 5 ^ (1074 : Nat), -1074⟩ : Decimal).fraction =
      (units m * 5 ^ (1074 : Nat), 10 ^ (1074 : Nat)) := by
    simp only [Decimal.fraction, Int.reduceLE, ↓reduceIte, Int.reduceNeg, Int.neg_neg, Int.reduceToNat]
  have hp := Decimal.fraction_pos ⟨units m * 5 ^ (1074 : Nat), -1074⟩
  rw [hf] at hp
  rw [roundsTo_iff, hf]
  dsimp only at hp ⊢
  rw [five_pow_shiftLeft]
  constructor
  · exact reaches_of_border_mul_lt (Nat.mul_lt_mul_of_pos_right (border_lt_two_mul_units hm) hp)
  · intro h
    have := Nat.le_of_mul_le_mul_right (border_mul_le_of_reaches h) hp
    have := two_mul_units_lt_border m
    omega

theorem roundsTo_coarsest (hm : 0 < m) (grids : Nat) (exponent : Int) :
    roundsTo m (coarsest m grids exponent) := by
  induction grids generalizing exponent with
  | zero => exact roundsTo_exact hm
  | succ grids ih =>
    unfold coarsest
    cases hg : gridPoint? m exponent with
    | none => exact ih _
    | some d => exact roundsTo_of_gridPoint? hg

theorem roundsTo_shortest (hm : 0 < m) : roundsTo m (shortest m) := roundsTo_coarsest hm _ _

theorem digits_pos_of_roundsTo (hm : 0 < m) (h : roundsTo m d) : 0 < d.digits := by
  refine Nat.pos_of_ne_zero fun h0 => ?_
  have hn : d.fraction.1 = 0 := by
    unfold Decimal.fraction
    split <;> simp [h0]
  have hr := border_mul_le_of_reaches (roundsTo_iff.mp h).1
  rw [hn, Nat.zero_shiftLeft] at hr
  have := Nat.mul_pos (border_pos hm) d.fraction_pos
  omega

theorem border_infinite_lt {k : Nat} (hk : 310 ≤ k) :
    border infiniteMagnitude < 10 ^ k * 2 ^ 1075 := by
  induction k, hk using Nat.le_induction with
  | base => decide +kernel
  | succ k _ ih =>
    refine Nat.lt_of_lt_of_le ih (Nat.mul_le_mul_right _ ?_)
    rw [Nat.pow_succ]
    exact Nat.le_mul_of_pos_right _ (by decide)

theorem two_pow_mul_le (k : Nat) : 2 ^ k * 2 ^ 1075 ≤ 10 ^ (k + 324) := by
  induction k with
  | zero => decide +kernel
  | succ k ih =>
    have h2 : 2 ^ (k + 1) = 2 ^ k * 2 := Nat.pow_succ 2 k
    have h10 : 10 ^ (k + 1 + 324) = 10 ^ (k + 324) * 10 := by
      rw [Nat.add_right_comm]
      exact Nat.pow_succ 10 (k + 324)
    rw [h2, h10, Nat.mul_right_comm]
    exact Nat.mul_le_mul ih (by decide)

/-- A decimal in the range of a finite magnitude is not so large that it is settled as out of range. -/
theorem exponent_lt_of_roundsTo (hm : 0 < m) (hi : m < infiniteMagnitude) (h : roundsTo m d) :
    d.exponent < 310 := by
  refine Int.not_le.mp fun he => ?_
  have hf : d.fraction = (d.digits * 10 ^ d.exponent.toNat, 1) := if_pos (by omega)
  refine (roundsTo_iff.mp h).2 (reaches_of_border_mul_lt ?_)
  rw [hf]
  dsimp only
  rw [Nat.mul_one, Nat.shiftLeft_eq]
  calc border (m + 1) ≤ border infiniteMagnitude := border_strictMono.monotone hi
    _ < 10 ^ d.exponent.toNat * 2 ^ 1075 := border_infinite_lt (by omega)
    _ ≤ d.digits * 10 ^ d.exponent.toNat * 2 ^ 1075 :=
      Nat.mul_le_mul_right _ (Nat.le_mul_of_pos_left _ (digits_pos_of_roundsTo hm h))

/-- Nor is it so small that it is settled as zero. -/
theorem lt_exponent_of_roundsTo (hm : 0 < m) (h : roundsTo m d) :
    -324 < d.exponent + d.digits.log2 + 1 := by
  refine Int.not_le.mp fun he => ?_
  have hf : d.fraction = (d.digits, 10 ^ (-d.exponent).toNat) := if_neg (by omega)
  have hr := border_mul_le_of_reaches (roundsTo_iff.mp h).1
  rw [hf] at hr
  dsimp only at hr
  rw [Nat.shiftLeft_eq] at hr
  have hlt := Nat.mul_lt_mul_of_pos_right (Nat.lt_log2_self (n := d.digits)) (Nat.two_pow_pos 1075)
  have hle := two_pow_mul_le (d.digits.log2 + 1)
  have hpow : 10 ^ (d.digits.log2 + 1 + 324) ≤ 10 ^ (-d.exponent).toNat :=
    Nat.pow_le_pow_right (by decide) (by omega)
  have := Nat.le_mul_of_pos_left (10 ^ (-d.exponent).toNat) (border_pos hm)
  omega

/-- A decimal in the range of a finite magnitude is read as that magnitude. -/
theorem ofDecimal_of_roundsTo (negative : Bool) (hm : 0 < m) (hi : m < infiniteMagnitude)
    (h : roundsTo m d) : ofDecimal negative d.digits d.exponent = ofMagnitude negative m := by
  have hdigits := digits_pos_of_roundsTo hm h
  have hlarge := exponent_lt_of_roundsTo hm hi h
  have hsmall := lt_exponent_of_roundsTo hm h
  obtain ⟨hr, hs⟩ := roundsTo_iff.mp h
  have hn := nearest_eq d.fraction_pos hi hr hs
  unfold ofDecimal
  rw [if_neg (by omega), if_neg (by omega), if_neg (by omega)]
  unfold Decimal.fraction at hn
  split
  next he => rw [if_pos he] at hn; rw [hn]
  next he => rw [if_neg he] at hn; rw [hn]

end Binary64

end Calculator
