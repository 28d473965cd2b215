import Calculator.Proofs.Number.Nearest

/-!
The total order of binary64 numbers: by value, with `-0.0` below `0.0`, the negative NaNs below all
other numbers and the positive ones above. `rank` is this order.
-/

namespace Calculator.Binary64

/-- The value in units of `2 ^ -1074` of a number that is not a NaN; the infinities stand for the first
powers of two out of range. -/
def value (x : Binary64) : Int :=
  if x.isNegative then -(units x.magnitude : Int) else units x.magnitude

/-- The order of IEEE 754 in which all numbers lie. NaNs of one sign go by what they carry. -/
inductive Below (x y : Binary64) : Prop where
  | value (hx : x.isNaN = false) (hy : y.isNaN = false) (h : x.value < y.value)
  | zeros (hx : x = negativeZero) (hy : y = zero)
  | negativeNaN (hx : x.isNaN = true ∧ x.isNegative = true)
      (hy : ¬ (y.isNaN = true ∧ y.isNegative = true))
  | positiveNaN (hx : ¬ (x.isNaN = true ∧ x.isNegative = false))
      (hy : y.isNaN = true ∧ y.isNegative = false)
  | negativePayload (hx : x.isNaN = true ∧ x.isNegative = true)
      (hy : y.isNaN = true ∧ y.isNegative = true) (h : y.magnitude < x.magnitude)
  | positivePayload (hx : x.isNaN = true ∧ x.isNegative = false)
      (hy : y.isNaN = true ∧ y.isNegative = false) (h : x.magnitude < y.magnitude)

variable {x y : Binary64}

theorem rank_of_negative (hx : x.isNegative = true) : x.rank = -(x.magnitude : Int) - 1 := by
  rw [rank, if_pos hx]

theorem rank_of_not_negative (hx : x.isNegative = false) : x.rank = x.magnitude := by
  rw [rank, hx, if_neg Bool.false_ne_true]

theorem value_of_negative (hx : x.isNegative = true) : x.value = -(units x.magnitude : Int) := by
  rw [value, if_pos hx]

theorem value_of_not_negative (hx : x.isNegative = false) : x.value = units x.magnitude := by
  rw [value, hx, if_neg Bool.false_ne_true]

theorem units_pos {m : Nat} (hm : 0 < m) : 0 < units m :=
  Nat.lt_of_le_of_lt (Nat.zero_le _) (units_strictMono hm)

theorem eq_negativeZero_iff : x = negativeZero ↔ x.isNegative = true ∧ x.magnitude = 0 := by
  constructor
  · rintro rfl
    decide
  · rintro ⟨hx, hm⟩
    refine rank_inj ?_
    rw [rank_of_negative hx, hm]
    rfl

theorem eq_zero_iff : x = zero ↔ x.isNegative = false ∧ x.magnitude = 0 := by
  constructor
  · rintro rfl
    decide
  · rintro ⟨hx, hm⟩
    refine rank_inj ?_
    rw [rank_of_not_negative hx, hm]
    rfl

/-- Ranks lie as values do, but for the two zeros. -/
theorem rank_lt_iff_value : x.rank < y.rank ↔ x.value < y.value ∨ x = negativeZero ∧ y = zero := by
  rw [eq_negativeZero_iff, eq_zero_iff]
  have hunits : ∀ m n, units m < units n ↔ m < n := fun _ _ => units_strictMono.lt_iff_lt
  cases hx : x.isNegative <;> cases hy : y.isNegative
  case false.false =>
    rw [rank_of_not_negative hx, rank_of_not_negative hy, value_of_not_negative hx,
      value_of_not_negative hy, Int.ofNat_lt, Int.ofNat_lt, hunits]
    simp
  case false.true =>
    rw [rank_of_not_negative hx, rank_of_negative hy, value_of_not_negative hx,
      value_of_negative hy]
    simp only [Bool.false_eq_true, false_and, or_false]
    omega
  case true.false =>
    rw [rank_of_negative hx, rank_of_not_negative hy, value_of_negative hx,
      value_of_not_negative hy]
    -- The signs settle it, unless there is nothing but signs.
    refine iff_of_true (by omega) ?_
    rcases Nat.eq_zero_or_pos x.magnitude with hx0 | hx0
    · rcases Nat.eq_zero_or_pos y.magnitude with hy0 | hy0
      · exact .inr ⟨⟨rfl, hx0⟩, rfl, hy0⟩
      · have := units_pos hy0
        exact .inl (by omega)
    · have := units_pos hx0
      exact .inl (by omega)
  case true.true =>
    rw [rank_of_negative hx, rank_of_negative hy, value_of_negative hx, value_of_negative hy]
    have := hunits y.magnitude x.magnitude
    simp only [Bool.true_eq_false, false_and, and_false, or_false]
    omega

theorem negativeNaN_iff :
    x.isNaN = true ∧ x.isNegative = true ↔ x.rank < -(infiniteMagnitude : Int) - 1 := by
  rw [isNaN, decide_eq_true_eq]
  cases hn : x.isNegative with
  | false =>
    rw [rank_of_not_negative hn]
    simp only [Bool.false_eq_true, and_false, false_iff]
    omega
  | true =>
    rw [and_iff_left rfl, rank_of_negative hn]
    omega

theorem positiveNaN_iff :
    x.isNaN = true ∧ x.isNegative = false ↔ (infiniteMagnitude : Int) < x.rank := by
  rw [isNaN, decide_eq_true_eq]
  cases hn : x.isNegative with
  | false =>
    rw [and_iff_left rfl, rank_of_not_negative hn]
    omega
  | true =>
    rw [rank_of_negative hn]
    simp only [Bool.true_eq_false, and_false, false_iff]
    omega

theorem not_isNaN_of_rank (hl : -(infiniteMagnitude : Int) - 1 ≤ x.rank)
    (hg : x.rank ≤ infiniteMagnitude) : x.isNaN = false := by
  rw [← Bool.not_eq_true]
  intro hnan
  cases hn : x.isNegative with
  | false => exact absurd (positiveNaN_iff.mp ⟨hnan, hn⟩) (by omega)
  | true => exact absurd (negativeNaN_iff.mp ⟨hnan, hn⟩) (by omega)

theorem below_iff : x.Below y ↔ x.rank < y.rank := by
  constructor
  · intro h
    cases h with
    | value _ _ h => exact rank_lt_iff_value.mpr (.inl h)
    | zeros hx hy => exact rank_lt_iff_value.mpr (.inr ⟨hx, hy⟩)
    | negativeNaN hx hy =>
      rw [negativeNaN_iff] at hx hy
      omega
    | positiveNaN hx hy =>
      rw [positiveNaN_iff] at hx hy
      omega
    | negativePayload hx hy h =>
      rw [rank_of_negative hx.2, rank_of_negative hy.2]
      omega
    | positivePayload hx hy h =>
      rw [rank_of_not_negative hx.2, rank_of_not_negative hy.2]
      omega
  · intro h
    by_cases hx : x.isNaN = true ∧ x.isNegative = true
    · by_cases hy : y.isNaN = true ∧ y.isNegative = true
      · rw [rank_of_negative hx.2, rank_of_negative hy.2] at h
        exact .negativePayload hx hy (by omega)
      · exact .negativeNaN hx hy
    by_cases hy : y.isNaN = true ∧ y.isNegative = false
    · by_cases hx : x.isNaN = true ∧ x.isNegative = false
      · rw [rank_of_not_negative hx.2, rank_of_not_negative hy.2] at h
        exact .positivePayload hx hy (by omega)
      · exact .positiveNaN hx hy
    rw [negativeNaN_iff] at hx
    rw [positiveNaN_iff] at hy
    rcases rank_lt_iff_value.mp h with hv | ⟨hx, hy⟩
    · exact .value (not_isNaN_of_rank (by omega) (by omega)) (not_isNaN_of_rank (by omega) (by omega))
        hv
    · exact .zeros hx hy

instance : DecidableRel Below := fun _ _ => decidable_of_iff _ below_iff.symm

end Calculator.Binary64
