import Mathlib.Algebra.Group.Nat.Defs
import Mathlib.Order.Monotone.Basic
import Calculator.Number.Shortest

/-!
The rounding ranges of the magnitudes: they follow each other without overlapping, so a decimal in the
range of a magnitude is read as that magnitude.
-/

namespace Calculator.Binary64

variable {m i j numerator denominator : Nat}

theorem units_lt_succ (m : Nat) : units m < units (m + 1) := by
  unfold units
  by_cases h : m % 2 ^ 52 + 1 = 2 ^ 52
  · -- The last magnitude with its exponent.
    have hd : (m + 1) / 2 ^ 52 = m / 2 ^ 52 + 1 := by omega
    have hm : (m + 1) % 2 ^ 52 = 0 := by omega
    rw [hd, hm, if_neg (Nat.succ_ne_zero _), Nat.shiftLeft_eq, Nat.add_sub_cancel]
    split
    next h0 =>
      rw [h0]
      omega
    next h0 =>
      obtain ⟨e, he⟩ := Nat.exists_eq_succ_of_ne_zero h0
      rw [he, Nat.succ_eq_add_one, Nat.add_sub_cancel, Nat.shiftLeft_eq]
      calc (2 ^ 52 + m % 2 ^ 52) * 2 ^ e < (2 ^ 52 * 2) * 2 ^ e := by
            refine Nat.mul_lt_mul_of_pos_right ?_ (Nat.two_pow_pos e)
            omega
        _ = (2 ^ 52 + 0) * 2 ^ (e + 1) := by
            rw [Nat.add_zero, Nat.pow_succ 2 e, Nat.mul_assoc, Nat.mul_comm 2 (2 ^ e)]
  · have hd : (m + 1) / 2 ^ 52 = m / 2 ^ 52 := by omega
    have hm : (m + 1) % 2 ^ 52 = m % 2 ^ 52 + 1 := by omega
    rw [hd, hm]
    split
    · exact Nat.lt_succ_self _
    · rw [Nat.shiftLeft_eq, Nat.shiftLeft_eq]
      exact Nat.mul_lt_mul_of_pos_right (by omega) (Nat.two_pow_pos _)

theorem units_strictMono : StrictMono units := strictMono_nat_of_lt_succ units_lt_succ

theorem border_succ (m : Nat) : border (m + 1) = units m + units (m + 1) := rfl

theorem border_lt_succ (m : Nat) : border m < border (m + 1) := by
  have h := units_lt_succ m
  have h' := units_strictMono.monotone (Nat.sub_le m 1)
  rw [border_succ]
  unfold border
  omega

theorem border_strictMono : StrictMono border := strictMono_nat_of_lt_succ border_lt_succ

theorem border_pos (h : 0 < m) : 0 < border m :=
  Nat.lt_of_le_of_lt (Nat.zero_le _) (border_strictMono h)

/-- The value of a magnitude lies after its border and before the next one. -/
theorem border_lt_two_mul_units (h : 0 < m) : border m < 2 * units m := by
  have := units_strictMono (Nat.sub_lt h Nat.one_pos)
  unfold border
  omega

theorem two_mul_units_lt_border (m : Nat) : 2 * units m < border (m + 1) := by
  have := units_lt_succ m
  rw [border_succ]
  omega

theorem border_mul_le_of_reaches (h : reaches numerator denominator m) :
    border m * denominator ≤ numerator := by
  unfold reaches at h
  split at h
  · simpa using h
  · exact Nat.le_of_lt (by simpa using h)

theorem reaches_of_border_mul_lt (h : border m * denominator < numerator) :
    reaches numerator denominator m := by
  unfold reaches
  split
  · simpa using Nat.le_of_lt h
  · simpa using h

theorem reaches_of_le (hd : 0 < denominator) (hij : i ≤ j) (h : reaches numerator denominator j) :
    reaches numerator denominator i := by
  rcases Nat.eq_or_lt_of_le hij with rfl | hlt
  · exact h
  · refine reaches_of_border_mul_lt (Nat.lt_of_lt_of_le ?_ (border_mul_le_of_reaches h))
    exact Nat.mul_lt_mul_of_pos_right (border_strictMono hlt) hd

section Ratio

variable {a b c d : Nat}

theorem mul_le_mul_iff_of_ratio (hb : 0 < b) (hd : 0 < d) (h : a * d = c * b) (x scale : Nat) :
    x * b ≤ a * scale ↔ x * d ≤ c * scale := by
  have hr : a * scale * d = c * scale * b := by
    rw [Nat.mul_right_comm, h, Nat.mul_right_comm]
  rw [← Nat.mul_le_mul_right_iff hd, Nat.mul_right_comm x b d, hr, Nat.mul_le_mul_right_iff hb]

theorem mul_lt_mul_iff_of_ratio (hb : 0 < b) (hd : 0 < d) (h : a * d = c * b) (x scale : Nat) :
    x * b < a * scale ↔ x * d < c * scale := by
  have hr : a * scale * d = c * scale * b := by
    rw [Nat.mul_right_comm, h, Nat.mul_right_comm]
  rw [← Nat.mul_lt_mul_right hd, Nat.mul_right_comm x b d, hr, Nat.mul_lt_mul_right hb]

/-- Whether a fraction reaches a magnitude depends on nothing but its value. -/
theorem reaches_congr (hb : 0 < b) (hd : 0 < d) (h : a * d = c * b) (m : Nat) :
    reaches (a <<< 1075) b m = reaches (c <<< 1075) d m := by
  unfold reaches
  rw [Nat.shiftLeft_eq, Nat.shiftLeft_eq]
  split
  · exact decide_eq_decide.mpr (mul_le_mul_iff_of_ratio hb hd h _ _)
  · exact decide_eq_decide.mpr (mul_lt_mul_iff_of_ratio hb hd h _ _)

end Ratio

/-- Climbing finds where a property that holds up to a bound stops. -/
theorem climb_eq {p : Nat → Bool} {n base : Nat} (hp : ∀ i j, i ≤ j → p j → p i) (hm : p m)
    (hs : ¬ p (m + 1)) (hb : base ≤ m) (hn : m < base + 2 ^ n) : climb p n base = m := by
  induction n generalizing base with
  | zero =>
    unfold climb
    omega
  | succ n ih =>
    unfold climb
    have h2 : 2 ^ (n + 1) = 2 ^ n + 2 ^ n := by omega
    by_cases hle : base + 2 ^ n ≤ m
    · rw [if_pos (hp _ _ hle hm)]
      exact ih hle (by omega)
    · have hnot : ¬ p (base + 2 ^ n) := fun h => hs (hp _ _ (by omega) h)
      rw [if_neg hnot]
      exact ih hb (by omega)

theorem nearest_eq (hd : 0 < denominator) (hm : m < infiniteMagnitude)
    (h : reaches (numerator <<< 1075) denominator m)
    (hs : ¬ reaches (numerator <<< 1075) denominator (m + 1)) : nearest numerator denominator = m := by
  unfold nearest
  refine climb_eq ?_ ?_ ?_ (Nat.zero_le m) ?_
  · intro i j hij hj
    simp only [Bool.and_eq_true, decide_eq_true_eq] at hj ⊢
    exact ⟨by omega, reaches_of_le hd hij hj.2⟩
  · simp only [Bool.and_eq_true, decide_eq_true_eq]
    exact ⟨by omega, h⟩
  · simp only [Bool.and_eq_true, not_and]
    exact fun _ => hs
  · have : infiniteMagnitude < 2 ^ 63 := by decide
    omega

end Calculator.Binary64
