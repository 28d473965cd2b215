import Calculator.Proofs.Number.TotalOrder
import Calculator.Proofs.Operation.Values

/-!
The median as an order statistic. Since no two numbers lie at one place in the total order, some values
have one arrangement only, and the median stands in its middle.
-/

namespace Calculator.Operation.Standard

open Binary64

/-- The same values, in the total order. -/
structure Arranges (arranged values : List Binary64) : Prop where
  perm : arranged.Perm values
  ascending : arranged.Pairwise fun x y => ¬ y.Below x

section Arranging

variable {arranged others values before after : List Binary64} {lower upper x : Binary64}

theorem arranges_sorted (values : List Binary64) : Arranges (sorted values) values where
  perm := List.mergeSort_perm values _
  ascending := by
    have htrans : ∀ x y z : Binary64, decide (x.rank ≤ y.rank) = true →
        decide (y.rank ≤ z.rank) = true → decide (x.rank ≤ z.rank) = true := by
      intro x y z hxy hyz
      simp only [decide_eq_true_eq] at *
      exact Int.le_trans hxy hyz
    have htotal : ∀ x y : Binary64,
        (decide (x.rank ≤ y.rank) || decide (y.rank ≤ x.rank)) = true := by
      intro x y
      simpa using Int.le_total x.rank y.rank
    refine (List.pairwise_mergeSort htrans htotal values).imp ?_
    intro x y h hb
    exact Int.not_le.mpr (below_iff.mp hb) (of_decide_eq_true h)

/-- Whatever sorts the values gives the same list. -/
theorem Arranges.eq_of_perm (ha : Arranges arranged values) (hb : Arranges others values) :
    arranged = others := by
  refine List.Perm.eq_of_pairwise (fun x y _ _ hxy hyx => ?_) ha.ascending hb.ascending
    (ha.perm.trans hb.perm.symm)
  rw [below_iff] at hxy hyx
  exact rank_inj (Int.le_antisymm (Int.not_lt.mp hxy) (Int.not_lt.mp hyx))

theorem Arranges.sorted_eq (h : Arranges arranged values) : sorted values = arranged :=
  (arranges_sorted values).eq_of_perm h

theorem sorted_eq_of_perm (h : values.Perm others) : sorted values = sorted others :=
  Arranges.sorted_eq ⟨(arranges_sorted others).perm.trans h.symm, (arranges_sorted others).ascending⟩

/-- No more values lie below `x` than stand before it. -/
theorem Arranges.countP_below_le (h : Arranges (before ++ x :: after) values) :
    values.countP (fun y => y.Below x) ≤ before.length := by
  obtain ⟨-, hx, -⟩ := List.pairwise_append.mp h.ascending
  have hafter : (x :: after).countP (fun y => decide (y.Below x)) = 0 := by
    refine List.countP_eq_zero.mpr fun y hy => ?_
    rcases List.mem_cons.mp hy with rfl | hy
    · simp [below_iff]
    · simpa using (List.pairwise_cons.mp hx).1 y hy
  rw [← h.perm.countP_eq, List.countP_append, hafter]
  exact List.countP_le_length

/-- No more values lie above `x` than stand after it. -/
theorem Arranges.countP_above_le (h : Arranges (before ++ x :: after) values) :
    values.countP (fun y => x.Below y) ≤ after.length := by
  obtain ⟨-, -, hbefore⟩ := List.pairwise_append.mp h.ascending
  have hzero : before.countP (fun y => decide (x.Below y)) = 0 := by
    refine List.countP_eq_zero.mpr fun y hy => ?_
    simpa using hbefore y hy x List.mem_cons_self
  have hself : ¬ x.Below x := by simp [below_iff]
  rw [← h.perm.countP_eq, List.countP_append, hzero, List.countP_cons_of_neg (by simpa using hself),
    Nat.zero_add]
  exact List.countP_le_length

theorem Arranges.length_eq (h : Arranges (before ++ x :: after) values) :
    values.length = before.length + (after.length + 1) := by
  rw [← h.perm.length_eq, List.length_append, List.length_cons]

/-- An odd number of values has one in the middle. -/
theorem middle_of_odd (h : Arranges (before ++ x :: after) values)
    (hl : before.length = after.length) : middle values = some x := by
  have hlen := h.length_eq
  have hhalf : values.length / 2 = before.length := by omega
  unfold middle
  dsimp only
  rw [if_pos (by omega), h.sorted_eq, hhalf, List.getElem?_append_right (Nat.le_refl _), Nat.sub_self]
  rfl

/-- An even number of values has two in the middle. -/
theorem middle_of_even (h : Arranges (before ++ lower :: upper :: after) values)
    (hl : before.length = after.length) : middle values = some ((lower + upper) / .two) := by
  have hlen := h.length_eq
  rw [List.length_cons] at hlen
  have hhalf : values.length / 2 = before.length + 1 := by omega
  unfold middle
  dsimp only
  rw [if_neg (by omega), if_neg (by omega), h.sorted_eq, hhalf, Nat.add_sub_cancel,
    List.getElem?_append_right (Nat.le_refl _), List.getElem?_append_right (Nat.le_add_right _ 1),
    Nat.sub_self, Nat.add_sub_cancel_left]
  rfl

/-- Every place among the values is taken. -/
theorem exists_arranges {place : Nat} (h : place < values.length) :
    ∃ before x after, Arranges (before ++ x :: after) values ∧ before.length = place := by
  rw [← length_sorted values] at h
  refine ⟨(sorted values).take place, (sorted values)[place], (sorted values).drop (place + 1), ?_,
    List.length_take_of_le (Nat.le_of_lt h)⟩
  rw [List.getElem_cons_drop, List.take_append_drop]
  exact arranges_sorted values

theorem exists_arranges_odd (h : values.length % 2 = 1) : ∃ before x after,
    Arranges (before ++ x :: after) values ∧ before.length = (values.length - 1) / 2 ∧
      after.length = (values.length - 1) / 2 := by
  have hplace : (values.length - 1) / 2 < values.length := by omega
  obtain ⟨before, x, after, ha, hb⟩ := exists_arranges hplace
  have hlen := ha.length_eq
  exact ⟨before, x, after, ha, hb, by omega⟩

theorem exists_arranges_even (h : values.length % 2 = 0) (hpos : 0 < values.length) :
    ∃ before lower upper after, Arranges (before ++ lower :: upper :: after) values ∧
      before.length = values.length / 2 - 1 ∧ after.length = values.length / 2 - 1 := by
  have hplace : values.length / 2 - 1 < values.length := by omega
  obtain ⟨before, lower, after, ha, hb⟩ := exists_arranges hplace
  have hlen := ha.length_eq
  cases after with
  | nil =>
    rw [List.length_nil] at hlen
    omega
  | cons upper after =>
    rw [List.length_cons] at hlen
    exact ⟨before, lower, upper, after, ha, hb, by omega⟩

end Arranging

theorem compute_median {values : List Binary64} {x : Binary64} (h : middle values = some x) :
    median.compute values = .ok x := by
  rw [compute, h, Option.elim_some]

/-- The median of at least three values, whatever their order: the one with at most half of the others
below it and at most half above, or half the sum of the two in the middle. -/
theorem median_is_order_statistic {values : List Binary64} (h : 3 ≤ values.length) :
    (∀ others, values.Perm others → median.compute others = median.compute values) ∧
    (values.length % 2 = 1 → ∃ x ∈ values, median.compute values = .ok x ∧
      values.countP (fun y => y.Below x) ≤ (values.length - 1) / 2 ∧
      values.countP (fun y => x.Below y) ≤ (values.length - 1) / 2) ∧
    (values.length % 2 = 0 → ∃ before lower upper after,
      Arranges (before ++ lower :: upper :: after) values ∧
      before.length = values.length / 2 - 1 ∧ after.length = values.length / 2 - 1 ∧
      median.compute values = .ok ((lower + upper) / .two)) := by
  refine ⟨fun others hp => ?_, fun hodd => ?_, fun heven => ?_⟩
  · have hmiddle : middle others = middle values := by
      unfold middle
      rw [sorted_eq_of_perm hp, hp.length_eq]
    rw [compute, compute, hmiddle]
  · obtain ⟨before, x, after, ha, hb, hc⟩ := exists_arranges_odd hodd
    have hx : x ∈ values := ha.perm.mem_iff.mp (by simp)
    refine ⟨x, hx, compute_median (middle_of_odd ha (hb.trans hc.symm)), ?_, ?_⟩
    · exact hb ▸ ha.countP_below_le
    · exact hc ▸ ha.countP_above_le
  · obtain ⟨before, lower, upper, after, ha, hb, hc⟩ := exists_arranges_even heven (by omega)
    exact ⟨before, lower, upper, after, ha, hb, hc,
      compute_median (middle_of_even ha (hb.trans hc.symm))⟩

/-- NaNs of both signs and both zeros. -/
theorem median_of_nans_and_zeros :
    3 ≤ [Binary64.nan false, .zero, .nan true, .negativeZero].length ∧
      ∃ before lower upper after,
        Arranges (before ++ lower :: upper :: after)
          [.nan false, .zero, .nan true, .negativeZero] ∧
        before.length = 1 ∧ after.length = 1 ∧
        median.compute [.nan false, .zero, .nan true, .negativeZero] =
          .ok ((lower + upper) / .two) :=
  have h : 3 ≤ [Binary64.nan false, .zero, .nan true, .negativeZero].length := by decide
  ⟨h, (median_is_order_statistic h).2.2 rfl⟩

end Calculator.Operation.Standard
