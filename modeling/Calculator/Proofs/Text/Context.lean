import Calculator.Proofs.Text.LetterCase

/-!
The lowercase of a text that stands between others. It is the lowercase of the text by itself, whatever
stands around it, exactly if the text settles the case of its neighbours for each of its sigmas.
-/

namespace Calculator.Text

/-- The lowercase of a text between others. What stands before it is given with the nearest character
first. -/
def lowerBetween : List Char → List Char → List Char → List Char
  | _, [], _ => []
  | before, c :: cs, after =>
    (if c = '\u03A3' then [lowerSigma before (cs ++ after)] else lowerChar c) ++
      lowerBetween (c :: before) cs after

/-- Whether the nearest character that is not passed over has a case, if there is such a character. -/
def nextCase? (cs : List Char) : Option Bool := (cs.find? (!isCaseIgnorable ·)).map isCased

/-- A sigma between two texts whose lowercase they settle: nothing cased precedes it, or something cased
follows it, or neither text is passed over as a whole. -/
def SettledSigma (before after : List Char) : Prop :=
  nextCase? before = some false ∨ nextCase? after = some true ∨
    (nextCase? before).isSome ∧ (nextCase? after).isSome

/-- A text that settles the lowercase of each of its sigmas. -/
def Settled (cs : List Char) : Prop :=
  ∀ before after, cs = before ++ '\u03A3' :: after → SettledSigma before.reverse after

variable {c : Char} {cs ds before before' after after' : List Char}

theorem lowerBetween_append (before cs ds after : List Char) :
    lowerBetween before (cs ++ ds) after =
      lowerBetween before cs (ds ++ after) ++ lowerBetween (cs.reverse ++ before) ds after := by
  induction cs generalizing before with
  | nil => rfl
  | cons c cs ih =>
    simp only [List.cons_append, lowerBetween, ih, List.append_assoc, List.reverse_cons,
      List.nil_append]

theorem lowerBetween_nil (before cs : List Char) : lowerBetween before cs [] = lowerAfter before cs := by
  induction cs generalizing before with
  | nil => rfl
  | cons c cs ih => rw [lowerBetween, lowerAfter, ih, List.append_nil]

/-- The lowercase of a text holds that of each piece, as the piece stands in the text. -/
theorem lower_append (before cs after : List Char) :
    lower (before ++ cs ++ after) =
      lowerBetween [] before (cs ++ after) ++ lowerBetween before.reverse cs after ++
        lowerBetween (before ++ cs).reverse after [] := by
  rw [lower, ← lowerBetween_nil, lowerBetween_append, lowerBetween_append]
  simp

theorem nextIsCased_eq (cs : List Char) : nextIsCased cs = (nextCase? cs).getD false := by
  induction cs with
  | nil => rfl
  | cons c cs ih =>
    unfold nextIsCased nextCase? at ih ⊢
    cases hc : isCaseIgnorable c with
    | true => simpa [hc] using ih
    | false => simp [hc]

theorem nextIsCased_append (cs ds : List Char) :
    nextIsCased (cs ++ ds) = (nextCase? cs).getD (nextIsCased ds) := by
  rw [nextIsCased_eq, nextIsCased_eq, nextCase?, nextCase?, nextCase?, List.find?_append]
  cases cs.find? (!isCaseIgnorable ·) <;> rfl

theorem nextIsCased_letter : nextIsCased ['a'] = true := by
  have hi : isCaseIgnorable 'a' = false := not_isCaseIgnorable_of_isLetter (by decide)
  have hc : isCased 'a' = true := by
    rw [isCased, inRanges_eq_any_toList]
    decide +kernel
  rw [nextIsCased, List.dropWhile_cons_of_neg (by simp [hi])]
  exact hc

theorem lowerSigma_of_settledSigma (h : SettledSigma before after) (before' after' : List Char) :
    lowerSigma (before ++ before') (after ++ after') = lowerSigma before after := by
  simp only [lowerSigma, nextIsCased_append, nextIsCased_eq before, nextIsCased_eq after]
  rcases h with hb | ha | ⟨hb, ha⟩
  · simp [hb]
  · simp [ha]
  · obtain ⟨b, hb⟩ := Option.isSome_iff_exists.mp hb
    obtain ⟨a, ha⟩ := Option.isSome_iff_exists.mp ha
    simp [hb, ha]

theorem lowerBetween_of_settledSigma
    (h : ∀ front back, cs = front ++ '\u03A3' :: back → SettledSigma (front.reverse ++ before) back)
    (before' after : List Char) :
    lowerBetween (before ++ before') cs after = lowerBetween before cs [] := by
  induction cs generalizing before with
  | nil => rfl
  | cons c cs ih =>
    have hrest := @ih (c :: before) fun front back he => by
      have hs := h (c :: front) back (congrArg (c :: ·) he)
      simpa using hs
    rw [lowerBetween, lowerBetween, List.append_nil, ← List.cons_append, hrest]
    congr 1
    by_cases hc : c = '\u03A3'
    · have hs : SettledSigma before cs := h [] cs (congrArg (· :: cs) hc)
      rw [if_pos hc, if_pos hc, lowerSigma_of_settledSigma hs]
    · rw [if_neg hc, if_neg hc]

/-- The lowercase of a settled text is in the lowercase of every text around it. -/
theorem lower_infix_of_settled (h : Settled cs) (before after : List Char) :
    lower cs <:+: lower (before ++ cs ++ after) := by
  have hs : lowerBetween before.reverse cs after = lower cs := by
    have hfixed : lowerBetween ([] ++ before.reverse) cs after = lowerBetween [] cs [] :=
      lowerBetween_of_settledSigma (fun front back he => by simpa using h front back he) _ after
    rw [lower, ← lowerBetween_nil, ← hfixed, List.nil_append]
  rw [lower_append, hs]
  exact ⟨_, _, rfl⟩

/-- A lowercase that a sigma gets in one pair of texts only where it gets it in another is not more
frequent there. -/
theorem count_lowerBetween_le {x : Char}
    (h : ∀ front back, lowerSigma (front ++ before') (back ++ after') = x →
      lowerSigma (front ++ before) (back ++ after) = x) (cs : List Char) :
    (lowerBetween before' cs after').count x ≤ (lowerBetween before cs after).count x := by
  induction cs generalizing before before' with
  | nil => exact Nat.le_refl _
  | cons c cs ih =>
    have hrest := @ih (c :: before) (c :: before') fun front back he => by
      have hs := h (front ++ [c]) back (by simpa using he)
      simpa using hs
    rw [lowerBetween, lowerBetween, List.count_append, List.count_append]
    refine Nat.add_le_add ?_ hrest
    by_cases hc : c = '\u03A3'
    · rw [if_pos hc, if_pos hc, List.count_singleton, List.count_singleton]
      by_cases he : lowerSigma before' (cs ++ after') = x
      · have hs : lowerSigma before (cs ++ after) = x := h [] cs he
        exact Nat.le_of_eq (by rw [he, hs])
      · rw [if_neg (by simpa using he)]
        exact Nat.zero_le _
    · exact Nat.le_of_eq (by rw [if_neg hc, if_neg hc])

theorem count_lowerBetween_lt {x : Char}
    (h : ∀ front back, lowerSigma (front ++ before') (back ++ after') = x →
      lowerSigma (front ++ before) (back ++ after) = x)
    (hn : lowerSigma (cs.reverse ++ before') (ds ++ after') ≠ x)
    (hx : lowerSigma (cs.reverse ++ before) (ds ++ after) = x) :
    (lowerBetween before' (cs ++ '\u03A3' :: ds) after').count x <
      (lowerBetween before (cs ++ '\u03A3' :: ds) after).count x := by
  have hfront : (lowerBetween before' cs ('\u03A3' :: ds ++ after')).count x ≤
      (lowerBetween before cs ('\u03A3' :: ds ++ after)).count x := by
    refine count_lowerBetween_le (fun front back he => ?_) cs
    simpa using h front (back ++ '\u03A3' :: ds) (by simpa using he)
  have hback : (lowerBetween ('\u03A3' :: (cs.reverse ++ before')) ds after').count x ≤
      (lowerBetween ('\u03A3' :: (cs.reverse ++ before)) ds after).count x := by
    refine count_lowerBetween_le (fun front back he => ?_) ds
    simpa using h (front ++ '\u03A3' :: cs.reverse) back (by simpa using he)
  rw [lowerBetween_append, lowerBetween_append, lowerBetween, lowerBetween, if_pos rfl, if_pos rfl, hx]
  simp only [List.count_append, List.count_singleton_self, List.count_singleton, beq_iff_eq, hn,
    if_false]
  omega

theorem lowerSigma_final_iff (before after : List Char) :
    lowerSigma before after = '\u03C2' ↔ nextIsCased before = true ∧ nextIsCased after = false := by
  unfold lowerSigma
  cases nextIsCased before <;> cases nextIsCased after <;> decide

theorem lowerSigma_inner_iff (before after : List Char) :
    lowerSigma before after = '\u03C3' ↔ (nextIsCased before = true → nextIsCased after = true) := by
  unfold lowerSigma
  cases nextIsCased before <;> cases nextIsCased after <;> decide

theorem nextIsCased_append_of_cased (h : nextIsCased cs = true) (ds : List Char) :
    nextIsCased (cs ++ ds) = true := by
  rw [nextIsCased_eq] at h
  rw [nextIsCased_append]
  cases hc : nextCase? cs with
  | none => simp [hc] at h
  | some cased => simpa [hc] using h

theorem lowerBetween_letter (before after : List Char) : lowerBetween before ['a'] after = ['a'] := by
  have hl : lowerChar 'a' = ['a'] := by decide
  rw [lowerBetween, lowerBetween, if_neg (by decide), hl]
  rfl

/-- A text with fewer of a character in its place than by itself is not found there. -/
theorem not_lower_infix_of_count_lt {x : Char}
    (h : (lowerBetween before.reverse cs after).count x < (lower cs).count x)
    (hb : x ∉ lowerBetween [] before (cs ++ after))
    (ha : x ∉ lowerBetween (before ++ cs).reverse after []) :
    ¬lower cs <:+: lower (before ++ cs ++ after) := by
  intro hin
  have hle := hin.sublist.count_le x
  rw [lower_append, List.count_append, List.count_append, List.count_eq_zero_of_not_mem hb,
    List.count_eq_zero_of_not_mem ha] at hle
  omega

/-- A letter before a text makes a sigma final that nothing but passed over characters precede in the
text, and nothing cased follows. -/
theorem not_lower_infix_after_letter (hc : nextCase? cs.reverse = none) (hd : nextCase? ds ≠ some true) :
    ¬lower (cs ++ '\u03A3' :: ds) <:+: lower (['a'] ++ (cs ++ '\u03A3' :: ds) ++ []) := by
  have hfollows : nextIsCased ds = false := by
    rw [nextIsCased_eq]
    cases hcase : nextCase? ds with
    | none => rfl
    | some cased => cases cased <;> simp_all
  have hcount : (lowerBetween ['a'] (cs ++ '\u03A3' :: ds) []).count '\u03C3' <
      (lowerBetween [] (cs ++ '\u03A3' :: ds) []).count '\u03C3' := by
    refine count_lowerBetween_lt (fun front back hs => ?_) ?_ ?_
    · rw [lowerSigma_inner_iff] at hs ⊢
      intro hcased
      rw [List.append_nil] at hcased
      exact hs (nextIsCased_append_of_cased hcased _)
    · rw [ne_eq, lowerSigma_inner_iff, nextIsCased_append, hc, List.append_nil, hfollows]
      simp [nextIsCased_letter]
    · rw [lowerSigma_inner_iff, List.append_nil, nextIsCased_eq, hc]
      simp
  rw [lowerBetween_nil [] _] at hcount
  refine not_lower_infix_of_count_lt hcount ?_ List.not_mem_nil
  rw [lowerBetween_letter]
  decide

/-- A letter after a text keeps a sigma from being final that is so in the text, and that nothing but
passed over characters follow there. -/
theorem not_lower_infix_before_letter (hc : nextCase? cs.reverse = some true) (hd : nextCase? ds = none) :
    ¬lower (cs ++ '\u03A3' :: ds) <:+: lower ([] ++ (cs ++ '\u03A3' :: ds) ++ ['a']) := by
  have hcount : (lowerBetween [] (cs ++ '\u03A3' :: ds) ['a']).count '\u03C2' <
      (lowerBetween [] (cs ++ '\u03A3' :: ds) []).count '\u03C2' := by
    refine count_lowerBetween_lt (fun front back hs => ?_) ?_ ?_
    · rw [lowerSigma_final_iff] at hs ⊢
      refine ⟨hs.1, Bool.eq_false_iff.mpr fun hcased => ?_⟩
      rw [List.append_nil] at hcased
      rw [nextIsCased_append_of_cased hcased] at hs
      cases hs.2
    · rw [ne_eq, lowerSigma_final_iff, nextIsCased_append ds, hd]
      simp [nextIsCased_letter]
    · rw [lowerSigma_final_iff, List.append_nil, List.append_nil, nextIsCased_eq, nextIsCased_eq, hc, hd]
      simp
  rw [lowerBetween_nil [] _] at hcount
  refine not_lower_infix_of_count_lt hcount List.not_mem_nil ?_
  rw [lowerBetween_letter]
  decide

/-- A text that is not settled has a text around it in whose lowercase its own is not found. -/
theorem exists_not_lower_infix (h : ¬Settled cs) :
    ∃ before after, ¬lower cs <:+: lower (before ++ cs ++ after) := by
  simp only [Settled, Classical.not_forall] at h
  obtain ⟨front, back, rfl, hs⟩ := h
  simp only [SettledSigma, not_or, not_and] at hs
  obtain ⟨hfront, hback, hnone⟩ := hs
  cases hcase : nextCase? front.reverse with
  | none =>
    exact ⟨['a'], [], not_lower_infix_after_letter hcase hback⟩
  | some cased =>
    obtain rfl : cased = true := by
      cases cased with
      | true => rfl
      | false => exact absurd hcase hfront
    refine ⟨[], ['a'], not_lower_infix_before_letter hcase ?_⟩
    simpa [hcase] using hnone

end Calculator.Text
