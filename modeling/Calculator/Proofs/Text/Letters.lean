import Calculator.Proofs.Text.LetterCase

/-!
Letters stay letters in the lowercase of a word, but for the dotted capital I: its lowercase is an i with
a dot above, and the dot by itself is no letter.
-/

namespace Calculator.Text

variable {c d : Char} {cs before : List Char}

theorem inRanges_iff {ranges : Array (Nat × Nat)} : inRanges ranges c = true ↔
    ∃ range ∈ ranges.toList, range.1 ≤ c.toNat ∧ c.toNat ≤ range.2 := by
  rw [inRanges_eq_any_toList, List.any_eq_true]
  simp only [Bool.and_eq_true, decide_eq_true_eq]

/-- What remains of some ranges when those that lie within others are taken away from the front, and
nothing remains in the end, lies within the others. -/
theorem exists_around_of_foldl {outer inner : List (Nat × Nat)}
    (h : outer.foldl (fun left (first, last) =>
      left.dropWhile fun range => first ≤ range.1 && range.2 ≤ last) inner = []) :
    ∀ range ∈ inner, ∃ around ∈ outer, around.1 ≤ range.1 ∧ range.2 ≤ around.2 := by
  induction outer generalizing inner with
  | nil =>
    obtain rfl : inner = [] := h
    exact fun _ hr => nomatch hr
  | cons around outer ih =>
    intro range hr
    rw [← List.takeWhile_append_dropWhile
      (p := fun range : Nat × Nat => decide (around.1 ≤ range.1) && decide (range.2 ≤ around.2))
      (l := inner)] at hr
    rcases List.mem_append.mp hr with hr | hr
    · have hw := List.all_eq_true.mp List.all_takeWhile range hr
      exact ⟨around, List.mem_cons_self, by simpa using hw⟩
    · obtain ⟨other, ho, hw⟩ := ih h range hr
      exact ⟨other, List.mem_cons_of_mem around ho, hw⟩

theorem casedRanges_within_alphabeticRanges :
    alphabeticRanges.toList.foldl (fun left (first, last) =>
      left.dropWhile fun range => first ≤ range.1 && range.2 ≤ last) casedRanges.toList = [] := by
  decide +kernel

theorem isAlphabetic_of_isCased (h : isCased c = true) : isAlphabetic c = true := by
  obtain ⟨range, hr, hfirst, hlast⟩ := inRanges_iff.mp h
  obtain ⟨around, ha, hbelow, habove⟩ :=
    exists_around_of_foldl casedRanges_within_alphabeticRanges range hr
  have hin : inRanges alphabeticRanges c = true :=
    inRanges_iff.mpr ⟨around, ha, by omega, by omega⟩
  rw [isAlphabetic, hin, Bool.or_true]

/-- The lowercase of each run of capitals lies in one range of cased characters, on one side of the
numbers that are no characters. -/
theorem lowercaseRuns_into_casedRanges :
    lowercaseRuns.toList.all (fun run => casedRanges.toList.any fun (first, last) =>
      (run.last + run.distance).toNat ≤ last && first ≤ (run.first + run.distance).toNat &&
        (last < 0xD800 || (0xDFFF < first && last < 0x110000))) = true := by
  decide +kernel

theorem isCased_lower_of_covers {run : CaseRun} (hr : run ∈ lowercaseRuns) (hc : run.covers c = true) :
    isCased (run.lower c) = true := by
  have htarget := List.all_eq_true.mp lowercaseRuns_into_casedRanges run hr.val
  obtain ⟨⟨first, last⟩, hm, hw⟩ := List.any_eq_true.mp htarget
  simp only [Bool.and_eq_true, Bool.or_eq_true, decide_eq_true_eq] at hw
  simp only [CaseRun.covers, Bool.and_eq_true, decide_eq_true_eq] at hc
  have hn : ((c.toNat + run.distance).toNat).isValidChar := by
    unfold Nat.isValidChar
    omega
  have hl : (run.lower c).toNat = (c.toNat + run.distance).toNat := by
    rw [CaseRun.lower, Char.ofNat, dif_pos hn]
    rfl
  refine inRanges_iff.mpr ⟨(first, last), hm, ?_⟩
  rw [hl]
  omega

theorem isAlphabetic_toLower (h : isAlphabetic c = true) : isAlphabetic c.toLower = true := by
  by_cases hc : 65 ≤ c.toNat ∧ c.toNat ≤ 90
  · have hletters : ∀ n : Fin 26, (Char.ofNat (65 + n)).toLower.isAlpha = true := by decide
    have hl := hletters ⟨c.toNat - 65, by omega⟩
    have hn : 65 + (c.toNat - 65) = c.toNat := by omega
    simp only [hn, Char.ofNat_toNat] at hl
    exact isAlphabetic_of_isAlpha _ hl
  · have hsame : c.toLower = c := by
      unfold Char.toLower
      exact dif_neg hc
    rw [hsame]
    exact h

/-- The lowercase of a letter is a letter, unless it is two characters. -/
theorem isAlphabetic_of_mem_lowerChar (h : isAlphabetic c = true) (hc : c ≠ '\u0130')
    (hd : d ∈ lowerChar c) : isAlphabetic d = true := by
  unfold lowerChar at hd
  split at hd
  · rw [List.mem_singleton.mp hd]
    exact isAlphabetic_toLower h
  · split at hd
    next run hf =>
      have hr : run ∈ lowercaseRuns := Array.mem_of_find?_eq_some hf
      have hcovers := Array.find?_some hf
      rw [List.mem_singleton.mp hd]
      exact isAlphabetic_of_isCased (isCased_lower_of_covers hr hcovers)
    next =>
      rw [List.mem_singleton.mp hd]
      exact h

theorem isAlphabetic_lowerSigma (before after : List Char) :
    isAlphabetic (lowerSigma before after) = true := by
  have hrange : casedRanges.toList.any (fun (first, last) => first ≤ 0x3C2 && 0x3C3 ≤ last) = true := by
    decide +kernel
  obtain ⟨⟨first, last⟩, hm, hw⟩ := List.any_eq_true.mp hrange
  simp only [Bool.and_eq_true, decide_eq_true_eq] at hw
  refine isAlphabetic_of_isCased (inRanges_iff.mpr ⟨(first, last), hm, ?_⟩)
  unfold lowerSigma
  split
  · exact ⟨hw.1, Nat.le_of_succ_le hw.2⟩
  · exact ⟨Nat.le_succ_of_le hw.1, hw.2⟩

theorem isAlphabetic_of_mem_lowerAfter (h : ∀ c ∈ cs, isAlphabetic c = true) (hc : '\u0130' ∉ cs)
    (hd : d ∈ lowerAfter before cs) : isAlphabetic d = true := by
  induction cs generalizing before with
  | nil => nomatch hd
  | cons c cs ih =>
    obtain ⟨hne, hcs⟩ := not_or.mp (mt List.mem_cons.mpr hc)
    rw [lowerAfter] at hd
    rcases List.mem_append.mp hd with hd | hd
    · split at hd
      · rw [List.mem_singleton.mp hd]
        exact isAlphabetic_lowerSigma before cs
      · exact isAlphabetic_of_mem_lowerChar (h c List.mem_cons_self) (Ne.symm hne) hd
    · exact ih (fun other ho => h other (List.mem_cons_of_mem c ho)) hcs hd

/-- The dot above is left of every dotted capital I. -/
theorem dot_mem_lowerAfter (h : '\u0130' ∈ cs) (before : List Char) :
    '\u0307' ∈ lowerAfter before cs := by
  induction cs generalizing before with
  | nil => nomatch h
  | cons c cs ih =>
    rw [lowerAfter]
    rcases List.mem_cons.mp h with rfl | h
    · rw [if_neg (by decide)]
      exact List.mem_append_left _ (by decide)
    · exact List.mem_append_right _ (ih h _)

theorem isAlphabetic_dot : isAlphabetic '\u0307' = false := by
  have hr : inRanges alphabeticRanges '\u0307' = false := by
    rw [inRanges_eq_any_toList]
    decide +kernel
  simp [isAlphabetic, hr]

theorem lowerAfter_ne_nil (h : cs ≠ []) (before : List Char) : lowerAfter before cs ≠ [] := by
  cases cs with
  | nil => exact absurd rfl h
  | cons c cs =>
    rw [lowerAfter]
    refine List.append_ne_nil_of_left_ne_nil ?_ _
    unfold lowerChar
    repeat' split
    all_goals exact List.cons_ne_nil _ _

/-- A word of letters stays one in lower case if there is no dotted capital I in it. -/
theorem isAlphabeticWord_lower_iff (h : isAlphabeticWord cs = true) :
    isAlphabeticWord (lower cs) = true ↔ '\u0130' ∉ cs := by
  simp only [isAlphabeticWord, Bool.and_eq_true, Bool.not_eq_true', List.isEmpty_eq_false_iff,
    List.all_eq_true] at h ⊢
  constructor
  · rintro ⟨-, hall⟩ hc
    have hdot := hall '\u0307' (dot_mem_lowerAfter hc [])
    rw [isAlphabetic_dot] at hdot
    cases hdot
  · intro hc
    exact ⟨lowerAfter_ne_nil h.1 [], fun d hd => isAlphabetic_of_mem_lowerAfter h.2 hc hd⟩

end Calculator.Text
