import Calculator.Text.Lowercase

/-!
The case of ASCII letters is lost in the lowercase of a text, also where the lowercase of a character
depends on its neighbours: both forms of a letter have a case, and neither is passed over.
-/

namespace Calculator.Text

/-- A letter of the ASCII range. -/
def IsLetter (c : Char) : Prop :=
  65 ≤ c.toNat ∧ c.toNat ≤ 90 ∨ 97 ≤ c.toNat ∧ c.toNat ≤ 122

instance (c : Char) : Decidable (IsLetter c) :=
  inferInstanceAs (Decidable (65 ≤ c.toNat ∧ c.toNat ≤ 90 ∨ 97 ≤ c.toNat ∧ c.toNat ≤ 122))

theorem toUpper_of_not_isLetter {c : Char} (hc : ¬ IsLetter c) : c.toUpper = c := by
  unfold Char.toUpper
  exact dif_neg fun hlower => hc (.inr hlower)

/-- What is the same for the two forms of each letter does not see case. -/
theorem apply_toUpper {α : Type} (f : Char → α)
    (h : ∀ n : Fin 26, f (Char.ofNat (97 + n)).toUpper = f (Char.ofNat (97 + n))) (c : Char) :
    f c.toUpper = f c := by
  by_cases hc : 97 ≤ c.toNat ∧ c.toNat ≤ 122
  · obtain ⟨hfirst, hlast⟩ := hc
    have hn : 97 + (c.toNat - 97) = c.toNat := by omega
    have hletter := h ⟨c.toNat - 97, by omega⟩
    simp only [hn, Char.ofNat_toNat] at hletter
    exact hletter
  · have hsame : c.toUpper = c := by
      unfold Char.toUpper
      exact dif_neg hc
    rw [hsame]

theorem isLetter_toUpper (c : Char) : IsLetter c.toUpper ↔ IsLetter c := by
  have h := apply_toUpper (fun c => decide (IsLetter c)) (by decide) c
  simpa using h

theorem lowerChar_toUpper (c : Char) : lowerChar c.toUpper = lowerChar c :=
  apply_toUpper lowerChar (by decide +kernel) c

theorem toUpper_eq_sigma (c : Char) : c.toUpper = '\u03A3' ↔ c = '\u03A3' := by
  have h := apply_toUpper (fun c => decide (c = '\u03A3')) (by decide) c
  simpa using h

theorem isCased_toUpper (c : Char) : isCased c.toUpper = isCased c :=
  apply_toUpper isCased (by decide +kernel) c

theorem caseIgnorableRanges_hold_no_letter :
    caseIgnorableRanges.toList.all (fun (first, last) =>
      last < 65 || (90 < first && last < 97) || 122 < first) = true := by
  decide +kernel

theorem not_isCaseIgnorable_of_isLetter {c : Char} (hc : IsLetter c) : isCaseIgnorable c = false := by
  have h := caseIgnorableRanges_hold_no_letter
  rw [List.all_eq_true] at h
  rw [isCaseIgnorable, inRanges, Array.any_eq_false']
  rintro ⟨first, last⟩ hm
  have hr := h _ hm.val
  simp only [Bool.or_eq_true, Bool.and_eq_true, decide_eq_true_eq] at hr
  unfold IsLetter at hc
  simp only [Bool.and_eq_true, decide_eq_true_eq]
  omega

theorem isCaseIgnorable_toUpper (c : Char) : isCaseIgnorable c.toUpper = isCaseIgnorable c := by
  by_cases hc : IsLetter c
  · rw [not_isCaseIgnorable_of_isLetter ((isLetter_toUpper c).mpr hc),
      not_isCaseIgnorable_of_isLetter hc]
  · rw [toUpper_of_not_isLetter hc]

theorem nextIsCased_map_toUpper (cs : List Char) :
    nextIsCased (cs.map Char.toUpper) = nextIsCased cs := by
  have hp : isCaseIgnorable ∘ Char.toUpper = isCaseIgnorable := by
    funext c
    rw [Function.comp_apply, isCaseIgnorable_toUpper]
  unfold nextIsCased
  rw [List.dropWhile_map, hp]
  cases cs.dropWhile isCaseIgnorable with
  | nil => rfl
  | cons c rest => exact isCased_toUpper c

theorem lowerAfter_map_toUpper (before cs : List Char) :
    lowerAfter (before.map Char.toUpper) (cs.map Char.toUpper) = lowerAfter before cs := by
  induction cs generalizing before with
  | nil => rfl
  | cons c cs ih =>
    have hrest := ih (c :: before)
    rw [List.map_cons] at hrest
    rw [List.map_cons, lowerAfter, lowerAfter, hrest]
    congr 1
    by_cases hc : c = '\u03A3'
    · rw [if_pos hc, if_pos ((toUpper_eq_sigma c).mpr hc), lowerSigma, lowerSigma,
        nextIsCased_map_toUpper, nextIsCased_map_toUpper]
    · rw [if_neg hc, if_neg (mt (toUpper_eq_sigma c).mp hc), lowerChar_toUpper]

theorem lower_eq_of_map_toUpper_eq {cs ds : List Char}
    (h : cs.map Char.toUpper = ds.map Char.toUpper) : lower cs = lower ds := by
  calc lower cs = lowerAfter [] (cs.map Char.toUpper) := (lowerAfter_map_toUpper [] cs).symm
    _ = lowerAfter [] (ds.map Char.toUpper) := by rw [h]
    _ = lower ds := lowerAfter_map_toUpper [] ds

theorem sameLetters_congr {cs ds : List Char} (h : cs.map Char.toUpper = ds.map Char.toUpper)
    (text : String) :
    sameLetters (String.ofList cs) text = sameLetters (String.ofList ds) text := by
  unfold sameLetters asciiUpper
  rw [String.toList_ofList, String.toList_ofList, h]

theorem inRanges_eq_any_toList (ranges : Array (Nat × Nat)) (c : Char) :
    inRanges ranges c = ranges.toList.any fun (first, last) => first ≤ c.toNat && c.toNat ≤ last := by
  rw [inRanges, Array.any_toList]

theorem isAlphabeticWord_zero : isAlphabeticWord "0".toList = false := by
  have hr : inRanges alphabeticRanges '0' = false := by
    rw [inRanges_eq_any_toList]
    decide +kernel
  simp [isAlphabeticWord, isAlphabetic, hr]

end Calculator.Text
