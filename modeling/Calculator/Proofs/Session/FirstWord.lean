import Calculator.Proofs.Session.Spacing
import Calculator.Proofs.Text.Letters

/-!
Lines that begin with a word of letters. They go to a command, whatever operators follow the word, but
for a word with a dotted capital I, which is not all letters any more in lower case.
-/

namespace Calculator.Route

variable {isRegistered : String → Bool} {line : String} {first : List Char} {rest : List (List Char)}

/-- Which lines go to the evaluator. -/
theorem exists_expression_iff : (∃ text, ofLine isRegistered line = expression text) ↔
    hasOperator line.toList = true ∧ isRegistered (call isRegistered line).1 = false ∧
      Text.isAlphabeticWord (call isRegistered line).1.toList = false := by
  rw [← hasOperator_filter, ← hasOperator_trim]
  constructor
  · rintro ⟨text, h⟩
    unfold ofLine at h
    dsimp only at h
    rw [splitCommand_trim] at h
    split at h
    · cases h
    · split at h
      · cases h
      · split at h
        next hc =>
          simp only [Bool.and_eq_true, Bool.not_eq_true'] at hc
          exact ⟨hc.1.2, hc.1.1, hc.2⟩
        next => cases h
  · rintro ⟨ho, hr, hw⟩
    exact ⟨_, ofLine_of_operator ho hr hw⟩

/-- A name is joined with a verb to a registered name only, and that name is `history`. -/
theorem joinVerb_cases (isRegistered : String → Bool) (name : String) (rest : List String) :
    (joinVerb isRegistered name rest).1 = name ∨
      name = "history" ∧ isRegistered (joinVerb isRegistered name rest).1 = true := by
  cases rest with
  | nil => exact .inl rfl
  | cons verb rest =>
    unfold joinVerb
    dsimp only
    split
    next hj => exact .inr hj
    next => exact .inl rfl

/-- A line whose first word is all letters goes to the evaluator only if there is a dotted capital I in
the word, and then exactly if it has an operator and the word is no registered name in lower case. -/
theorem word_is_expression_iff (hw : Text.words line.toList = first :: rest)
    (ha : Text.isAlphabeticWord first = true) :
    (∃ text, ofLine isRegistered line = expression text) ↔
      '\u0130' ∈ first ∧ hasOperator line.toList = true ∧
        isRegistered (String.ofList (Text.lower first)) = false := by
  have hcall : (call isRegistered line).1 = (joinVerb isRegistered (String.ofList (Text.lower first))
      (rest.map String.ofList)).1 := by
    unfold call splitCommand
    rw [hw]
  rw [exists_expression_iff, hcall]
  have hlower := Text.isAlphabeticWord_lower_iff ha
  rcases joinVerb_cases isRegistered (String.ofList (Text.lower first)) (rest.map String.ofList) with
    hname | ⟨hhistory, hreg⟩
  · rw [hname, String.toList_ofList]
    constructor
    · rintro ⟨ho, hr, hn⟩
      rw [hn] at hlower
      exact ⟨by simpa using hlower, ho, hr⟩
    · rintro ⟨hi, ho, hr⟩
      exact ⟨ho, hr, Bool.eq_false_iff.mpr fun hall => hlower.mp hall hi⟩
  · rw [hreg]
    constructor
    · rintro ⟨-, hr, -⟩
      cases hr
    · rintro ⟨hi, -, -⟩
      have hdot : '\u0307' ∈ Text.lower first := Text.dot_mem_lowerAfter hi []
      have hh := congrArg String.toList hhistory
      rw [String.toList_ofList] at hh
      rw [hh] at hdot
      exact absurd hdot (by decide)

/-- Two words with a minus between them. -/
theorem hello_is_no_expression : Text.words "hello - world".toList =
      ["hello".toList, "-".toList, "world".toList] ∧
    Text.isAlphabeticWord "hello".toList = true ∧
    ¬∃ text, ofLine (fun _ => false) "hello - world" = expression text := by
  have hw : Text.words "hello - world".toList =
      ["hello".toList, "-".toList, "world".toList] := by decide
  have ha : Text.isAlphabeticWord "hello".toList = true := by decide
  refine ⟨hw, ha, fun h => ?_⟩
  have hi := ((word_is_expression_iff hw ha).mp h).1
  exact absurd hi (by decide)

theorem isAlphabeticWord_dotted : Text.isAlphabeticWord ['\u0130'] = true := by
  have hr : Text.inRanges Text.alphabeticRanges '\u0130' = true := by
    rw [Text.inRanges_eq_any_toList]
    decide +kernel
  simp [Text.isAlphabeticWord, Text.isAlphabetic, hr]

/-- The letter `İ` by itself is taken for an expression when a minus follows. -/
theorem dotted_letter_is_expression : ¬∀ (isRegistered : String → Bool) (line : String)
    (first : List Char) (rest : List (List Char)), Text.words line.toList = first :: rest →
    Text.isAlphabeticWord first = true → ∀ text, ofLine isRegistered line ≠ expression text := by
  intro h
  have hw : Text.words "İ - 1".toList = [['\u0130'], ['-'], ['1']] := by decide
  have hnone := h (fun _ => false) "İ - 1" _ _ hw isAlphabeticWord_dotted
  have hdot := Text.isAlphabeticWord_lower_iff isAlphabeticWord_dotted
  have hcall : (call (fun _ => false) "İ - 1").1.toList = Text.lower ['\u0130'] := by decide
  refine hnone _ (ofLine_of_operator (by decide) rfl ?_)
  rw [hcall, Bool.eq_false_iff]
  exact fun hall => hdot.mp hall (by decide)

end Calculator.Route
