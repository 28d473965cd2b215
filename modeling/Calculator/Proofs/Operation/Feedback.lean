import Calculator.Expression.Basic
import Calculator.Proofs.Number.ReadBack
import Calculator.Proofs.Operation.Outcomes

/-!
Results as operands: the text of a finite number is a numeral of the same number wherever numerals are
read. An expression takes it unless it has an exponent.
-/

namespace Calculator

namespace Numeral

open Expression (isAllowed)

variable {cs : List Char}

theorem isAllowed_of_isPositional (h : IsPositional cs) : ∀ c ∈ cs, isAllowed c = true := by
  obtain ⟨negative, l, -, rfl⟩ := h
  intro c hc
  rcases List.mem_append.mp hc with hc | hc
  · cases negative with
    | true => simp [isAllowed, List.mem_singleton.mp hc]
    | false => contradiction
  · rcases Literal.mem_chars hc with hd | rfl
    · simp [isAllowed, hd]
    · decide

theorem e_mem_of_isScientific (h : IsScientific cs) : 'e' ∈ cs := by
  obtain ⟨negative, l, e, -, -, rfl⟩ := h
  simp [Exponent.chars]

end Numeral

namespace Operation

variable {args before after : List String} {values xs ys : List Binary64} {x : Binary64}
  {least position : Nat} {tooFew arg : String}

theorem reads_append (hx : Numeral.read? arg.toList = some x) (hb : Reads before xs)
    (ha : Reads after ys) : Reads (before ++ arg :: after) (xs ++ x :: ys) := by
  unfold Reads at hb ha ⊢
  rw [List.map_append, List.map_append, List.map_cons, List.map_cons, hx, hb, ha]

theorem parseOperands_of_reads (h : Reads args values) (hl : least ≤ args.length) :
    parseOperands args least tooFew = .ok values := by
  rw [parseOperands, if_neg (Nat.not_lt.mpr hl)]
  exact readOperands_of_reads h 1

/-- An argument that is refused is no numeral. -/
theorem unread_of_parseOperands
    (h : parseOperands args least tooFew = .error (.invalidNumber position arg)) :
    Numeral.read? arg.toList = none := by
  unfold parseOperands at h
  split at h
  · cases h
  · rcases reads_or_unread args with ⟨values, hr⟩ | ⟨before, unread, after, rfl, hb, hn⟩
    · rw [readOperands_of_reads hr] at h
      cases h
    · rw [readOperands_of_unread hb hn] at h
      cases h
      exact hn

/-- The text of a finite number is read as the same number, by itself and as an operand among any others;
it has one of two forms, and all its characters can stand in an expression if and only if it has no
exponent. -/
theorem text_reads_back (hx : x.isFinite = true) :
    Numeral.read? x.text.toList = some x ∧
    (∀ before after xs ys least tooFew, Reads before xs → Reads after ys →
      least ≤ (before ++ x.text :: after).length →
      parseOperands (before ++ x.text :: after) least tooFew = .ok (xs ++ x :: ys)) ∧
    (∀ args least tooFew position,
      parseOperands args least tooFew ≠ .error (.invalidNumber position x.text)) ∧
    (Numeral.IsPositional x.text.toList ∨ Numeral.IsScientific x.text.toList) ∧
    ((∀ c ∈ x.text.toList, Expression.isAllowed c = true) ↔ ¬ Numeral.IsScientific x.text.toList) := by
  have htext : x.text.toList = x.written := String.toList_ofList
  have hread : Numeral.read? x.text.toList = some x := htext ▸ Binary64.read?_written hx
  have hform := Binary64.form_of_written hx
  rw [← htext] at hform
  refine ⟨hread, ?_, ?_, hform, ?_, ?_⟩
  · intro before after xs ys least tooFew hb ha hl
    exact parseOperands_of_reads (reads_append hread hb ha) hl
  · intro args least tooFew position h
    rw [unread_of_parseOperands h] at hread
    cases hread
  · intro hallowed hscientific
    exact absurd (hallowed 'e' (Numeral.e_mem_of_isScientific hscientific)) (by decide)
  · intro hscientific
    exact Numeral.isAllowed_of_isPositional (hform.resolve_right hscientific)

/-- `-2.5e-7`, after an operand of another form. -/
theorem text_reads_back_with_exponent :
    (Binary64.ofDecimal true 25 (-8)).text = "-2.5e-07" ∧
    parseOperands ["+1.", "-2.5e-07"] 2 "" = .ok [.one, .ofDecimal true 25 (-8)] ∧
    Numeral.IsScientific "-2.5e-07".toList := by
  have ht : (Binary64.ofDecimal true 25 (-8)).text = "-2.5e-07" := by decide +kernel
  have hf : (Binary64.ofDecimal true 25 (-8)).isFinite = true := by decide +kernel
  obtain ⟨-, hparse, -, -, hallowed⟩ := text_reads_back hf
  rw [ht] at hparse hallowed
  refine ⟨ht, ?_, ?_⟩
  · apply hparse ["+1."] [] [.one] [] 2 ""
    · unfold Reads
      decide +kernel
    · rfl
    · decide
  · by_contra h
    exact absurd (hallowed.mpr h 'e' (by decide)) (by decide)

end Operation

end Calculator
