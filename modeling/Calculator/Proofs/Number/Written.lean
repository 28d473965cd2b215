import Mathlib.Tactic.Tauto
import Calculator.Number.Written

/-!
The characters of written numbers. Finite ones have a point or an exponent among them; the others are
words.
-/

namespace Calculator

namespace Decimal

theorem isDigit_of_mem_replicate {c : Char} {n : Nat} (h : c ∈ List.replicate n '0') :
    c.isDigit = true := by
  rw [List.eq_of_mem_replicate h]
  decide

theorem mem_positional {d : Decimal} {c : Char} (h : c ∈ d.positional) : c.isDigit ∨ c = '.' := by
  have hd : ∀ k, ∀ c ∈ List.replicate k '0' ++ Nat.toDigits 10 d.digits, c.isDigit = true := by
    intro k c hc
    rcases List.mem_append.mp hc with hc | hc
    · exact isDigit_of_mem_replicate hc
    · exact Nat.isDigit_of_mem_toDigits (by decide) (by decide) hc
  unfold positional at h
  split at h
  · simp only [List.mem_append] at h
    rcases h with (h | h) | h
    · exact .inl (Nat.isDigit_of_mem_toDigits (by decide) (by decide) h)
    · exact .inl (isDigit_of_mem_replicate h)
    · simp only [List.mem_cons, List.not_mem_nil, or_false] at h
      rcases h with rfl | rfl
      · exact .inr rfl
      · exact .inl (by decide)
  · rcases List.mem_append.mp h with h | h
    · exact .inl (hd _ c (List.mem_of_mem_take h))
    · rcases List.mem_cons.mp h with rfl | h
      · exact .inr rfl
      · exact .inl (hd _ c (List.mem_of_mem_drop h))

theorem mem_scientific {d : Decimal} {n : Nat} {c : Char} (h : c ∈ d.scientific n) :
    c.isDigit ∨ c ∈ ['.', 'e', '-', '+'] := by
  have hd : ∀ n, ∀ c ∈ Nat.toDigits 10 n, c.isDigit = true :=
    fun n c hc => Nat.isDigit_of_mem_toDigits (by decide) (by decide) hc
  unfold scientific at h
  dsimp only at h
  rw [List.append_assoc, List.cons_append, List.cons_append] at h
  rcases List.mem_append.mp h with h | h
  · split at h
    next first second rest hs =>
      have hs' := hd d.digits
      rw [hs] at hs'
      rcases List.mem_cons.mp h with rfl | h
      · exact .inl (hs' _ List.mem_cons_self)
      rcases List.mem_cons.mp h with rfl | h
      · exact .inr (by simp)
      · exact .inl (hs' c (List.mem_cons_of_mem _ h))
    next => exact .inl (hd _ c h)
  rcases List.mem_cons.mp h with rfl | h
  · exact .inr (by simp)
  rcases List.mem_cons.mp h with rfl | h
  · split <;> exact .inr (by simp)
  rcases List.mem_append.mp h with h | h
  · exact .inl (isDigit_of_mem_replicate h)
  · exact .inl (hd _ c h)

theorem mem_write {d : Decimal} {layout : Layout} {c : Char} (h : c ∈ d.write layout) :
    c.isDigit ∨ c ∈ ['.', 'e', '-', '+'] := by
  unfold write at h
  split at h
  · rcases mem_positional h with h | rfl
    · exact .inl h
    · exact .inr (by simp)
  · exact mem_scientific h

theorem point_mem_positional (d : Decimal) : '.' ∈ d.positional := by
  unfold positional
  dsimp only
  split <;> simp

theorem e_mem_scientific (d : Decimal) (n : Nat) : 'e' ∈ d.scientific n := by
  simp [scientific]

theorem point_or_e_mem_write (d : Decimal) (layout : Layout) :
    '.' ∈ d.write layout ∨ 'e' ∈ d.write layout := by
  unfold write
  split
  · exact .inl d.point_mem_positional
  · exact .inr (d.e_mem_scientific _)

theorem write_ne_nil (d : Decimal) (layout : Layout) : d.write layout ≠ [] := by
  unfold write positional scientific
  split
  · split <;> simp
  · simp

end Decimal

namespace Binary64

/-- The written form of magnitude bits that are not those of a NaN. -/
def writtenMagnitude (m : Nat) : List Char :=
  if m = infiniteMagnitude then "inf".toList
  else if m = 0 then "0.0".toList
  else (shortest m).write Layout.result

theorem written_eq {x : Binary64} (h : x.isNaN = false) :
    x.written = (if x.isNegative then ['-'] else []) ++ writtenMagnitude x.magnitude := by
  unfold written writtenMagnitude isInfinite isZero
  simp only [h, Bool.false_eq_true, ↓reduceIte, decide_eq_true_eq]
  split
  · rfl
  · split <;> rfl

theorem mem_written {x : Binary64} {c : Char} (h : c ∈ x.written) :
    c.isDigit ∨ c ∈ ['.', 'e', '-', '+', 'n', 'a', 'i', 'f'] := by
  cases hn : x.isNaN with
  | true =>
    right
    simp only [written, hn, ↓reduceIte, String.reduceToList, List.mem_cons, List.not_mem_nil,
      or_false] at h ⊢
    tauto
  | false =>
    rw [written_eq hn] at h
    rcases List.mem_append.mp h with h | h
    · split at h
      · exact .inr (by simp [List.mem_singleton.mp h])
      · contradiction
    unfold writtenMagnitude at h
    split at h
    · right
      simp only [String.reduceToList, List.mem_cons, List.not_mem_nil] at h ⊢
      tauto
    split at h
    · simp only [String.reduceToList, List.mem_cons, List.not_mem_nil, or_false] at h
      rcases h with rfl | rfl | rfl <;> decide
    · rcases Decimal.mem_write h with h | h
      · exact .inl h
      · simp only [List.mem_cons, List.not_mem_nil] at h ⊢
        tauto

theorem written_ne_nil (x : Binary64) : x.written ≠ [] := by
  cases hn : x.isNaN with
  | true => simp [written, hn]
  | false =>
    rw [written_eq hn]
    refine List.append_ne_nil_of_right_ne_nil _ ?_
    unfold writtenMagnitude
    split
    · simp
    · split
      · simp
      · exact Decimal.write_ne_nil _ _

/-- No number is written with a parenthesis. -/
theorem open_not_mem_written (x : Binary64) : '(' ∉ x.written := by
  intro h
  rcases mem_written h with h | h
  · exact absurd h (by decide)
  · exact absurd h (by decide)

theorem close_not_mem_written (x : Binary64) : ')' ∉ x.written := by
  intro h
  rcases mem_written h with h | h
  · exact absurd h (by decide)
  · exact absurd h (by decide)

/-- Finite numbers are written with a point or an exponent. -/
theorem point_or_e_mem_written {x : Binary64} (hx : x.isFinite = true) :
    '.' ∈ x.written ∨ 'e' ∈ x.written := by
  obtain ⟨hnan, hinf⟩ := (isFinite_iff x).mp hx
  have hm : '.' ∈ writtenMagnitude x.magnitude ∨ 'e' ∈ writtenMagnitude x.magnitude := by
    rw [writtenMagnitude, if_neg fun h => hinf (decide_eq_true h)]
    split
    · exact .inl (by decide)
    · exact Decimal.point_or_e_mem_write _ _
  rw [written_eq (Bool.eq_false_iff.mpr hnan)]
  exact hm.imp (List.mem_append_right _) (List.mem_append_right _)

theorem text_of_not_isFinite {x : Binary64} (hx : x.isFinite = false) :
    x.text ∈ ["nan", "inf", "-inf"] := by
  cases hn : x.isNaN with
  | true => simp [text, written, hn]
  | false =>
    have hi : x.isInfinite = true := by
      rw [← Bool.not_eq_true, isFinite_iff, hn] at hx
      simpa using hx
    cases hs : x.isNegative <;> simp [text, written, hn, hi, hs]

/-- Words are written for what is not finite, and for nothing else. -/
theorem text_mem_words_iff {x : Binary64} :
    x.text ∈ ["nan", "inf", "-inf"] ↔ x.isFinite = false := by
  refine ⟨fun h => ?_, text_of_not_isFinite⟩
  rw [← Bool.not_eq_true]
  intro hf
  have hm := point_or_e_mem_written hf
  rw [← String.toList_ofList (l := x.written), ← text] at hm
  simp only [List.mem_cons, List.not_mem_nil, or_false] at h
  rcases h with h | h | h <;> rw [h] at hm <;> revert hm <;> decide

end Binary64

end Calculator
