import Calculator.Expression.Terms
import Calculator.Number.Written

/-!
Evaluation: the last group to open is evaluated first and its written value takes its place in the
text, until no group is left; there is no precedence among the operators.
-/

namespace Calculator.Expression

/-- The depth after a character, and the greatest depth so far. A stray `)` changes nothing. -/
def deepen (state : Nat × Nat) (c : Char) : Nat × Nat :=
  if c = '(' then (state.1 + 1, max state.2 (state.1 + 1))
  else if c = ')' then (state.1 - 1, state.2)
  else state

/-- The greatest number of parentheses open at once. -/
def nesting (cs : List Char) : Nat := (cs.foldl deepen (0, 0)).2

/-- The text before the first occurrence of a character and the text after it. -/
def splitFirst (mark : Char) (cs : List Char) : Option (List Char × List Char) :=
  match cs.dropWhile (· != mark) with
  | _ :: after => some (cs.takeWhile (· != mark), after)
  | [] => none

/-- The text before the last occurrence of a character and the text after it. -/
def splitLast (mark : Char) (cs : List Char) : Option (List Char × List Char) :=
  (splitFirst mark cs.reverse).map fun (after, before) => (before.reverse, after.reverse)

/-- Puts the written value of a group in its place. -/
def spliced (before inner after : List Char) : Except ExpressionError (List Char) := do
  if inner.isEmpty then throw .noTerms
  let value ← fold inner
  let text := before ++ value.written ++ after
  check text
  return text

/-- The text with its last group replaced by the group's value; `none` if there is no group. -/
def resolveLast (cs : List Char) : Except ExpressionError (Option (List Char)) :=
  match splitLast '(' cs with
  | none => .ok none
  | some (before, opened) =>
    match splitFirst ')' opened with
    | none => .error .mismatchedParentheses
    | some (inner, after) => (spliced before inner after).map some

/-- Replaces groups, at most as many as given. -/
def resolve : Nat → List Char → Except ExpressionError (List Char)
  | 0, cs => .ok cs
  | passes + 1, cs => do
    match ← resolveLast cs with
    | none => return cs
    | some text => resolve passes text

/-- The text of an expression without its blanks. -/
def compact (s : String) : List Char := s.toList.filter (!Text.isBlank ·)

/-- The value of an expression. Each group opens with a parenthesis, so their number bounds the
passes. -/
def evaluate (s : String) : Except ExpressionError Binary64 := do
  let text := compact s
  check text
  if maxNesting < nesting text then throw .tooDeeplyNested
  fold (← resolve (text.count '(') text)

theorem splitFirst_eq_some {mark : Char} {cs before after : List Char}
    (h : splitFirst mark cs = some (before, after)) :
    cs = before ++ mark :: after ∧ mark ∉ before := by
  unfold splitFirst at h
  split at h
  next c rest hd =>
    obtain ⟨rfl, rfl⟩ : cs.takeWhile (· != mark) = before ∧ rest = after := by simpa using h
    have hc : c = mark := by
      have := List.head?_dropWhile_not (· != mark) cs
      rw [hd] at this
      simpa using this
    subst hc
    constructor
    · rw [← hd, List.takeWhile_append_dropWhile]
    · intro hm
      have := List.all_eq_true.mp (List.all_takeWhile (p := (· != c)) (l := cs)) c hm
      simp at this
  next => simp at h

theorem splitLast_eq_some {mark : Char} {cs before after : List Char}
    (h : splitLast mark cs = some (before, after)) :
    cs = before ++ mark :: after ∧ mark ∉ after := by
  unfold splitLast at h
  rw [Option.map_eq_some_iff] at h
  obtain ⟨⟨a, b⟩, hs, he⟩ := h
  obtain ⟨rfl, rfl⟩ : b.reverse = before ∧ a.reverse = after := by simpa using he
  obtain ⟨hc, hm⟩ := splitFirst_eq_some hs
  constructor
  · have := congrArg List.reverse hc
    simpa using this
  · simpa using hm

end Calculator.Expression
