import Calculator.Expression.Terms
import Calculator.Proofs.Number.Literal

/-!
The terms of texts that are put together at an operator, and the values of such texts.
-/

namespace Calculator.Expression

namespace Operator

theorem isDigit_toChar (op : Operator) : op.toChar.isDigit = false := by
  cases op <;> decide

theorem toChar_ne_point (op : Operator) : op.toChar ≠ '.' := by
  cases op <;> decide

theorem ofChar?_toChar (op : Operator) : ofChar? op.toChar = some op :=
  ofChar?_eq_some_iff.mpr rfl

end Operator

variable {c d : Char} {cs ds : List Char}

theorem terms_nil : terms [] = [] := by
  rw [terms]

theorem terms_digit (hc : c.isDigit = true) :
    terms (c :: cs) = ⟨none, c :: (numeralTail cs).1⟩ :: terms (numeralTail cs).2 := by
  rw [terms.eq_def]
  exact if_pos hc

theorem terms_operator_digit (op : Operator) (hd : d.isDigit = true) :
    terms (op.toChar :: d :: ds) =
      ⟨some op, d :: (numeralTail ds).1⟩ :: terms (numeralTail ds).2 := by
  rw [terms, if_neg (by simp [op.isDigit_toChar])]
  simp only [op.ofChar?_toChar, hd]

/-- A character that neither is a digit nor an operator right before one belongs to no term. -/
theorem terms_skip (hc : c.isDigit = false) (hd : Operator.ofChar? c = none ∨ d.isDigit = false) :
    terms (c :: d :: ds) = terms (d :: ds) := by
  rw [terms, if_neg (by simp [hc])]
  split
  next op ho hd' => simp [ho, hd'] at hd
  next => rfl

theorem takeWhile_append_operator (op : Operator) (cs ds : List Char) :
    (cs ++ op.toChar :: ds).takeWhile Char.isDigit = cs.takeWhile Char.isDigit := by
  induction cs with
  | nil => simp [op.isDigit_toChar]
  | cons c cs ih => simp [List.takeWhile_cons, ih]

theorem dropWhile_append_operator (op : Operator) (cs ds : List Char) :
    (cs ++ op.toChar :: ds).dropWhile Char.isDigit =
      cs.dropWhile Char.isDigit ++ op.toChar :: ds := by
  induction cs with
  | nil => simp [op.isDigit_toChar]
  | cons c cs ih =>
    rw [List.cons_append, List.dropWhile_cons, List.dropWhile_cons, ih]
    split <;> rfl

/-- An operator ends a numeral. -/
theorem numeralTail_append_operator (op : Operator) (cs ds : List Char) :
    numeralTail (cs ++ op.toChar :: ds) =
      ((numeralTail cs).1, (numeralTail cs).2 ++ op.toChar :: ds) := by
  unfold numeralTail
  rw [takeWhile_append_operator, dropWhile_append_operator]
  cases hd : cs.dropWhile Char.isDigit with
  | nil =>
    rw [List.nil_append]
    split
    next rest h => exact absurd (List.cons.inj h).1 op.toChar_ne_point
    next => rfl
  | cons c rest =>
    rw [List.cons_append]
    by_cases hc : c = '.'
    · subst hc
      simp only [takeWhile_append_operator, dropWhile_append_operator]
    · split
      next rest' h => exact absurd (List.cons.inj h).1 hc
      next =>
        split
        next rest' h => exact absurd (List.cons.inj h).1 hc
        next => rfl

/-- The terms before an operator are not changed by what comes from it on. -/
theorem terms_append_operator (op : Operator) (cs ds : List Char) :
    terms (cs ++ op.toChar :: ds) = terms cs ++ terms (op.toChar :: ds) := by
  fun_induction terms cs with
  | case1 => rfl
  | case2 c cs hc ih =>
    rw [List.cons_append, terms_digit hc, numeralTail_append_operator, ih]
    rfl
  | case3 c hc =>
    rw [List.singleton_append, terms_skip (by simpa using hc) (.inr op.isDigit_toChar)]
    rfl
  | case4 c hc d cs o hd ho ih =>
    obtain rfl := Operator.ofChar?_eq_some_iff.mp ho
    rw [List.cons_append, List.cons_append, terms_operator_digit o hd, numeralTail_append_operator, ih]
    rfl
  | case5 c hc d cs h ih =>
    have hskip : Operator.ofChar? c = none ∨ d.isDigit = false := by
      cases ho : Operator.ofChar? c with
      | none => exact .inl rfl
      | some o => exact .inr (by simpa using h o ho)
    rw [List.cons_append, List.cons_append, terms_skip (by simpa using hc) hskip]
    exact ih

section Literal

variable (l : Literal)

/-- A numeral goes on until neither a digit follows nor a point that could be its own. -/
theorem numeralTail_ended {after : List Char} (hds : ∀ c ∈ ds, c.isDigit = true)
    (ha : ∀ c ∈ after.head?, c.isDigit = false) (hp : l.places = none → after.head? ≠ some '.') :
    numeralTail (ds ++ (l.tail ++ after)) = (ds ++ l.tail, after) := by
  have hplaces := l.isDigit_places
  unfold Literal.tail
  cases h : l.places with
  | none =>
    obtain ⟨htake, hdrop⟩ := Numeral.takeWhile_append_ended hds ha
    rw [List.nil_append, List.append_nil, numeralTail, htake, hdrop]
    split
    next => exact absurd rfl (hp h)
    next => rfl
  | some cs =>
    rw [h, Option.getD_some] at hplaces
    obtain ⟨htake, hdrop⟩ := Numeral.takeWhile_append_ended hplaces ha
    have hpoint : ∀ c ∈ ('.' :: cs ++ after).head?, c.isDigit = false := by simp
    obtain ⟨htake', hdrop'⟩ := Numeral.takeWhile_append_ended hds hpoint
    rw [numeralTail, htake', hdrop']
    simp only [List.cons_append, htake, hdrop]

theorem numeralTail_literal (hds : ∀ c ∈ ds, c.isDigit = true) :
    numeralTail (ds ++ l.tail) = (ds ++ l.tail, []) := by
  have h : numeralTail (ds ++ (l.tail ++ [])) = (ds ++ l.tail, []) :=
    numeralTail_ended l hds (by simp) (by simp)
  rwa [List.append_nil] at h

theorem terms_literal : terms l.chars = [⟨none, l.chars⟩] := by
  obtain ⟨d, ds, -, hd, hds, hc⟩ := l.chars_eq_cons
  rw [hc, terms_digit hd, numeralTail_literal l hds, terms_nil]

theorem terms_operator_literal (op : Operator) :
    terms (op.toChar :: l.chars) = [⟨some op, l.chars⟩] := by
  obtain ⟨d, ds, -, hd, hds, hc⟩ := l.chars_eq_cons
  rw [hc, terms_operator_digit op hd, numeralTail_literal l hds, terms_nil]

/-- Of two operators in a row the first belongs to no term. -/
theorem terms_operator_operator (op op' : Operator) (cs : List Char) :
    terms (op.toChar :: op'.toChar :: cs) = terms (op'.toChar :: cs) :=
  terms_skip op.isDigit_toChar (.inr op'.isDigit_toChar)

theorem readNumber_of_read? {cs : List Char} {x : Binary64} (h : Numeral.read? cs = some x) :
    readNumber cs = .ok x := by
  simp only [readNumber, h]

theorem fold_literal : fold l.chars = .ok (l.value false) := by
  have h := readNumber_of_read? (Numeral.read?_literal l)
  simp [fold, terms_literal, Term.leading, Term.chars, h, Except.bind, pure, Except.pure]

theorem fold_minus_literal : fold ('-' :: l.chars) = .ok (l.value true) := by
  have h := readNumber_of_read? (Numeral.read?_minus_literal l)
  have ht := terms_operator_literal l .minus
  simp only [Operator.toChar] at ht
  simp [fold, ht, Term.leading, Term.chars, Operator.toChar, h, Except.bind, pure, Except.pure]

theorem fold_plus_literal : fold ('+' :: l.chars) = .ok (l.value false) := by
  have h := readNumber_of_read? (Numeral.read?_plus_literal l)
  have ht := terms_operator_literal l .plus
  simp only [Operator.toChar] at ht
  simp [fold, ht, Term.leading, Term.chars, Operator.toChar, h, Except.bind, pure, Except.pure]

/-- The value of a text is carried on over the terms from an operator on. -/
theorem fold_append_operator {front : List Char} {x : Binary64} (h : fold front = .ok x)
    (op : Operator) (ds : List Char) :
    fold (front ++ op.toChar :: ds) =
      (terms (op.toChar :: ds)).foldlM (fun x t => t.applyTo x) x := by
  unfold fold at h ⊢
  rw [terms_append_operator]
  cases ht : terms front with
  | nil =>
    rw [ht] at h
    cases h
  | cons first rest =>
    rw [ht] at h
    rw [List.cons_append]
    dsimp only at h ⊢
    cases hf : first.leading with
    | error e =>
      rw [hf] at h
      cases h
    | ok y =>
      rw [hf] at h
      change rest.foldlM (fun x t => t.applyTo x) y = .ok x at h
      change (rest ++ _).foldlM (fun x t => t.applyTo x) y = _
      rw [List.foldlM_append, h]
      rfl

theorem fold_append_literal {front : List Char} {x : Binary64} (h : fold front = .ok x)
    (op : Operator) : fold (front ++ op.toChar :: l.chars) = .ok (op.apply x (l.value false)) := by
  have hn := readNumber_of_read? (Numeral.read?_literal l)
  rw [fold_append_operator h, terms_operator_literal]
  simp [Term.applyTo, hn, Except.map]

/-- An operator before a minus sign is passed over, and the number after the sign taken away. -/
theorem fold_append_minus_literal {front : List Char} {x : Binary64} (h : fold front = .ok x)
    (op : Operator) : fold (front ++ op.toChar :: '-' :: l.chars) = .ok (x - l.value false) := by
  have hskip := terms_operator_operator op .minus l.chars
  rw [terms_operator_literal] at hskip
  have hn := readNumber_of_read? (Numeral.read?_literal l)
  rw [fold_append_operator h]
  change (terms (op.toChar :: Operator.minus.toChar :: l.chars)).foldlM _ x = _
  rw [hskip]
  simp [Term.applyTo, hn, Except.map, Operator.apply]

end Literal

end Calculator.Expression
