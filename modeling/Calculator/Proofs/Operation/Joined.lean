import Calculator.Command.Calculation
import Calculator.Proofs.Expression.Chains
import Calculator.Proofs.Number.Neutral
import Calculator.Proofs.Operation.Outcomes

/-!
An operation on numerals and the expression in which its operator joins them. Both fold the numerals
from left to right; they differ in what they make of a division by zero and of an overflow.
-/

namespace Calculator

namespace Expression

open Operation (Standard)

/-- The operation of an operator. -/
def Operator.named : Operator → Standard
  | plus => .add
  | minus => .subtract
  | times => .multiply
  | divided => .divide

theorem not_isBlank_of_isAllowed {c : Char} (h : isAllowed c = true) : Text.isBlank c = false := by
  simp only [isAllowed, Bool.or_eq_true, beq_iff_eq] at h
  rcases h with ((((((h | rfl) | rfl) | rfl) | rfl) | rfl) | rfl) | rfl
  · simp only [Char.isDigit, Bool.and_eq_true, decide_eq_true_eq] at h
    have hd : 48 ≤ c.toNat ∧ c.toNat ≤ 57 := h
    simp only [Text.isBlank, Bool.or_eq_false_iff, Bool.and_eq_false_iff, decide_eq_false_iff_not]
    omega
  all_goals decide

/-- A text without blanks and groups is folded as it is. -/
theorem evaluate_of_plain {cs : List Char} {x : Binary64} (ha : ∀ c ∈ cs, isAllowed c = true)
    (hp : ∀ c ∈ cs, c ≠ '(' ∧ c ≠ ')') (h : fold cs = .ok x) :
    evaluate (String.ofList cs) = .ok x := by
  have hc : compact (String.ofList cs) = cs := by
    rw [compact, String.toList_ofList]
    exact List.filter_eq_self.mpr fun c hm => by rw [not_isBlank_of_isAllowed (ha c hm)]; rfl
  have hne : cs ≠ [] := by
    rintro rfl
    rw [fold, terms_nil] at h
    cases h
  have hopen : '(' ∉ cs := fun ho => (hp '(' ho).1 rfl
  rw [evaluate_of_no_open (by rwa [hc]), hc, check_eq_ok_iff.mpr ⟨hne, ha⟩]
  exact h

/-- A text and numerals that follow it, each after the same operator. -/
def joinedChars (op : Operator) (front : List Char) (rest : List Literal) : List Char :=
  front ++ rest.flatMap fun l => op.toChar :: l.chars

theorem fold_joinedChars (op : Operator) {front : List Char} {x : Binary64} (h : fold front = .ok x)
    (rest : List Literal) :
    fold (joinedChars op front rest) = .ok ((rest.map (·.value false)).foldl op.apply x) := by
  induction rest generalizing front x with
  | nil =>
    rw [joinedChars, List.flatMap_nil, List.append_nil, h]
    rfl
  | cons l rest ih =>
    have hl := ih (fold_append_literal l h op)
    rw [joinedChars, List.append_assoc] at hl
    exact hl

theorem forall_joinedChars {p : Char → Prop} {op : Operator} {front : List Char}
    {rest : List Literal} (hf : ∀ c ∈ front, p c) (ho : p op.toChar)
    (hl : ∀ l : Literal, ∀ c ∈ l.chars, p c) : ∀ c ∈ joinedChars op front rest, p c := by
  intro c hc
  rcases List.mem_append.mp hc with hc | hc
  · exact hf c hc
  · obtain ⟨l, -, hc⟩ := List.mem_flatMap.mp hc
    rcases List.mem_cons.mp hc with rfl | hc
    · exact ho
    · exact hl l c hc

theorem isAllowed_literal (l : Literal) : ∀ c ∈ l.chars, isAllowed c = true := by
  intro c hc
  rcases Literal.mem_chars hc with h | rfl
  · simp [isAllowed, h]
  · decide

theorem evaluate_joined (op : Operator) (sign : Sign) (first : Literal) (rest : List Literal) :
    evaluate (String.ofList (joinedChars op (sign.chars ++ first.chars) rest)) =
      .ok ((rest.map (·.value false)).foldl op.apply (first.value sign.isNegative)) := by
  have hsign : ∀ c ∈ sign.chars, isAllowed c = true := by
    cases sign <;> simp [Sign.chars, isAllowed]
  have ha : ∀ c ∈ sign.chars ++ first.chars, isAllowed c = true := fun c hc =>
    (List.mem_append.mp hc).elim (hsign c) (isAllowed_literal first c)
  have hp : ∀ c ∈ sign.chars ++ first.chars, c ≠ '(' ∧ c ≠ ')' := fun c hc =>
    (List.mem_append.mp hc).elim (Chain.plain_sign sign c) (Chain.plain_literal first c)
  refine evaluate_of_plain (forall_joinedChars ha ?_ isAllowed_literal)
    (forall_joinedChars hp (Chain.plain_operator op) Chain.plain_literal)
    (fold_joinedChars op (Chain.fold_sign_literal sign first) rest)
  cases op <;> decide

/-- The arguments of an operation: numerals, of which the first may have a sign. -/
def numerals (sign : Sign) (first : Literal) (rest : List Literal) : List String :=
  String.ofList (sign.chars ++ first.chars) :: rest.map fun l => String.ofList l.chars

/-- The numbers that numerals denote. -/
def numbers (sign : Sign) (first : Literal) (rest : List Literal) : List Binary64 :=
  first.value sign.isNegative :: rest.map (·.value false)

theorem intercalate_numerals (op : Operator) (sign : Sign) (first : Literal) (rest : List Literal) :
    (String.singleton op.toChar).intercalate (numerals sign first rest) =
      String.ofList (joinedChars op (sign.chars ++ first.chars) rest) := by
  have hlist : ∀ front, [op.toChar].intercalate (front :: rest.map Literal.chars) =
      joinedChars op front rest := by
    induction rest with
    | nil => intro front; simp [joinedChars]
    | cons l rest ih =>
      intro front
      rw [List.map_cons, List.intercalate_cons_cons, ih l.chars]
      simp [joinedChars]
  refine String.toList_inj.mp ?_
  rw [String.toList_intercalate, numerals, String.toList_ofList, List.map_cons, List.map_map,
    String.toList_ofList, String.toList_singleton]
  have hmap : rest.map (String.toList ∘ fun l => String.ofList l.chars) = rest.map Literal.chars :=
    List.map_congr_left fun l _ => String.toList_ofList
  rw [hmap, hlist]

end Expression

namespace Operation

open Expression (Operator Sign numerals numbers)

theorem read?_sign_literal (sign : Sign) (l : Literal) :
    Numeral.read? (sign.chars ++ l.chars) = some (l.value sign.isNegative) := by
  cases sign with
  | none => exact Numeral.read?_literal l
  | plus => exact Numeral.read?_plus_literal l
  | minus => exact Numeral.read?_minus_literal l

theorem reads_numerals (sign : Sign) (first : Literal) (rest : List Literal) :
    Reads (numerals sign first rest) (numbers sign first rest) := by
  simp [Reads, numerals, numbers, read?_sign_literal, Numeral.read?_literal]

namespace Standard

theorem foldl_divided {values : List Binary64} (h : values.any Binary64.isZero = false)
    (x : Binary64) : values.foldl Operator.divided.apply x = values.foldl (· / ·) x := by
  induction values generalizing x with
  | nil => rfl
  | cons y values ih =>
    rw [List.any_cons, Bool.or_eq_false_iff] at h
    obtain ⟨hy, hvalues⟩ := h
    have hdiv : Operator.divided.apply x y = x / y := by
      rw [Operator.apply, hy]
      rfl
    rw [List.foldl_cons, List.foldl_cons, hdiv]
    exact ih hvalues (x / y)

/-- An operation folds its operands as its operator does, unless one divides by zero. -/
theorem compute_named (op : Operator) {x : Binary64} (hx : x.isNaN = false)
    (values : List Binary64) :
    op.named.compute (x :: values) =
      if op = .divided ∧ values.any Binary64.isZero then .error (.error .divisionByZero)
      else .ok (values.foldl op.apply x) := by
  cases op with
  | plus => exact congrArg Except.ok (Binary64.sum_cons hx values)
  | minus => rfl
  | times => exact congrArg Except.ok (Binary64.product_cons hx values)
  | divided =>
    change (quotient x values).mapError _ = _
    rw [quotient_eq]
    cases hz : values.any Binary64.isZero with
    | true => rfl
    | false =>
      rw [foldl_divided hz]
      rfl

end Standard

/-- A later numeral divides by zero. -/
def DividesByZero (op : Operator) (rest : List Literal) : Prop :=
  op = .divided ∧ ∃ l ∈ rest, (l.value false).isZero = true

/-- Finite numbers have a value that is not finite. -/
def Overflows (op : Operator) (values : List Binary64) : Prop :=
  (∀ x ∈ values, x.isFinite = true) ∧
    ∃ value, op.named.compute values = .ok value ∧ value.isFinite = false

theorem dividesByZero_iff {op : Operator} {rest : List Literal} :
    DividesByZero op rest ↔
      op = .divided ∧ (rest.map (·.value false)).any Binary64.isZero = true := by
  simp [DividesByZero]

theorem overflows_iff {op : Operator} {values : List Binary64} {x : Binary64}
    (h : op.named.compute values = .ok x) :
    Overflows op values ↔ (!x.isFinite && values.all Binary64.isFinite) = true := by
  rw [Overflows, h, Bool.and_eq_true, List.all_eq_true, Bool.not_eq_true']
  constructor
  · rintro ⟨hall, value, hv, hf⟩
    cases hv
    exact ⟨hf, hall⟩
  · rintro ⟨hf, hall⟩
    exact ⟨hall, x, rfl, hf⟩

/-- A quotient by zero stays a NaN. -/
theorem foldl_divided_of_zero {x : Binary64} {values : List Binary64}
    (h : values.any Binary64.isZero = true) :
    values.foldl Operator.divided.apply x = .nan false := by
  have hnan : ∀ values : List Binary64,
      values.foldl Operator.divided.apply (.nan false) = .nan false := by
    intro values
    induction values with
    | nil => rfl
    | cons y values ih =>
      have hy : Operator.divided.apply (.nan false) y = .nan false := by
        rw [Operator.apply]
        split
        · rfl
        · exact Binary64.nan_div y
      rw [List.foldl_cons, hy, ih]
  induction values generalizing x with
  | nil => cases h
  | cons y values ih =>
    rw [List.foldl_cons]
    cases hy : y.isZero with
    | true =>
      have hx : Operator.divided.apply x y = .nan false := if_pos hy
      rw [hx, hnan]
    | false =>
      rw [List.any_cons, hy, Bool.false_or] at h
      exact ih h

/-- The numerals folded from left to right, as both the operation and the expression do it. -/
def folded (op : Operator) (sign : Sign) (first : Literal) (rest : List Literal) : Binary64 :=
  (rest.map (·.value false)).foldl op.apply (first.value sign.isNegative)

theorem compute_numbers (op : Operator) (sign : Sign) (first : Literal) (rest : List Literal) :
    op.named.compute (numbers sign first rest) =
      if op = .divided ∧ (rest.map (·.value false)).any Binary64.isZero then
        .error (.error .divisionByZero)
      else .ok (folded op sign first rest) :=
  Standard.compute_named op (Binary64.isNaN_ofDecimal _ _ _) _

theorem expressionText_joined (op : Operator) (sign : Sign) (first : Literal)
    (rest : List Literal) :
    Command.Calculation.expressionText
        ((String.singleton op.toChar).intercalate (numerals sign first rest)) =
      (folded op sign first rest).text := by
  rw [Expression.intercalate_numerals, Command.Calculation.expressionText,
    Expression.evaluate_joined]
  rfl

section TwoOrMore

variable {op : Operator} {sign : Sign} {first second : Literal} {more : List Literal}

theorem execute_numerals (op : Operator) (sign : Sign) (first second : Literal)
    (more : List Literal) :
    op.named.operation.execute (numerals sign first (second :: more)) =
      textOf (bounded op.named.label (numbers sign first (second :: more))
        (op.named.compute (numbers sign first (second :: more)))) := by
  have hleast : op.named.leastArguments ≤ (numerals sign first (second :: more)).length := by
    cases op <;> exact Nat.le_add_left 2 _
  have hread := readOperands_of_reads (reads_numerals sign first (second :: more)) 1
  rw [execute_eq_textOf, Standard.value_of_read _ hleast hread]

theorem execute_of_dividesByZero (h : DividesByZero op (second :: more)) :
    op.named.operation.execute (numerals sign first (second :: more)) =
      .ok OperationError.divisionByZero.message := by
  rw [execute_numerals, compute_numbers, if_pos (dividesByZero_iff.mp h)]
  rfl

theorem execute_of_overflows (h : Overflows op (numbers sign first (second :: more))) :
    op.named.operation.execute (numerals sign first (second :: more)) =
      .ok (OperationError.overflow op.named.label).message := by
  obtain ⟨x, hx, -⟩ := h.2
  have hover := (overflows_iff hx).mp h
  rw [execute_numerals, hx, bounded, if_pos hover]
  rfl

theorem execute_of_neither (hd : ¬ DividesByZero op (second :: more))
    (ho : ¬ Overflows op (numbers sign first (second :: more))) :
    op.named.operation.execute (numerals sign first (second :: more)) =
      .ok (folded op sign first (second :: more)).text := by
  have hx := compute_numbers op sign first (second :: more)
  rw [if_neg fun hz => hd (dividesByZero_iff.mpr hz)] at hx
  have hfinite := fun hc => ho ((overflows_iff hx).mpr hc)
  rw [execute_numerals, hx, bounded, if_neg hfinite]
  rfl

end TwoOrMore

/-- The text of an error is none of a number. -/
theorem ok_ne_text {text : String} (h : isRecordable text = false) (x : Binary64) :
    (.ok text : Except Fault String) ≠ .ok x.text := by
  intro he
  rw [Except.ok.inj he, isRecordable_text] at h
  cases h

/-- An operation on two or more numerals and the expression in which its operator joins them have the
same text, unless the operation refuses to divide by zero, where the expression gives `nan`, or reports
that finite numbers have no finite value. -/
theorem named_agrees_with_joined (op : Operator) (sign : Sign) (first second : Literal)
    (more : List Literal) :
    let args := numerals sign first (second :: more)
    let values := numbers sign first (second :: more)
    let named := op.named.operation.execute args
    let joined := Command.Calculation.expressionText ((String.singleton op.toChar).intercalate args)
    (named = .ok joined ↔ ¬ (DividesByZero op (second :: more) ∨ Overflows op values)) ∧
      (DividesByZero op (second :: more) →
        named = .ok "Error: Division by zero is not allowed" ∧ joined = "nan") ∧
      (Overflows op values → named = .ok (OperationError.overflow op.named.label).message) := by
  intro args values named joined
  have hjoined : joined = (folded op sign first (second :: more)).text :=
    expressionText_joined op sign first (second :: more)
  refine ⟨⟨fun he => ?_, fun hn => ?_⟩, fun hd => ⟨execute_of_dividesByZero hd, ?_⟩,
    execute_of_overflows⟩
  · rw [hjoined] at he
    rintro (hd | ho)
    · exact ok_ne_text (by decide) _ ((execute_of_dividesByZero hd).symm.trans he)
    · exact ok_ne_text (OperationError.isRecordable_overflow _) _
        ((execute_of_overflows ho).symm.trans he)
  · obtain ⟨hd, ho⟩ := not_or.mp hn
    rw [hjoined]
    exact execute_of_neither hd ho
  · obtain ⟨rfl, hany⟩ := dividesByZero_iff.mp hd
    rw [hjoined, folded, foldl_divided_of_zero hany]
    rfl

end Operation

end Calculator
