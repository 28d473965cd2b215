import Calculator.Operation.Catalogue
import Calculator.Route
import Calculator.Proofs.Number.Written

/-!
The value of an operation before it becomes a text, which errors there are, and which of the texts are
recorded. The standard operations never end in a fault.
-/

namespace Calculator

theorem isRecordable_of_head? {text : String} (h : text.toList.head? ≠ some 'E') :
    isRecordable text = true := by
  unfold isRecordable
  cases ht : text.toList with
  | nil => rfl
  | cons c cs =>
    have hc : ('E' == c) = false := by
      rw [ht] at h
      exact beq_eq_false_iff_ne.mpr fun he => h (congrArg some he.symm)
    simp [List.isPrefixOf, hc]

/-- The text of a number is none of an error. -/
theorem isRecordable_text (x : Binary64) : isRecordable x.text = true := by
  refine isRecordable_of_head? fun h => ?_
  have hE : 'E' ∈ x.written := by
    rw [Binary64.text, String.toList_ofList] at h
    exact List.mem_of_head? h
  rcases Binary64.mem_written hE with h | h
  · exact absurd h (by decide)
  · exact absurd h (by decide)

theorem isRecordable_append {text rest : String} (h : text.toList.head?.any (· ≠ 'E')) :
    isRecordable (text ++ rest) = true := by
  refine isRecordable_of_head? ?_
  rw [String.toList_append]
  cases ht : text.toList with
  | nil =>
    rw [ht] at h
    cases h
  | cons c cs =>
    rw [ht] at h
    simpa using h

theorem isRecordable_append_of_not {text : String} (h : isRecordable text = false) (rest : String) :
    isRecordable (text ++ rest) = false := by
  simp only [isRecordable, Bool.not_eq_false', List.isPrefixOf_iff_prefix] at h ⊢
  rw [String.toList_append]
  exact h.trans (List.prefix_append ..)

namespace OperationError

theorem isRecordable_invalidNumber (position : Nat) (arg : String) :
    isRecordable (invalidNumber position arg).message = true := by
  unfold message
  dsimp only
  rw [String.append_assoc, String.append_assoc, String.append_assoc]
  exact isRecordable_append (by decide)

theorem isRecordable_divisionByZero : isRecordable divisionByZero.message = false := by decide

theorem isRecordable_overflow (label : String) : isRecordable (overflow label).message = false := by
  unfold message
  dsimp only
  rw [String.append_assoc]
  exact isRecordable_append_of_not (by decide) _

end OperationError

namespace Operation

/-- Finite operands must have a finite value. -/
def bounded (label : String) (values : List Binary64) :
    Except NoValue Binary64 → Except NoValue Binary64
  | .error e => .error e
  | .ok result =>
    if !result.isFinite && values.all Binary64.isFinite then .error (.error (.overflow label))
    else .ok result

/-- The value of an operation on arguments, or why there is none. -/
def value (op : Operation) (args : List String) : Except NoValue Binary64 :=
  match op.operands args with
  | .error e => .error (.error e)
  | .ok values => bounded op.label values (op.compute values)

/-- The text of a value or of an error. -/
def textOf : Except NoValue Binary64 → Except Fault String
  | .ok result => .ok result.text
  | .error (.error e) => .ok e.message
  | .error (.fault f) => .error f

theorem execute_eq_textOf (op : Operation) (args : List String) :
    op.execute args = textOf (op.value args) := by
  unfold execute value
  cases op.operands args with
  | error e => rfl
  | ok values =>
    dsimp only
    cases op.compute values with
    | error e => cases e <;> rfl
    | ok result =>
      dsimp only [render, bounded]
      split <;> rfl

/-- Nothing went wrong in the arithmetic, whatever is said about the arguments. -/
def Calculates (op : Operation) (args : List String) : Prop :=
  op.value args ≠ .error (.error .divisionByZero) ∧
    ∀ label, op.value args ≠ .error (.error (.overflow label))

section Reading

variable {args : List String} {values : List Binary64} {e : OperationError}

theorem length_of_readOperands {position : Nat} (h : readOperands position args = .ok values) :
    values.length = args.length := by
  induction args generalizing position values with
  | nil =>
    cases h
    rfl
  | cons arg args ih =>
    rw [readOperands] at h
    cases hn : Numeral.read? arg.toList with
    | none =>
      rw [hn] at h
      cases h
    | some x =>
      rw [hn] at h
      cases hr : readOperands (position + 1) args with
      | error e =>
        rw [hr] at h
        cases h
      | ok rest =>
        rw [hr] at h
        cases h
        simp [ih hr]

theorem error_of_readOperands {position : Nat} (h : readOperands position args = .error e) :
    ∃ position arg, e = .invalidNumber position arg := by
  induction args generalizing position with
  | nil => cases h
  | cons arg args ih =>
    rw [readOperands] at h
    cases hn : Numeral.read? arg.toList with
    | none =>
      rw [hn] at h
      cases h
      exact ⟨_, _, rfl⟩
    | some x =>
      rw [hn] at h
      cases hr : readOperands (position + 1) args with
      | ok rest =>
        rw [hr] at h
        cases h
      | error e' =>
        rw [hr] at h
        cases h
        exact ih hr

end Reading

namespace Standard

variable (kind : Standard) {args : List String} {values : List Binary64}

theorem length_sorted (values : List Binary64) : (sorted values).length = values.length :=
  (List.mergeSort_perm _ _).length_eq

theorem exists_middle (h : 0 < values.length) : ∃ x, middle values = some x := by
  have hlast : values.length / 2 < (sorted values).length := by
    rw [length_sorted]
    omega
  unfold middle
  dsimp only
  by_cases hodd : values.length % 2 = 1
  · rw [if_pos hodd]
    exact ⟨_, List.getElem?_eq_getElem hlast⟩
  · have hbefore : values.length / 2 - 1 < (sorted values).length := by omega
    rw [if_neg hodd, if_neg (by omega), List.getElem?_eq_getElem hlast,
      List.getElem?_eq_getElem hbefore]
    exact ⟨_, rfl⟩

/-- A quotient divides from left to right, unless there is a zero to divide by. -/
theorem quotient_eq (x : Binary64) (values : List Binary64) :
    quotient x values =
      if values.any Binary64.isZero then .error .divisionByZero
      else .ok (values.foldl (· / ·) x) := by
  induction values generalizing x with
  | nil => rfl
  | cons y values ih =>
    rw [quotient, List.any_cons, List.foldl_cons]
    cases hy : y.isZero with
    | true => rfl
    | false =>
      rw [Bool.false_or]
      exact ih (x / y)

/-- Enough operands have a value, unless one divides by zero. -/
theorem compute_cases (h : kind.leastArguments ≤ values.length) :
    (∃ x, kind.compute values = .ok x) ∨
      kind.compute values = .error (.error .divisionByZero) := by
  have hpos : 0 < values.length := by
    refine Nat.lt_of_lt_of_le ?_ h
    cases kind <;> decide
  obtain ⟨x, rest, rfl⟩ := List.exists_cons_of_length_pos hpos
  cases kind with
  | add | subtract | multiply | mean | stddev => exact .inl ⟨_, rfl⟩
  | divide =>
    change (∃ y, (quotient x rest).mapError _ = _) ∨ (quotient x rest).mapError _ = _
    rw [quotient_eq]
    split
    · exact .inr rfl
    · exact .inl ⟨_, rfl⟩
  | median =>
    obtain ⟨y, hy⟩ := exists_middle hpos
    refine .inl ⟨y, ?_⟩
    change (middle (x :: rest)).elim _ _ = _
    rw [hy]
    rfl

theorem value_of_few (h : args.length < kind.leastArguments) :
    kind.operation.value args = .error (.error (.tooFewArguments kind.tooFew)) := by
  simp only [value, operation, parseOperands, if_pos h]

theorem value_of_unread {e : OperationError} (h : kind.leastArguments ≤ args.length)
    (he : readOperands 1 args = .error e) : kind.operation.value args = .error (.error e) := by
  simp only [value, operation, parseOperands, if_neg (Nat.not_lt.mpr h), he]

theorem value_of_read (h : kind.leastArguments ≤ args.length)
    (hv : readOperands 1 args = .ok values) :
    kind.operation.value args = bounded kind.label values (kind.compute values) := by
  simp only [value, operation, parseOperands, if_neg (Nat.not_lt.mpr h), hv]

/-- All that can come of a standard operation. -/
theorem value_cases (args : List String) :
    (∃ x, kind.operation.value args = .ok x) ∨
      kind.operation.value args = .error (.error (.tooFewArguments kind.tooFew)) ∨
      (∃ position arg, kind.operation.value args = .error (.error (.invalidNumber position arg))) ∨
      kind.operation.value args = .error (.error .divisionByZero) ∨
      kind.operation.value args = .error (.error (.overflow kind.label)) := by
  rcases Nat.lt_or_ge args.length kind.leastArguments with hfew | hargs
  · exact .inr (.inl (kind.value_of_few hfew))
  cases hr : readOperands 1 args with
  | error e =>
    obtain ⟨position, arg, rfl⟩ := error_of_readOperands hr
    exact .inr (.inr (.inl ⟨position, arg, kind.value_of_unread hargs hr⟩))
  | ok values =>
    have hvalues : kind.leastArguments ≤ values.length := length_of_readOperands hr ▸ hargs
    rw [kind.value_of_read hargs hr]
    rcases kind.compute_cases hvalues with ⟨x, hx⟩ | hzero
    · rw [hx, bounded]
      split
      · exact .inr (.inr (.inr (.inr rfl)))
      · exact .inl ⟨x, rfl⟩
    · rw [hzero]
      exact .inr (.inr (.inr (.inl rfl)))

theorem isRecordable_tooFew : isRecordable kind.tooFew = true := by
  refine isRecordable_of_head? ?_
  cases kind <;> decide

/-- The text of an operation is recorded unless it tells of a division by zero or an overflow. -/
theorem exists_execute (args : List String) : ∃ text, kind.operation.execute args = .ok text ∧
    (isRecordable text = true ↔ kind.operation.Calculates args) := by
  rw [execute_eq_textOf, Calculates]
  rcases kind.value_cases args with ⟨x, hv⟩ | hv | ⟨position, arg, hv⟩ | hv | hv <;> rw [hv]
  · exact ⟨x.text, rfl, by simp [isRecordable_text]⟩
  · refine ⟨kind.tooFew, rfl, ?_⟩
    simp [kind.isRecordable_tooFew]
  · refine ⟨_, rfl, ?_⟩
    simp [OperationError.isRecordable_invalidNumber]
  · refine ⟨_, rfl, ?_⟩
    simp [OperationError.isRecordable_divisionByZero]
  · refine ⟨_, rfl, ?_⟩
    simp [OperationError.isRecordable_overflow]

end Standard

end Operation

end Calculator
