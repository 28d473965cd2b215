import Calculator.Proofs.Expression.Groups
import Calculator.Proofs.Expression.Terms
import Calculator.Proofs.Number.Negation
import Calculator.Proofs.Number.ReadBack

/-!
Well-formed expressions as trees, their values from left to right, and what putting the written values
of groups into the text makes of these values.
-/

namespace Calculator

namespace Expression

/-- What may stand before the first numeral. -/
inductive Sign where
  | none
  | plus
  | minus

namespace Sign

def chars : Sign → List Char
  | none => []
  | plus => ['+']
  | minus => ['-']

def isNegative : Sign → Bool
  | minus => true
  | _ => false

end Sign

/-- A first operand and any number of operators with an operand after each. An operand is a numeral or
a group. -/
inductive Chain where
  | numeral (sign : Sign) (literal : Literal)
  | group (inside : Chain)
  | thenNumeral (front : Chain) (op : Operator) (literal : Literal)
  | thenGroup (front : Chain) (op : Operator) (inside : Chain)

namespace Chain

def chars : Chain → List Char
  | numeral sign l => sign.chars ++ l.chars
  | group inside => '(' :: (inside.chars ++ [')'])
  | thenNumeral front op l => front.chars ++ op.toChar :: l.chars
  | thenGroup front op inside => front.chars ++ op.toChar :: '(' :: (inside.chars ++ [')'])

/-- The value from left to right, a group standing for the value of its inside. -/
def value : Chain → Binary64
  | numeral sign l => l.value sign.isNegative
  | group inside => inside.value
  | thenNumeral front op l => op.apply front.value (l.value false)
  | thenGroup front op inside => op.apply front.value inside.value

/-- The value that putting written values into the text gives: the sign of a negative group takes the
place of the operator before it. -/
def splicedValue : Chain → Binary64
  | numeral sign l => l.value sign.isNegative
  | group inside => inside.splicedValue
  | thenNumeral front op l => op.apply front.splicedValue (l.value false)
  | thenGroup front op inside =>
    if inside.splicedValue.isNegative then front.splicedValue + inside.splicedValue
    else op.apply front.splicedValue inside.splicedValue

/-- No group whose value has a minus sign comes after another operator than `+`. -/
def KeepsSigns : Chain → Prop
  | numeral _ _ => True
  | group inside => inside.KeepsSigns
  | thenNumeral front _ _ => front.KeepsSigns
  | thenGroup front op inside =>
    front.KeepsSigns ∧ inside.KeepsSigns ∧ (op = .plus ∨ inside.value.isNegative = false)

theorem splicedValue_eq_value {c : Chain} (h : c.KeepsSigns) : c.splicedValue = c.value := by
  induction c with
  | numeral sign l => rfl
  | group inside ih => exact ih h
  | thenNumeral front op l ih =>
    unfold splicedValue value
    rw [ih h]
  | thenGroup front op inside ihf ihi =>
    obtain ⟨hf, hi, hs⟩ := h
    unfold splicedValue value
    rw [ihf hf, ihi hi]
    rcases hs with rfl | hs
    · split <;> rfl
    · rw [hs]
      rfl

def pieces : Chain → List Piece
  | numeral sign l => (sign.chars ++ l.chars).map .char
  | group inside => [.group inside.pieces]
  | thenNumeral front op l => front.pieces ++ (op.toChar :: l.chars).map .char
  | thenGroup front op inside => front.pieces ++ [.char op.toChar, .group inside.pieces]

end Chain

namespace Levels

/-- Characters of numerals and operators are pieces of their own. -/
theorem foldl_read_plain (l : Levels) {cs : List Char} (h : ∀ c ∈ cs, c ≠ '(' ∧ c ≠ ')') :
    cs.foldl read l = ⟨l.inner ++ cs.map .char, l.outer⟩ :=
  l.foldl_read_chars (fun hm => (h _ hm).1 rfl) fun hm => (h _ hm).2 rfl

end Levels

namespace Chain

theorem plain_literal (l : Literal) : ∀ c ∈ l.chars, c ≠ '(' ∧ c ≠ ')' := by
  intro c hc
  rcases Literal.mem_chars hc with h | rfl
  · constructor
    · rintro rfl
      cases h
    · rintro rfl
      cases h
  · decide

theorem plain_sign (sign : Sign) : ∀ c ∈ sign.chars, c ≠ '(' ∧ c ≠ ')' := by
  cases sign <;> simp [Sign.chars]

theorem plain_operator (op : Operator) : op.toChar ≠ '(' ∧ op.toChar ≠ ')' := by
  cases op <;> decide

theorem read_operator (l : Levels) (op : Operator) :
    l.read op.toChar = ⟨l.inner ++ [.char op.toChar], l.outer⟩ := by
  obtain ⟨ho, hc⟩ := plain_operator op
  simp [Levels.read, ho, hc]

/-- The text of a tree is read as its pieces, whatever has been read before. -/
theorem foldl_read (c : Chain) (l : Levels) :
    c.chars.foldl Levels.read l = ⟨l.inner ++ c.pieces, l.outer⟩ := by
  induction c generalizing l with
  | numeral sign literal =>
    refine l.foldl_read_plain ?_
    intro c hc
    rcases List.mem_append.mp hc with hc | hc
    · exact plain_sign sign c hc
    · exact plain_literal literal c hc
  | group inside ih =>
    rw [chars, List.foldl_cons, List.foldl_append, ih]
    simp [Levels.read, pieces]
  | thenNumeral front op literal ih =>
    rw [chars, List.foldl_append, ih, List.foldl_cons, read_operator,
      Levels.foldl_read_plain _ (plain_literal literal)]
    simp [pieces]
  | thenGroup front op inside ihf ihi =>
    rw [chars, List.foldl_append, ihf, List.foldl_cons, read_operator, List.foldl_cons,
      List.foldl_append, ihi]
    simp [Levels.read, pieces]

theorem pieces?_chars (c : Chain) : pieces? c.chars = some c.pieces := by
  unfold pieces?
  rw [foldl_read]
  rfl

end Chain

/-- A written value that can stand in a text is a literal, with a minus sign before it if the value
has one. -/
theorem literal_of_allowed {x : Binary64} (h : ∀ c ∈ x.written, isAllowed c = true) :
    ∃ l : Literal,
      (x.isNegative = false ∧ x.written = l.chars ∧ l.value false = x) ∨
      (x.isNegative = true ∧ x.written = '-' :: l.chars ∧ l.value true = x ∧
        l.value false = .ofMagnitude false x.magnitude) := by
  have hn : x.isNaN = false := by
    rw [← Bool.not_eq_true]
    intro hn
    have hw : x.written = "nan".toList := if_pos hn
    exact absurd (h 'n' (by simp [hw])) (by decide)
  have hi : ¬ x.isInfinite = true := by
    intro hi
    have hm : x.magnitude = Binary64.infiniteMagnitude := by simpa [Binary64.isInfinite] using hi
    have hw : 'i' ∈ x.written := by
      rw [Binary64.written_eq hn]
      simp [Binary64.writtenMagnitude, hm]
    exact absurd (h 'i' hw) (by decide)
  have hf : x.isFinite = true := (Binary64.isFinite_iff x).mpr ⟨by simp [hn], hi⟩
  obtain ⟨l, hl, hv⟩ := Binary64.exists_literal hf fun he => absurd (h 'e' he) (by decide)
  have hx := x.ofMagnitude_magnitude
  refine ⟨l, ?_⟩
  cases hs : x.isNegative with
  | false =>
    rw [hs] at hl hx
    exact .inl ⟨rfl, hl, (hv false).trans hx⟩
  | true =>
    rw [hs] at hl hx
    exact .inr ⟨rfl, hl, (hv true).trans hx, hv false⟩

namespace Chain

variable {c inside : Chain} {text : List Char}

theorem fold_sign_literal (sign : Sign) (l : Literal) :
    fold (sign.chars ++ l.chars) = .ok (l.value sign.isNegative) := by
  cases sign with
  | none => exact fold_literal l
  | plus => exact fold_plus_literal l
  | minus => exact fold_minus_literal l

theorem fold_written {x : Binary64} (h : ∀ c ∈ x.written, isAllowed c = true) :
    fold x.written = .ok x := by
  obtain ⟨l, ⟨-, hw, hv⟩ | ⟨-, hw, hv, -⟩⟩ := literal_of_allowed h
  · rw [hw, fold_literal, hv]
  · rw [hw, fold_minus_literal, hv]

/-- The written value of a group after an operator: a minus sign of its own turns the operator into an
addition. -/
theorem fold_append_written {cs : List Char} {x y : Binary64} (h : fold cs = .ok x)
    (op : Operator) (ha : ∀ c ∈ y.written, isAllowed c = true) :
    fold (cs ++ op.toChar :: y.written) = .ok (if y.isNegative then x + y else op.apply x y) := by
  obtain ⟨l, ⟨hs, hw, hv⟩ | ⟨hs, hw, hv, hm⟩⟩ := literal_of_allowed ha
  · rw [hw, fold_append_literal l h, hv, hs]
    rfl
  · have hy : Binary64.ofMagnitude true y.magnitude = y := hs ▸ y.ofMagnitude_magnitude
    rw [hw, fold_append_minus_literal l h, hm, Binary64.sub_ofMagnitude x y.magnitude_lt, hy, hs]
    rfl

theorem flat?_singleton (p : Piece) : flat? [p] = p.flat? := by
  cases h : p.flat? <;> simp [flat?, h]

/-- Where the text of a group stands in the text around it, the group's value has been written. -/
theorem written_of_flat? {cs : List Char}
    (ih : ∀ text, flat? inside.pieces = some text → (∀ c ∈ text, isAllowed c = true) →
      fold text = .ok inside.splicedValue)
    (h : Piece.flat? (.group inside.pieces) = some cs) : cs = inside.splicedValue.written := by
  rw [Piece.flat?, Option.map_eq_some_iff] at h
  obtain ⟨v, hv, rfl⟩ := h
  obtain ⟨text, ht, hv⟩ := Option.bind_eq_some_iff.mp hv
  obtain ⟨ha, hf⟩ := flatValue?_eq_some hv
  rw [ih text ht ha] at hf
  rw [Except.ok.inj hf]

/-- A tree whose groups have all been replaced folds to its spliced value. -/
theorem fold_of_flat? (h : flat? c.pieces = some text) (ha : ∀ c ∈ text, isAllowed c = true) :
    fold text = .ok c.splicedValue := by
  induction c generalizing text with
  | numeral sign l =>
    rw [pieces, flat?_chars] at h
    cases h
    exact fold_sign_literal sign l
  | group inside ih =>
    rw [pieces, flat?_singleton] at h
    obtain rfl := written_of_flat? (fun text => ih) h
    exact fold_written ha
  | thenNumeral front op l ih =>
    rw [pieces, flat?_append, flat?_chars] at h
    obtain ⟨cs, hcs, h⟩ := Option.bind_eq_some_iff.mp h
    obtain rfl : cs ++ op.toChar :: l.chars = text := by simpa using h
    have hfront := ih hcs fun c hc => ha c (List.mem_append_left _ hc)
    exact fold_append_literal l hfront op
  | thenGroup front op inside ihf ihi =>
    rw [pieces, flat?_append] at h
    obtain ⟨cs, hcs, h⟩ := Option.bind_eq_some_iff.mp h
    obtain ⟨rest, hrest, rfl⟩ := Option.map_eq_some_iff.mp h
    rw [flat?, Piece.flat?, Option.bind_some] at hrest
    obtain ⟨group, hgroup, rfl⟩ := Option.map_eq_some_iff.mp hrest
    rw [flat?_singleton] at hgroup
    obtain rfl := written_of_flat? (fun text => ihi) hgroup
    have hfront := ihf hcs fun c hc => ha c (List.mem_append_left _ hc)
    exact fold_append_written hfront op fun c hc => ha c (by simp [hc])

/-- Every value that is given to the text of a tree is the tree's value from left to right, except that
a group with a negative value after an operator is added, whatever the operator. -/
theorem evaluate_chain (c : Chain) (s : String) (v : Binary64) (hs : compact s = c.chars)
    (h : evaluate s = .ok v) : v = c.splicedValue ∧ (c.KeepsSigns → v = c.value) := by
  obtain ⟨hne, ha, hn⟩ := checks_of_evaluate_eq_ok h
  have hv : structuralValue? c.chars = some v := by
    rw [← hs, ← evaluate_toOption hne ha hn, h]
    rfl
  have hsv : v = c.splicedValue := by
    rw [structuralValue?, pieces?_chars, Option.bind_some] at hv
    obtain ⟨text, ht, hv⟩ := Option.bind_eq_some_iff.mp hv
    obtain ⟨hall, hf⟩ := flatValue?_eq_some hv
    rw [fold_of_flat? ht hall] at hf
    exact (Except.ok.inj hf).symm
  exact ⟨hsv, fun hk => hsv.trans (splicedValue_eq_value hk)⟩

def digit (c : Char) (h : c.isDigit = true) : Literal where
  whole := [c]
  places := none
  whole_ne_nil := List.cons_ne_nil _ _
  isDigit_whole := by simpa using h
  isDigit_places := fun _ hm => absurd hm List.not_mem_nil

def one : Literal := digit '1' rfl
def two : Literal := digit '2' rfl
def three : Literal := digit '3' rfl

/-- `2*(3-1)`, with blanks. -/
theorem evaluate_chain_positive_group : Binary64.ofNat 4 =
    (thenGroup (numeral .none two) .times (thenNumeral (numeral .none three) .minus one)).value :=
  (evaluate_chain _ " 2 * (3-1 )" _ (by decide +kernel)
    (toOption_eq_some_iff.mp (by decide +kernel))).2 ⟨trivial, trivial, .inr (by decide +kernel)⟩

/-- A negative group does not keep its meaning after another operator than `+`: the value that is given
to `2-(1-3)` is `0.0`. -/
theorem evaluate_minus_negative_group : ¬ ∀ (c : Chain) (s : String) (v : Binary64),
    compact s = c.chars → evaluate s = .ok v → v = c.value := by
  intro h
  have h0 := h (thenGroup (numeral .none two) .minus (thenNumeral (numeral .none one) .minus three))
    "2-(1-3)" .zero (by decide +kernel) (toOption_eq_some_iff.mp (by decide +kernel))
  exact absurd h0 (by decide +kernel)

end Chain

end Expression

end Calculator
