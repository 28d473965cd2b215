import Mathlib.Algebra.GroupWithZero.Nat
import Calculator.Proofs.Csv.ReadBack

/-!
The lines of a text and the records in it. A line of the text may be blank, which is no record, and a
record may go over several lines, where a quoted field holds their ends.
-/

namespace Calculator.Csv

/-- How many characters of a text are picked out by what stands before them. -/
def placesAfter (picks : List Char → Char → Bool) : List Char → List Char → Nat
  | _, [] => 0
  | before, c :: cs => (if picks before c then 1 else 0) + placesAfter picks (before ++ [c]) cs

theorem placesAfter_concat (picks : List Char → Char → Bool) (before cs : List Char) (c : Char) :
    placesAfter picks before (cs ++ [c]) =
      placesAfter picks before cs + if picks (before ++ cs) c then 1 else 0 := by
  induction cs generalizing before with
  | nil => simp [placesAfter]
  | cons d cs ih => simp [placesAfter, ih, Nat.add_assoc]

def isBreak (c : Char) : Bool := c = '\n' || c = '\r'

/-- A line ends at a carriage return, and at a line feed that is not part of a CRLF. -/
def endsLine (before : List Char) (c : Char) : Bool :=
  c = '\r' || c = '\n' && before.getLast? ≠ some '\r'

/-- How many lines end in a text. -/
def lineEnds (text : List Char) : Nat := placesAfter endsLine [] text

/-- Whether a line begins after a text. -/
def atLineStart (before : List Char) : Bool := before.getLast?.all isBreak

/-- Whether quotes are open after a text: there is an odd number of them. -/
def inQuotes (before : List Char) : Bool := before.count '"' % 2 = 1

/-- A blank line ends where it begins, outside of quotes. -/
def endsBlankLine (before : List Char) (c : Char) : Bool :=
  endsLine before c && atLineStart before && !inQuotes before

/-- How many blank lines end in a text. -/
def blankLines (text : List Char) : Nat := placesAfter endsBlankLine [] text

/-- How many lines end within the fields of a record. -/
def fieldEnds (record : Record) : Nat := (record.map fun field => lineEnds field.toList).sum

variable {before : List Char} {c : Char}

theorem lineEnds_concat (before : List Char) (c : Char) :
    lineEnds (before ++ [c]) = lineEnds before + if endsLine before c then 1 else 0 :=
  placesAfter_concat endsLine [] before c

theorem blankLines_concat (before : List Char) (c : Char) :
    blankLines (before ++ [c]) = blankLines before + if endsBlankLine before c then 1 else 0 :=
  placesAfter_concat endsBlankLine [] before c

theorem isBreak_iff : isBreak c = true ↔ c = '\n' ∨ c = '\r' := by
  simp [isBreak]

theorem endsLine_of_not_break (h : isBreak c = false) : endsLine before c = false := by
  obtain ⟨hlf, hcr⟩ : c ≠ '\n' ∧ c ≠ '\r' := by
    rwa [← not_or, ← isBreak_iff, Bool.not_eq_true]
  simp [endsLine, hlf, hcr]

theorem lineEnds_of_not_break (h : isBreak c = false) :
    lineEnds (before ++ [c]) = lineEnds before := by
  rw [lineEnds_concat, endsLine_of_not_break h]
  rfl

theorem blankLines_of_not_break (h : isBreak c = false) :
    blankLines (before ++ [c]) = blankLines before := by
  rw [blankLines_concat, endsBlankLine, endsLine_of_not_break h]
  rfl

theorem placesAfter_endsLine_eq_zero_iff {text : List Char} (h : before.getLast? ≠ some '\r') :
    placesAfter endsLine before text = 0 ↔ ∀ c ∈ text, isBreak c = false := by
  induction text generalizing before with
  | nil => simp [placesAfter]
  | cons c cs ih =>
    cases hc : isBreak c with
    | true =>
      have hends : endsLine before c = true := by
        rcases isBreak_iff.mp hc with rfl | rfl <;> simp [endsLine, h]
      simp [placesAfter, hends, hc]
    | false =>
      have hlast : (before ++ [c]).getLast? ≠ some '\r' := by
        rw [List.getLast?_concat]
        rintro he
        cases he
        cases hc
      simp [placesAfter, endsLine_of_not_break hc, ih hlast, hc]

theorem fieldEnds_eq_zero_iff (record : Record) :
    fieldEnds record = 0 ↔ ∀ field ∈ record, ∀ c ∈ field.toList, isBreak c = false := by
  have hfield : ∀ field : String, lineEnds field.toList = 0 ↔ ∀ c ∈ field.toList, isBreak c = false :=
    fun field => placesAfter_endsLine_eq_zero_iff (by simp)
  rw [fieldEnds, List.sum_eq_zero_iff_forall_eq_nat, List.forall_mem_map]
  exact forall₂_congr fun field _ => hfield field

theorem atLineStart_concat : atLineStart (before ++ [c]) = isBreak c := by
  simp [atLineStart]

theorem inQuotes_quote : inQuotes (before ++ ['"']) = !inQuotes before := by
  have hcount : (before ++ ['"']).count '"' = before.count '"' + 1 := by simp
  unfold inQuotes
  rw [hcount]
  rcases Nat.mod_two_eq_zero_or_one (before.count '"') with h | h <;> simp [Nat.add_mod, h]

theorem inQuotes_of_ne (hc : c ≠ '"') : inQuotes (before ++ [c]) = inQuotes before := by
  simp [inQuotes, hc]

theorem fieldEnds_reverse (record : Record) : fieldEnds record.reverse = fieldEnds record := by
  rw [fieldEnds, List.map_reverse, List.sum_reverse]
  rfl

namespace Reader

variable {r r' : Reader}

/-- How many lines end within the fields that a reader has read, the last of them not finished. -/
def within (r : Reader) : Nat :=
  (r.records.map fieldEnds).sum + fieldEnds r.fields + lineEnds r.field.reverse

/-- What a reader can do with a character. -/
inductive Steps (r : Reader) (c : Char) : Reader → Prop where
  | inside (hm : r.mode = .quoted) (hc : c ≠ '"') (line : Nat) : Steps r c { r.put c with line := line }
  | closes (hm : r.mode = .quoted) (hc : c = '"') : Steps r c { r with mode := .closing }
  | doubles (hm : r.mode = .closing) (hc : c = '"') : Steps r c ({ r with mode := .quoted }.put c)
  | opens (hm : r.mode = .plain ∨ r.mode = .returned) (hc : c = '"') (hf : r.field = []) :
      Steps r c { r with mode := .quoted, begun := true }
  | joins (hm : r.mode = .returned) (hc : c = '\n') : Steps r c { r with mode := .plain }
  | separates (hm : r.mode ≠ .quoted) (hc : c = ',') : Steps r c r.finishField
  | puts (hm : r.mode ≠ .quoted) (hc : c ≠ '"') (hb : isBreak c = false) :
      Steps r c ({ r with mode := .plain }.put c)
  | ends (mode : Mode) (hm : r.mode ≠ .quoted)
      (hc : (c = '\r' ∧ mode = .returned) ∨ c = '\n' ∧ r.mode ≠ .returned ∧ mode = .plain) :
      Steps r c { r.endLine with mode := mode }

theorem endLine_plain (r : Reader) : ({ r.endLine with mode := .plain } : Reader) = r.endLine := by
  unfold endLine finishRecord
  split <;> rfl

theorem stepPlain_eq_ok (hs : r.stepPlain c = .ok r') (hm : r.mode ≠ .quoted)
    (hq : c = '"' → r.mode ≠ .closing) (hn : c = '\n' → r.mode ≠ .returned) : r.Steps c r' := by
  unfold stepPlain at hs
  split at hs
  · split at hs
    next hf =>
      cases hs
      refine .opens ?_ rfl (List.isEmpty_iff.mp hf)
      cases hmode : r.mode with
      | plain => exact .inl rfl
      | returned => exact .inr rfl
      | quoted => exact absurd hmode hm
      | closing => exact absurd hmode (hq rfl)
    next => cases hs
  · cases hs
    exact .separates hm rfl
  · cases hs
    have hends := Steps.ends .plain hm (.inr ⟨rfl, hn rfl, rfl⟩)
    rwa [endLine_plain] at hends
  · cases hs
    exact .ends .returned hm (.inl ⟨rfl, rfl⟩)
  next hquote _ hlf hcr =>
    cases hs
    exact .puts hm hquote (by simpa [isBreak] using ⟨hlf, hcr⟩)

theorem step_eq_ok (hs : r.step c = .ok r') : r.Steps c r' := by
  unfold step at hs
  split at hs
  next hm => exact stepPlain_eq_ok hs (by simp [hm]) (by simp [hm]) (by simp [hm])
  next hm =>
    split at hs
    · cases hs
      exact .closes hm rfl
    · cases hs
      exact .inside hm (by decide) (r.line + 1)
    next hquote _ =>
      cases hs
      exact .inside hm hquote r.line
  next hm =>
    split at hs
    next hc =>
      cases hs
      exact .doubles hm hc
    next hc => exact stepPlain_eq_ok hs (by simp [hm]) (fun h => absurd h hc) (by simp [hm])
  next hm =>
    split at hs
    next hc =>
      cases hs
      exact .joins hm hc
    next hc => exact stepPlain_eq_ok hs (by simp [hm]) (by simp [hm]) (fun h => absurd h hc)

theorem within_put (hc : isBreak c = false) : (r.put c).within = r.within := by
  have hl : lineEnds (r.field.reverse ++ [c]) = lineEnds r.field.reverse := lineEnds_of_not_break hc
  simp [within, put, hl]

theorem within_finishField (r : Reader) : r.finishField.within = r.within := by
  have hnil : lineEnds [] = 0 := rfl
  simp only [within, finishField, fieldEnds, List.map_cons, List.sum_cons, String.toList_ofList,
    List.reverse_nil]
  omega

/-- How many rows a reader has seen the beginning of. -/
def rows (r : Reader) : Nat := r.records.length + if r.begun then 1 else 0

theorem rows_of_begun (h : r.begun = true) : r.rows = r.records.length + 1 := by
  simp [rows, h]

theorem rows_of_not_begun (h : r.begun = false) : r.rows = r.records.length := by
  simp [rows, h]

theorem finishRecord_of_not_begun (h : r.begun = false) : r.finishRecord = { r with mode := .plain } := by
  simp [finishRecord, h]

theorem finishRecord_of_begun (h : r.begun = true) :
    r.finishRecord =
      { r with
        mode := .plain
        records := r.finishField.fields.reverse :: r.records
        fields := []
        field := []
        begun := false } := by
  simp [finishRecord, h, finishField]

/-- Finishing a record leaves none begun, and leaves the rows and the lines within fields as they are. -/
theorem finishRecord_counts (r : Reader) :
    r.finishRecord.begun = false ∧ r.finishRecord.records.length = r.rows ∧
      r.records <:+ r.finishRecord.records ∧ r.finishRecord.within = r.within := by
  cases hb : r.begun with
  | true =>
    have hw := r.within_finishField
    rw [finishRecord_of_begun hb, rows_of_begun hb]
    refine ⟨rfl, List.length_cons, List.suffix_cons _ _, hw ▸ ?_⟩
    simp only [within, finishField, List.map_cons, List.sum_cons, fieldEnds_reverse]
    simp only [fieldEnds, List.map_nil, List.sum_nil]
    omega
  | false =>
    rw [finishRecord_of_not_begun hb, rows_of_not_begun hb]
    exact ⟨hb, rfl, List.suffix_rfl, rfl⟩

/-- A reader that has read a text: what its state says of the end of the text, and that the lines that
have ended are those of its records, the blank ones and those within fields. -/
structure Stands (r : Reader) (before : List Char) : Prop where
  quoted_iff : r.mode = .quoted ↔ inQuotes before = true
  return_iff : before.getLast? = some '\r' ↔
    r.mode = .returned ∨ r.mode = .quoted ∧ r.field.head? = some '\r'
  begun_eq : r.mode ≠ .quoted → r.begun = !atLineStart before
  empty : r.begun = false → r.mode ≠ .quoted ∧ r.fields = [] ∧ r.field = []
  lines : lineEnds before = r.records.length + blankLines before + r.within

namespace Stands

theorem start : ({} : Reader).Stands [] :=
  ⟨by simp [inQuotes], by simp, by simp [atLineStart], by simp, rfl⟩

theorem begun_of_quoted (h : r.Stands before) (hm : r.mode = .quoted) : r.begun = true := by
  cases hb : r.begun with
  | true => rfl
  | false => exact absurd hm (h.empty hb).1

theorem closed (h : r.Stands before) (hm : r.mode ≠ .quoted) : inQuotes before = false :=
  Bool.eq_false_iff.mpr (mt h.quoted_iff.mpr hm)

/-- A character that is no line break goes to the record that is read. -/
theorem goOn (h : r.Stands before) (hc : isBreak c = false)
    (hquoted : r'.mode = .quoted ↔ inQuotes (before ++ [c]) = true)
    (hmode : r'.mode ≠ .returned) (hfield : r'.mode = .quoted → r'.field.head? ≠ some '\r')
    (hbegun : r'.begun = true) (hrecords : r'.records = r.records) (hwithin : r'.within = r.within) :
    r'.Stands (before ++ [c]) where
  quoted_iff := hquoted
  return_iff := by
    have hcr : c ≠ '\r' := by
      rintro rfl
      cases hc
    simp only [List.getLast?_concat, Option.some.injEq, hcr, hmode, false_or, false_iff, not_and]
    exact hfield
  begun_eq _ := by rw [hbegun, atLineStart_concat, hc, Bool.not_false]
  empty hb := by simp [hbegun] at hb
  lines := by
    rw [lineEnds_of_not_break hc, blankLines_of_not_break hc, hrecords, hwithin]
    exact h.lines

/-- Inside quotes a line ends in the field where it ends in the text. -/
theorem inside (h : r.Stands before) (hm : r.mode = .quoted) (hb : isBreak c = true) (line : Nat) :
    ({ r.put c with line := line } : Reader).Stands (before ++ [c]) where
  quoted_iff := by
    have hc : c ≠ '"' := by
      rintro rfl
      cases hb
    rw [inQuotes_of_ne hc]
    exact h.quoted_iff
  return_iff := by simp [put, hm]
  begun_eq hq := absurd hm hq
  empty he := by cases he
  lines := by
    have hlast : before.getLast? = some '\r' ↔ r.field.head? = some '\r' := by
      simpa [hm] using h.return_iff
    have hends : endsLine r.field.reverse c = endsLine before c := by
      simp [endsLine, List.getLast?_reverse, hlast]
    have hblank : endsBlankLine before c = false := by
      simp [endsBlankLine, h.quoted_iff.mp hm]
    have hl := h.lines
    rw [lineEnds_concat, blankLines_concat, hblank, if_neg Bool.false_ne_true]
    simp only [within, put, List.reverse_cons, lineEnds_concat, hends] at hl ⊢
    omega

/-- The line feed of a CRLF ends nothing more. -/
theorem joins (h : r.Stands before) (hm : r.mode = .returned) :
    ({ r with mode := .plain } : Reader).Stands (before ++ ['\n']) := by
  have hlast : before.getLast? = some '\r' := h.return_iff.mpr (.inl hm)
  have hclosed : inQuotes before = false := h.closed (by simp [hm])
  have hbegun : r.begun = false := by
    rw [h.begun_eq (by simp [hm])]
    simp [atLineStart, hlast, isBreak]
  have hends : endsLine before '\n' = false := by simp [endsLine, hlast]
  refine ⟨?_, by simp, fun _ => ?_, fun _ => ⟨by simp, (h.empty hbegun).2⟩, ?_⟩
  · simp [inQuotes_of_ne, hclosed]
  · simp [hbegun, atLineStart_concat, isBreak]
  · rw [lineEnds_concat, blankLines_concat, endsBlankLine, hends]
    exact h.lines

/-- Outside quotes a line that ends is that of the record before it, or blank. -/
theorem ends (h : r.Stands before) {mode : Mode} (hm : r.mode ≠ .quoted)
    (hc : (c = '\r' ∧ mode = .returned) ∨ c = '\n' ∧ r.mode ≠ .returned ∧ mode = .plain) :
    ({ r.endLine with mode := mode } : Reader).Stands (before ++ [c]) := by
  have hclosed := h.closed hm
  have hquote : c ≠ '"' := by rcases hc with ⟨rfl, -⟩ | ⟨rfl, -⟩ <;> decide
  have hmode : mode ≠ .quoted := by rcases hc with ⟨-, rfl⟩ | ⟨-, -, rfl⟩ <;> decide
  have hbreak : isBreak c = true := by rcases hc with ⟨rfl, -⟩ | ⟨rfl, -⟩ <;> rfl
  have hends : endsLine before c = true := by
    rcases hc with ⟨rfl, -⟩ | ⟨rfl, hn, -⟩
    · rfl
    · have hlast : before.getLast? ≠ some '\r' := fun he => by simpa [hm, hn] using h.return_iff.mp he
      simpa [endsLine] using hlast
  have hblank : endsBlankLine before c = !r.begun := by
    rw [endsBlankLine, hends, hclosed, h.begun_eq hm]
    simp
  obtain ⟨hbegun, hrecords, -, hwithin⟩ := r.finishRecord_counts
  refine ⟨?_, ?_, fun _ => ?_, fun _ => ⟨hmode, ?_⟩, ?_⟩
  · simp [inQuotes_of_ne hquote, hclosed, hmode]
  · simp only [List.getLast?_concat, Option.some.injEq, hmode, false_and, or_false]
    rcases hc with ⟨rfl, rfl⟩ | ⟨rfl, -, rfl⟩ <;> simp
  · rw [atLineStart_concat, hbreak]
    exact hbegun
  · cases hb : r.begun with
    | true =>
      rw [endLine, finishRecord_of_begun hb]
      exact ⟨rfl, rfl⟩
    | false =>
      rw [endLine, finishRecord_of_not_begun hb]
      exact (h.empty hb).2
  · have hl := h.lines
    rw [lineEnds_concat, blankLines_concat, hends, hblank]
    change lineEnds before + _ = r.finishRecord.records.length + _ + r.finishRecord.within
    rw [hrecords, hwithin]
    cases hb : r.begun with
    | true =>
      rw [rows_of_begun hb]
      simp only [Bool.not_true, Bool.false_eq_true, if_false, if_true]
      omega
    | false =>
      rw [rows_of_not_begun hb]
      simp only [Bool.not_false, if_true]
      omega

theorem step (h : r.Stands before) (hs : r.step c = .ok r') : r'.Stands (before ++ [c]) := by
  cases step_eq_ok hs with
  | inside hm hc line =>
    cases hb : isBreak c with
    | true => exact h.inside hm hb line
    | false =>
      have hwithin : (r.put c).within = r.within := within_put hb
      refine h.goOn hb ?_ ?_ ?_ rfl rfl hwithin
      · rw [inQuotes_of_ne hc]
        exact h.quoted_iff
      · exact fun hr => by cases hm.symm.trans hr
      · rintro - he
        cases he
        cases hb
  | closes hm hc =>
    subst hc
    have hopen := h.quoted_iff.mp hm
    exact h.goOn rfl (by simp [inQuotes_quote, hopen]) (by simp) (by simp) (h.begun_of_quoted hm) rfl
      rfl
  | doubles hm hc =>
    subst hc
    have hclosed := h.closed (by simp [hm])
    exact h.goOn rfl (by simp [inQuotes_quote, hclosed, put]) (by simp [put]) (by simp [put]) rfl rfl
      (within_put rfl)
  | opens hm hc hf =>
    subst hc
    have hclosed := h.closed (by rcases hm with hm | hm <;> simp [hm])
    exact h.goOn rfl (by simp [inQuotes_quote, hclosed]) (by simp) (by simp [hf]) rfl rfl rfl
  | joins hm hc =>
    subst hc
    exact h.joins hm
  | separates hm hc =>
    subst hc
    have hclosed := h.closed hm
    exact h.goOn rfl (by simp [inQuotes_of_ne, hclosed, finishField]) (by simp [finishField])
      (by simp [finishField]) rfl rfl r.within_finishField
  | puts hm hc hb =>
    have hclosed := h.closed hm
    exact h.goOn hb (by simp [inQuotes_of_ne hc, hclosed, put]) (by simp [put]) (by simp [put]) rfl rfl
      (within_put hb)
  | ends mode hm hc => exact h.ends hm hc

end Stands

theorem foldlM_cons_eq_ok {cs : List Char} (h : (c :: cs).foldlM step r = .ok r') :
    ∃ next, r.step c = .ok next ∧ cs.foldlM step next = .ok r' := by
  rw [List.foldlM_cons] at h
  cases hs : r.step c with
  | error e =>
    rw [hs] at h
    cases h
  | ok next =>
    rw [hs] at h
    exact ⟨next, rfl, h⟩

theorem Stands.run {cs : List Char} (h : r.Stands before) (hs : cs.foldlM Reader.step r = .ok r') :
    r'.Stands (before ++ cs) := by
  induction cs generalizing r before with
  | nil =>
    cases hs
    rwa [List.append_nil]
  | cons c cs ih =>
    obtain ⟨next, hone, hrest⟩ := foldlM_cons_eq_ok hs
    have hall := ih (h.step hone) hrest
    rwa [List.append_assoc] at hall

/-- A character leaves the records as they are, or ends the one that has begun. -/
theorem records_step (hs : r.step c = .ok r') :
    (r'.records = r.records ∧ (r.begun = true → r'.begun = true)) ∨
      r.begun = true ∧ r'.begun = false ∧ ∃ record, r'.records = record :: r.records := by
  cases step_eq_ok hs with
  | inside hm hc line => exact .inl ⟨rfl, fun _ => rfl⟩
  | closes hm hc => exact .inl ⟨rfl, id⟩
  | doubles hm hc => exact .inl ⟨rfl, fun _ => rfl⟩
  | opens hm hc hf => exact .inl ⟨rfl, fun _ => rfl⟩
  | joins hm hc => exact .inl ⟨rfl, id⟩
  | separates hm hc => exact .inl ⟨rfl, fun _ => rfl⟩
  | puts hm hc hb => exact .inl ⟨rfl, fun _ => rfl⟩
  | ends mode hm hc =>
    cases hb : r.begun with
    | true =>
      rw [endLine, finishRecord_of_begun hb]
      exact .inr ⟨rfl, rfl, _, rfl⟩
    | false =>
      rw [endLine, finishRecord_of_not_begun hb]
      exact .inl ⟨rfl, fun he => by cases he⟩

theorem records_suffix {cs : List Char} (hs : cs.foldlM step r = .ok r') :
    r.records <:+ r'.records := by
  induction cs generalizing r with
  | nil =>
    cases hs
    exact List.suffix_rfl
  | cons c cs ih =>
    obtain ⟨next, hone, hrest⟩ := foldlM_cons_eq_ok hs
    rcases records_step hone with ⟨he, -⟩ | ⟨-, -, record, he⟩
    · exact he ▸ ih hrest
    · exact (List.suffix_cons record r.records).trans (he ▸ ih hrest)

theorem rows_step (hs : r.step c = .ok r') : r.rows ≤ r'.rows := by
  have hle : r'.records.length ≤ r'.rows := Nat.le_add_right _ _
  rcases records_step hs with ⟨he, hkeep⟩ | ⟨hb, -, record, he⟩
  · cases hb : r.begun with
    | true =>
      have hrows : r'.rows = r.rows := by rw [rows_of_begun hb, rows_of_begun (hkeep hb), he]
      omega
    | false =>
      rw [rows_of_not_begun hb, ← he]
      exact hle
  · rw [he, List.length_cons, ← rows_of_begun hb] at hle
    exact hle

/-- A row more is seen after a character that begins it. -/
theorem begins_of_rows_lt (hs : r.step c = .ok r') (hlt : r.rows < r'.rows) :
    r.begun = false ∧ r'.begun = true ∧ r'.records = r.records := by
  rcases records_step hs with ⟨he, hkeep⟩ | ⟨hb, hb', record, he⟩
  · cases hb : r.begun with
    | true =>
      rw [rows_of_begun hb, rows_of_begun (hkeep hb), he] at hlt
      omega
    | false =>
      cases hb' : r'.begun with
      | true => exact ⟨rfl, rfl, he⟩
      | false =>
        rw [rows_of_not_begun hb, rows_of_not_begun hb', he] at hlt
        omega
  · rw [rows_of_begun hb, rows_of_not_begun hb', he, List.length_cons] at hlt
    omega

theorem rows_foldlM {cs : List Char} (hs : cs.foldlM step r = .ok r') : r.rows ≤ r'.rows := by
  induction cs generalizing r with
  | nil =>
    cases hs
    exact Nat.le_refl _
  | cons c cs ih =>
    obtain ⟨next, hone, hrest⟩ := foldlM_cons_eq_ok hs
    exact Nat.le_trans (rows_step hone) (ih hrest)

/-- A row that is seen in the end begins at a character. -/
theorem exists_begins {cs : List Char} {n : Nat} (hs : cs.foldlM step r = .ok r') (hn : r.rows ≤ n)
    (hn' : n < r'.rows) :
    ∃ before c rest r₀ r₁, cs = before ++ c :: rest ∧ before.foldlM step r = .ok r₀ ∧
      r₀.step c = .ok r₁ ∧ r₀.begun = false ∧ r₁.begun = true ∧ r₀.records.length = n ∧
      r₀.records <:+ r'.records := by
  induction cs generalizing r with
  | nil =>
    cases hs
    omega
  | cons c cs ih =>
    obtain ⟨next, hone, hrest⟩ := foldlM_cons_eq_ok hs
    by_cases hlt : n < next.rows
    · obtain ⟨hb, hb', he⟩ := begins_of_rows_lt hone (by omega)
      rw [rows_of_not_begun hb] at hn
      rw [rows_of_begun hb', he] at hlt
      exact ⟨[], c, cs, r, next, rfl, rfl, hone, hb, hb', by omega, records_suffix hs⟩
    · obtain ⟨before, d, rest, r₀, r₁, hcs, hbefore, hd⟩ := ih hrest (Nat.le_of_not_lt hlt)
      exact ⟨c :: before, d, rest, r₀, r₁, by rw [hcs]; rfl,
        (foldlM_cons_of_ok hone before).trans hbefore, hd⟩

/-- A row begins with a character that breaks no line, and every such character begins one. -/
theorem Stands.begins_iff (h : r.Stands before) (hs : r.step c = .ok r') (hb : r.begun = false) :
    r'.begun = true ↔ isBreak c = false := by
  cases step_eq_ok hs with
  | inside hm hc line => exact absurd hm (h.empty hb).1
  | closes hm hc => exact absurd hm (h.empty hb).1
  | doubles hm hc => simp [put, hc, isBreak]
  | opens hm hc hf => simp [hc, isBreak]
  | joins hm hc => simp [hb, hc, isBreak]
  | separates hm hc => simp [finishField, hc, isBreak]
  | puts hm hc hbreak => simp [put, hbreak]
  | ends mode hm hc =>
    have hbreak : isBreak c = true := by rcases hc with ⟨rfl, -⟩ | ⟨rfl, -⟩ <;> rfl
    simp [endLine, r.finishRecord_counts.1, hbreak]

end Reader

/-- A row of a text begins after a part of it that reads as these records: it is the first row that is
not among them. -/
structure StartsAfter (text : String) (records : List Record) (before : List Char) : Prop where
  read_eq : read (String.ofList before) = .ok records
  line_start : atLineStart before = true
  row : ∃ c rest, text.toList = before ++ c :: rest ∧ isBreak c = false

theorem read_eq_ok {text : String} {records : List Record} (h : read text = .ok records) :
    ∃ r : Reader, text.toList.foldlM Reader.step {} = .ok r ∧ r.mode ≠ .quoted ∧
      r.finishRecord.records.reverse = records := by
  unfold read at h
  cases hr : text.toList.foldlM Reader.step {} with
  | error e =>
    rw [hr] at h
    cases h
  | ok r =>
    rw [hr] at h
    change r.finish = .ok records at h
    unfold Reader.finish at h
    split at h
    · cases h
    next hm =>
      cases h
      exact ⟨r, rfl, hm, rfl⟩

namespace StartsAfter

variable {text : String} {records : List Record}

/-- Where a row starts, no record is being read. -/
theorem reader (h : StartsAfter text records before) :
    ∃ r : Reader, before.foldlM Reader.step {} = .ok r ∧ r.Stands before ∧ r.begun = false ∧
      r.records.reverse = records := by
  obtain ⟨r, hr, hm, hrecords⟩ := read_eq_ok h.read_eq
  rw [String.toList_ofList] at hr
  have hstands : r.Stands before := Reader.Stands.start.run hr
  have hb : r.begun = false := by rw [hstands.begun_eq hm, h.line_start, Bool.not_true]
  rw [Reader.finishRecord_of_not_begun hb] at hrecords
  exact ⟨r, hr, hstands, hb, hrecords⟩

/-- The lines that end before a row are those of the records before it, the blank ones, and those that
end within a field. -/
theorem lineEnds_eq (h : StartsAfter text records before) :
    lineEnds before = records.length + blankLines before + (records.map fieldEnds).sum := by
  obtain ⟨r, -, hstands, hb, rfl⟩ := h.reader
  obtain ⟨-, hfields, hfield⟩ := hstands.empty hb
  have hl := hstands.lines
  simp only [Reader.within, hfields, hfield] at hl
  rw [List.length_reverse, List.map_reverse, List.sum_reverse, hl]
  rfl

/-- After a row has begun, the records before it are no longer all that is read. -/
theorem eq_of_append {more : List Char} (h : StartsAfter text records before)
    (h' : StartsAfter text records (before ++ more)) : more = [] := by
  obtain ⟨r, hr, hstands, hb, hrecords⟩ := h.reader
  obtain ⟨r', hr', -, hb', hrecords'⟩ := h'.reader
  cases more with
  | nil => rfl
  | cons c cs =>
    obtain ⟨d, rest, htext, hbreak⟩ := h.row
    obtain ⟨d', rest', htext', -⟩ := h'.row
    obtain ⟨rfl, -⟩ : c = d ∧ cs ++ d' :: rest' = rest := by
      rw [htext', List.append_assoc, List.append_cancel_left_eq] at htext
      exact List.cons.inj htext
    rw [Reader.foldlM_append_of_ok hr] at hr'
    obtain ⟨next, hone, hrest⟩ := Reader.foldlM_cons_eq_ok hr'
    have hbegun := (hstands.begins_iff hone hb).mpr hbreak
    have hrows := Reader.rows_foldlM hrest
    have hsuffix : r.records.length ≤ next.records.length :=
      (Reader.records_suffix (Reader.foldlM_cons_of_ok hone [])).length_le
    have hlength : r'.records.length = r.records.length := by
      rw [← List.length_reverse, hrecords', ← hrecords, List.length_reverse]
    rw [Reader.rows_of_begun hbegun, Reader.rows_of_not_begun hb'] at hrows
    omega

/-- No two places in a text have the same records before them. -/
theorem unique {before' : List Char} (h : StartsAfter text records before)
    (h' : StartsAfter text records before') : before = before' := by
  obtain ⟨c, rest, htext, -⟩ := h.row
  obtain ⟨c', rest', htext', -⟩ := h'.row
  rcases List.prefix_or_prefix_of_prefix ⟨_, htext.symm⟩ ⟨_, htext'.symm⟩ with ⟨more, rfl⟩ | ⟨more, rfl⟩
  · rw [h.eq_of_append h', List.append_nil]
  · rw [h'.eq_of_append h, List.append_nil]

end StartsAfter

/-- Every record of a text starts somewhere. -/
theorem exists_startsAfter {text : String} {records : List Record} (h : read text = .ok records)
    {n : Nat} (hn : n < records.length) : ∃ before, StartsAfter text (records.take n) before := by
  obtain ⟨r, hr, -, rfl⟩ := read_eq_ok h
  obtain ⟨-, hlength, hsuffix, -⟩ := r.finishRecord_counts
  rw [List.length_reverse, hlength] at hn
  obtain ⟨before, c, rest, r₀, r₁, htext, hbefore, hone, hb, hb', hcount, hsuffix'⟩ :=
    Reader.exists_begins hr (Nat.zero_le n) hn
  have hstands : r₀.Stands before := Reader.Stands.start.run hbefore
  have htake : r₀.records.reverse = r.finishRecord.records.reverse.take n := by
    have hprefix := List.reverse_prefix.mpr (hsuffix'.trans hsuffix)
    rw [List.prefix_iff_eq_take, List.length_reverse, hcount] at hprefix
    exact hprefix
  have hunquoted := (hstands.empty hb).1
  have hstart : atLineStart before = true := by
    have hbegun := hstands.begun_eq hunquoted
    rw [hb] at hbegun
    simpa using hbegun.symm
  refine ⟨before, ?_, hstart, c, rest, htext, (hstands.begins_iff hone hb).mp hb'⟩
  rw [read, String.toList_ofList, hbefore, ← htake]
  change r₀.finish = _
  rw [Reader.finish, if_neg hunquoted, Reader.finishRecord_of_not_begun hb]

end Calculator.Csv
