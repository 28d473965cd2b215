import Calculator.Proofs.Expression.Brackets

/-!
The text that pieces stand for. A text splits in one way into pieces whose parentheses match.
-/

namespace Calculator.Expression

variable {c : Char} {cs : List Char} {p : Piece} {ps : List Piece}

mutual

def Piece.text : Piece → List Char
  | .char c => [c]
  | .group inside => '(' :: (textOf inside ++ [')'])

/-- The text that pieces stand for. -/
def textOf : List Piece → List Char
  | [] => []
  | p :: ps => p.text ++ textOf ps

end

/-- All parentheses are groups, but for a `)` that may stand outside of all of them. -/
inductive Piece.Matched : Piece → Prop where
  | char {c : Char} (h : c ≠ '(') : (char c).Matched
  | group {inside : List Piece} (h : ∀ p ∈ inside, p.Matched) (hc : .char ')' ∉ inside) :
    (group inside).Matched

theorem Piece.matched_char_iff : (char c).Matched ↔ c ≠ '(' :=
  ⟨fun | .char h => h, .char⟩

theorem textOf_append (ps qs : List Piece) : textOf (ps ++ qs) = textOf ps ++ textOf qs := by
  induction ps with
  | nil => rfl
  | cons p ps ih => rw [List.cons_append, textOf, textOf, ih, List.append_assoc]

theorem textOf_singleton (p : Piece) : textOf [p] = p.text := by
  rw [textOf, textOf, List.append_nil]

namespace Levels

/-- What has been read outside of the innermost group that is open. -/
def textAround : List (List Piece) → List Char
  | [] => []
  | level :: outer => textAround outer ++ textOf level ++ ['(']

/-- What has been read. -/
def text (l : Levels) : List Char := textAround l.outer ++ textOf l.inner

theorem text_read (l : Levels) (c : Char) : (l.read c).text = l.text ++ [c] := by
  obtain ⟨inner, outer⟩ := l
  unfold read
  split
  next h => simp [text, textAround, textOf, h]
  next =>
    split
    next h =>
      cases outer with
      | nil => simp [text, textAround, textOf_append, textOf_singleton, Piece.text, h]
      | cons level outer =>
        simp [text, textAround, textOf_append, textOf_singleton, Piece.text, h]
    next => simp [text, textOf_append, textOf_singleton, Piece.text]

theorem text_foldl_read (l : Levels) (cs : List Char) : (cs.foldl read l).text = l.text ++ cs := by
  induction cs generalizing l with
  | nil => simp
  | cons c cs ih => rw [List.foldl_cons, ih, text_read, List.append_assoc, List.singleton_append]

/-- What has been read is matched, and only the level of the whole text may hold a `)`. -/
structure Sound (l : Levels) : Prop where
  matched : ∀ level ∈ l.inner :: l.outer, ∀ p ∈ level, p.Matched
  closed : ∀ level ∈ (l.inner :: l.outer).dropLast, .char ')' ∉ level

theorem forall_matched_append (h : ∀ q ∈ ps, q.Matched) (hp : p.Matched) :
    ∀ q ∈ ps ++ [p], q.Matched :=
  List.forall_mem_append.mpr ⟨h, List.forall_mem_singleton.mpr hp⟩

theorem Sound.read {l : Levels} (h : l.Sound) (c : Char) : (l.read c).Sound := by
  obtain ⟨inner, outer⟩ := l
  obtain ⟨hm, hc⟩ := h
  obtain ⟨hinner, houter⟩ := List.forall_mem_cons.mp hm
  unfold Levels.read
  split
  next => exact ⟨by simpa using ⟨hinner, houter⟩, by simpa using hc⟩
  next ho =>
    have hchar : (Piece.char c).Matched := .char ho
    split
    next =>
      cases outer with
      | nil => exact ⟨by simpa using forall_matched_append hinner hchar, by simp⟩
      | cons level outer =>
        -- The level that is closed is not that of the whole text, so it holds no `)`.
        obtain ⟨hclosed, hc⟩ := List.forall_mem_cons.mp hc
        obtain ⟨hlevel, houter⟩ := List.forall_mem_cons.mp houter
        have hgroup : (Piece.group inner).Matched := .group hinner hclosed
        refine ⟨List.forall_mem_cons.mpr ⟨forall_matched_append hlevel hgroup, houter⟩, ?_⟩
        cases outer with
        | nil => simp
        | cons => simpa using hc
    next hne =>
      refine ⟨List.forall_mem_cons.mpr ⟨forall_matched_append hinner hchar, houter⟩, ?_⟩
      cases outer with
      | nil => simp
      | cons => simpa [Ne.symm hne] using hc

theorem Sound.foldl_read {l : Levels} (h : l.Sound) (cs : List Char) :
    (cs.foldl Levels.read l).Sound := by
  induction cs generalizing l with
  | nil => exact h
  | cons c cs ih => exact ih (h.read c)

theorem foldl_read_textOf (l : Levels)
    (h : ∀ p ∈ ps, ∀ l : Levels, (p = .char ')' → l.outer = []) →
      p.text.foldl read l = ⟨l.inner ++ [p], l.outer⟩)
    (hc : .char ')' ∈ ps → l.outer = []) : (textOf ps).foldl read l = ⟨l.inner ++ ps, l.outer⟩ := by
  induction ps generalizing l with
  | nil => rw [textOf, List.foldl_nil, List.append_nil]
  | cons p ps ih =>
    obtain ⟨hp, hps⟩ := List.forall_mem_cons.mp h
    have hrest := ih ⟨l.inner ++ [p], l.outer⟩ hps fun hm => hc (List.mem_cons_of_mem _ hm)
    rw [textOf, List.foldl_append, hp l fun he => hc (he ▸ List.mem_cons_self), hrest,
      List.append_assoc, List.singleton_append]

/-- A matched piece is read as itself, a `)` only outside of all groups. -/
theorem foldl_read_text (h : p.Matched) (l : Levels) (hc : p = .char ')' → l.outer = []) :
    p.text.foldl read l = ⟨l.inner ++ [p], l.outer⟩ := by
  induction h generalizing l with
  | @char c ho =>
    rw [Piece.text, List.foldl_cons, List.foldl_nil, read, if_neg ho]
    split
    next hclose =>
      subst hclose
      simp [hc rfl]
    next => rfl
  | group _ hclose ih =>
    have hopen : l.read '(' = ⟨[], l.inner :: l.outer⟩ := by simp [read]
    rw [Piece.text, List.foldl_cons, hopen, List.foldl_append,
      foldl_read_textOf _ ih fun hm => absurd hm hclose]
    simp [read]

end Levels

/-- A text is split in the one way in which its parentheses match. -/
theorem pieces?_eq_some_iff : pieces? cs = some ps ↔ textOf ps = cs ∧ ∀ p ∈ ps, p.Matched := by
  constructor
  · intro h
    have htext := Levels.text_foldl_read {} cs
    have hsound : Levels.Sound {} := ⟨by simp, by simp⟩
    have hread := hsound.foldl_read cs
    unfold pieces? at h
    split at h
    next inner hl =>
      cases h
      rw [hl] at htext hread
      exact ⟨by simpa [Levels.text, Levels.textAround, textOf] using htext,
        hread.matched ps List.mem_cons_self⟩
    next => cases h
  · rintro ⟨rfl, h⟩
    have hread := Levels.foldl_read_textOf {} (fun p hp l => Levels.foldl_read_text (h p hp) l)
      fun _ => rfl
    rw [pieces?, hread]
    rfl

end Calculator.Expression
