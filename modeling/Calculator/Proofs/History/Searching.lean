import Calculator.History.Entry
import Calculator.Proofs.Text.Context

/-!
What a search finds. The entries found stand in the order of the table, under their indexes; whether
every entry that holds the term as it is written is among them depends on the sigmas of the term.
-/

namespace Calculator

theorem Text.contains_iff_infix {needle cs : List Char} :
    Text.contains needle cs = true ↔ needle <:+: cs := by
  induction cs with
  | nil => simp [Text.contains]
  | cons c cs ih =>
    rw [Text.contains, Bool.or_eq_true, ih, List.isPrefixOf_iff_prefix, List.infix_cons_iff]

namespace History

variable {entries : List Entry} {term : String} {index : Nat} {e : Entry}

/-- A field of the entry has the term in it, as it is written. -/
def Entry.Holds (e : Entry) (term : String) : Prop := ∃ field ∈ e.fields, term.toList <:+: field.toList

theorem Entry.matchesText_lowercase_iff : e.matchesText (Text.lowercase term) = true ↔
    ∃ field ∈ e.fields, Text.lower term.toList <:+: Text.lower field.toList := by
  simp only [matchesText, List.any_eq_true, Text.contains_iff_infix, Text.lowercase,
    String.toList_ofList]

theorem mem_search : (index, e) ∈ search entries term ↔
    entries[index]? = some e ∧ e.matchesText (Text.lowercase term) = true := by
  simp only [search, List.mem_map, List.mem_filter, Prod.exists, Prod.mk.injEq]
  constructor
  · rintro ⟨_, _, ⟨hm, hf⟩, rfl, rfl⟩
    exact ⟨List.mk_mem_zipIdx_iff_getElem?.mp hm, hf⟩
  · rintro ⟨hi, hf⟩
    exact ⟨e, index, ⟨List.mk_mem_zipIdx_iff_getElem?.mpr hi, hf⟩, rfl, rfl⟩

theorem indexes_search_sorted (entries : List Entry) (term : String) :
    ((search entries term).map Prod.fst).Pairwise (· < ·) := by
  have hs : ((search entries term).map Prod.fst).Sublist (List.range entries.length) := by
    rw [search, List.map_map, List.range_eq_range', ← List.zipIdx_map_snd]
    exact List.filter_sublist.map Prod.snd
  exact List.pairwise_lt_range.sublist hs

theorem Entry.Holds.matchesText (h : e.Holds term) (ht : Text.Settled term.toList) :
    e.matchesText (Text.lowercase term) = true := by
  obtain ⟨field, hf, before, after, he⟩ := h
  refine matchesText_lowercase_iff.mpr ⟨field, hf, ?_⟩
  rw [← he]
  exact Text.lower_infix_of_settled ht before after

/-- An entry that holds a term and is not found by it. -/
theorem exists_held_not_found (h : ¬Text.Settled term.toList) :
    ∃ e : Entry, e.Holds term ∧ e.matchesText (Text.lowercase term) = false := by
  obtain ⟨before, after, hn⟩ := Text.exists_not_lower_infix h
  let text := String.ofList (before ++ term.toList ++ after)
  refine ⟨⟨text, text, text, text⟩, ⟨text, List.mem_cons_self, before, after, ?_⟩, ?_⟩
  · rw [String.toList_ofList]
  · refine Bool.eq_false_iff.mpr fun hm => ?_
    obtain ⟨field, hf, hin⟩ := Entry.matchesText_lowercase_iff.mp hm
    obtain rfl : field = text := by simpa [Entry.fields] using hf
    rw [String.toList_ofList] at hin
    exact hn hin

/-- A search lists entries under their indexes, which increase. It finds every entry that holds the
term, whatever the table, exactly if the term settles the lowercase of its sigmas. -/
theorem search_finds_held_iff (term : String) :
    (∀ entries : List Entry, ((search entries term).map Prod.fst).Pairwise (· < ·) ∧
      ∀ found ∈ search entries term, entries[found.1]? = some found.2) ∧
    ((∀ (entries : List Entry) (index : Nat) (e : Entry), entries[index]? = some e → e.Holds term →
        (index, e) ∈ search entries term) ↔ Text.Settled term.toList) := by
  refine ⟨fun entries => ⟨indexes_search_sorted entries term, fun found hm => (mem_search.mp hm).1⟩,
    fun hall => ?_, fun ht entries index e hi he => mem_search.mpr ⟨hi, he.matchesText ht⟩⟩
  refine Classical.byContradiction fun hn => ?_
  obtain ⟨e, he, hf⟩ := exists_held_not_found hn
  have hfound := (mem_search.mp (hall [e] 0 e rfl he)).2
  rw [hf] at hfound
  cases hfound

theorem lower_term : Text.lower "aΣ".toList = ['a', '\u03C2'] := by
  have hl : Text.lowerSigma ['a'] [] = '\u03C2' :=
    (Text.lowerSigma_final_iff _ _).mpr ⟨Text.nextIsCased_letter, rfl⟩
  have ht : "aΣ".toList = ['a', '\u03A3'] := rfl
  have ha : Text.lowerChar 'a' = ['a'] := by decide
  simp [ht, Text.lower, Text.lowerAfter, hl, ha]

theorem lower_field : Text.lower "aΣa".toList = ['a', '\u03C3', 'a'] := by
  have hl : Text.lowerSigma ['a'] ['a'] = '\u03C3' :=
    (Text.lowerSigma_inner_iff _ _).mpr fun _ => Text.nextIsCased_letter
  have ht : "aΣa".toList = ['a', '\u03A3', 'a'] := rfl
  have ha : Text.lowerChar 'a' = ['a'] := by decide
  simp [ht, Text.lower, Text.lowerAfter, hl, ha]

/-- The sigma of `aΣ` is a final one, but not that of `aΣa`, so the search for the former passes over
the latter. -/
theorem search_passes_over_sigma : ¬∀ (entries : List Entry) (term : String) (index : Nat) (e : Entry),
    entries[index]? = some e → e.Holds term → (index, e) ∈ search entries term := by
  intro h
  let e : Entry := ⟨"t", "add", "aΣa", "1"⟩
  have hh : e.Holds "aΣ" := ⟨"aΣa", by simp [e, Entry.fields], [], ['a'], by decide⟩
  have hfound := (mem_search.mp (h [e] "aΣ" 0 e rfl hh)).2
  obtain ⟨field, hf, hin⟩ := Entry.matchesText_lowercase_iff.mp hfound
  have hfinal : '\u03C2' ∈ Text.lower field.toList := by
    refine hin.subset ?_
    rw [lower_term]
    simp
  simp only [e, Entry.fields, List.mem_cons, List.not_mem_nil, or_false] at hf
  rcases hf with rfl | rfl | rfl | rfl
  · simp [Text.lower, Text.lowerAfter, Text.lowerChar] at hfinal
  · simp [Text.lower, Text.lowerAfter, Text.lowerChar] at hfinal
  · rw [lower_field] at hfinal
    simp at hfinal
  · simp [Text.lower, Text.lowerAfter, Text.lowerChar] at hfinal

end History

end Calculator
