import Calculator.Csv.Reader

/-!
Reading written records: whatever ends their lines and however many blank lines stand between them,
the records are read as they were written, but for those that are written as a blank line.
-/

namespace Calculator.Csv

inductive LineEnd where
  | lf
  | crlf
  | cr
deriving DecidableEq, Repr

def LineEnd.chars : LineEnd → List Char
  | lf => ['\n']
  | crlf => ['\r', '\n']
  | cr => ['\r']

/-- A written record, the end of its line, and the blank lines after it. -/
structure Line where
  record : Record
  ending : LineEnd
  blanks : List LineEnd

def Line.chars (l : Line) : List Char :=
  writeFields l.record ++ (l.ending.chars ++ l.blanks.flatMap LineEnd.chars)

/-- Lines, and perhaps a last record whose line does not end. -/
def layOut (lines : List Line) (last : Option Record) : String :=
  String.ofList (lines.flatMap Line.chars ++ (last.map writeFields).getD [])

/-- A record that is written as a blank line. -/
def isBlankRecord (record : Record) : Bool := record = [] || record = [""]

/-- What is read of a record. -/
def kept (record : Record) : List Record := if isBlankRecord record then [] else [record]

theorem kept_append_singleton (fields : List String) (field : List Char) :
    kept (fields ++ [String.ofList field]) =
      if fields ≠ [] ∨ field ≠ [] then [fields ++ [String.ofList field]] else [] := by
  have hs : fields ++ [String.ofList field] = [""] ↔ fields = [] ∧ field = [] := by
    cases fields with
    | nil => simp [String.ext_iff]
    | cons f fs => simp
  simp only [kept, isBlankRecord]
  by_cases h : fields = [] ∧ field = []
  · simp [h.1, h.2]
  · have hn : fields ≠ [] ∨ field ≠ [] := by
      by_cases hf : fields = []
      · exact .inr fun he => h ⟨hf, he⟩
      · exact .inl hf
    simp [mt hs.mp h, hn]

theorem flatMap_kept (records : List Record) :
    records.flatMap kept = records.filter (!isBlankRecord ·) := by
  induction records with
  | nil => rfl
  | cons record records ih =>
    rw [List.flatMap_cons, List.filter_cons, ih]
    cases h : isBlankRecord record <;> simp [kept, h]

theorem writeFields_cons (field : String) (fields : List String) :
    writeFields (field :: fields) =
      writeField field.toList ++ fields.flatMap fun f => ',' :: writeField f.toList := by
  induction fields generalizing field with
  | nil => simp [writeFields]
  | cons f fs ih =>
    have h := ih f
    simp only [writeFields, List.map_cons] at h ⊢
    rw [List.intercalate_cons_cons, h]
    simp

namespace Reader

variable {r : Reader} {records : List Record} {fields : List String} {field : List Char}

/-- A reader outside quotes that has read these records, then these fields, and then these characters
of a field. -/
structure At (r : Reader) (records : List Record) (fields : List String) (field : List Char) :
    Prop where
  unquoted : r.mode ≠ .quoted
  records_eq : r.records = records.reverse
  fields_eq : r.fields = fields.reverse
  field_eq : r.field = field.reverse
  begun_iff : r.begun = true ↔ fields ≠ [] ∨ field ≠ []
  /-- No empty field is written in quotes. -/
  closing : r.mode = .closing → field ≠ []
  returned : r.mode = .returned → r.begun = false

theorem foldlM_cons_of_ok {r₁ : Reader} {c : Char} (h : r.step c = .ok r₁) (cs : List Char) :
    (c :: cs).foldlM step r = cs.foldlM step r₁ := by
  rw [List.foldlM_cons, h]
  rfl

theorem foldlM_append_of_ok {r₁ : Reader} {cs : List Char} (h : cs.foldlM step r = .ok r₁)
    (ds : List Char) : (cs ++ ds).foldlM step r = ds.foldlM step r₁ := by
  rw [List.foldlM_append, h]
  rfl

theorem at_start : At {} [] [] [] :=
  ⟨by simp, rfl, rfl, rfl, by simp, by simp, by simp⟩

/-- Outside quotes only a second quote and the rest of a CRLF are not read by themselves. -/
theorem step_of_unquoted (h : r.mode ≠ .quoted) {c : Char} (hq : c = '"' → r.mode ≠ .closing)
    (hn : c = '\n' → r.mode ≠ .returned) : r.step c = r.stepPlain c := by
  unfold step
  split
  next => rfl
  next he => exact absurd he h
  next he => rw [if_neg fun hc => hq hc he]
  next he => rw [if_neg fun hc => hn hc he]

theorem finishField_at (h : r.At records fields field) :
    r.finishField.At records (fields ++ [String.ofList field]) [] :=
  ⟨by simp [finishField], h.records_eq, by simp [finishField, h.fields_eq, h.field_eq], rfl,
    by simp [finishField], by simp [finishField], by simp [finishField]⟩

theorem At.comma (h : r.At records fields field) :
    ∃ r', r.step ',' = .ok r' ∧ r'.At records (fields ++ [String.ofList field]) [] :=
  ⟨r.finishField, step_of_unquoted h.unquoted (by simp) (by simp), finishField_at h⟩

/-- The end of a record by its line, in whatever mode the line end leaves the reader. -/
theorem At.finishRecord (h : r.At records fields field) :
    r.finishRecord.At (records ++ kept (fields ++ [String.ofList field])) [] [] := by
  rw [kept_append_singleton]
  unfold Reader.finishRecord
  split
  next hb =>
    have hf := finishField_at h
    rw [if_pos (h.begun_iff.mp hb)]
    exact ⟨hf.unquoted, by simp [hf.records_eq, hf.fields_eq], rfl, hf.field_eq, by simp,
      by simp [finishField], by simp [finishField]⟩
  next hb =>
    have he := mt h.begun_iff.mpr hb
    obtain ⟨rfl, rfl⟩ : fields = [] ∧ field = [] := by simpa using he
    exact ⟨by simp, by simp [h.records_eq], h.fields_eq, h.field_eq, by simpa using hb, by simp,
      by simp⟩

/-- Characters that need no quotes are read as they are. -/
theorem At.plain (h : r.At records fields field) (cs : List Char)
    (hc : ∀ c ∈ cs, c ≠ ',' ∧ c ≠ '"' ∧ c ≠ '\n' ∧ c ≠ '\r') :
    ∃ r', cs.foldlM step r = .ok r' ∧ r'.At records fields (field ++ cs) := by
  induction cs generalizing r field with
  | nil => exact ⟨r, rfl, by simpa using h⟩
  | cons c cs ih =>
    obtain ⟨h1, h2, h3, h4⟩ := hc c List.mem_cons_self
    have hs : r.step c = .ok ({ r with mode := .plain }.put c) := by
      rw [step_of_unquoted h.unquoted (by simp [h2]) (by simp [h3])]
      unfold stepPlain
      split <;> first | rfl | contradiction
    have hp : ({ r with mode := .plain }.put c).At records fields (field ++ [c]) :=
      ⟨by simp [put], h.records_eq, h.fields_eq, by simp [put, h.field_eq], by simp [put],
        by simp [put], by simp [put]⟩
    obtain ⟨r', hr, ha⟩ := ih hp fun d hd => hc d (List.mem_cons_of_mem _ hd)
    exact ⟨r', (foldlM_cons_of_ok hs cs).trans hr, by simpa using ha⟩

theorem step_of_quoted (hm : r.mode = .quoted) {c : Char} (hq : c ≠ '"') :
    ∃ line, r.step c = .ok { r.put c with line := line } := by
  by_cases hn : c = '\n'
  · exact ⟨r.line + 1, by simp [step, hm, hn, put]⟩
  · exact ⟨r.line, by simp [step, hm, put]⟩

/-- Inside quotes, doubled quotes are read as single ones and all else as it is. -/
theorem foldlM_doubleQuotes (cs : List Char) (hm : r.mode = .quoted) (hb : r.begun = true) :
    ∃ line, (doubleQuotes cs).foldlM step r =
      .ok { r with field := cs.reverse ++ r.field, line := line } := by
  induction cs generalizing r with
  | nil => exact ⟨r.line, rfl⟩
  | cons c cs ih =>
    -- what is read of one character, which is itself or two quotes
    have hc : ∃ line, (doubleQuotes [c]).foldlM step r =
        .ok { r with field := c :: r.field, line := line } := by
      by_cases hq : c = '"'
      · subst hq
        have h₁ : r.step '"' = .ok { r with mode := .closing } := by simp [step, hm]
        have h₂ : ({ r with mode := .closing } : Reader).step '"' =
            .ok { r with field := '"' :: r.field } := by simp [step, put, hb, hm]
        exact ⟨r.line, (foldlM_cons_of_ok h₁ _).trans (foldlM_cons_of_ok h₂ [])⟩
      · obtain ⟨line, hl⟩ := step_of_quoted hm hq
        refine ⟨line, ?_⟩
        rw [show doubleQuotes [c] = [c] by simp [doubleQuotes, hq], foldlM_cons_of_ok hl]
        simp [put, hb, pure, Except.pure]
    obtain ⟨line, hl⟩ := hc
    obtain ⟨line', hl'⟩ := ih (r := { r with field := c :: r.field, line := line }) hm hb
    have hd : doubleQuotes (c :: cs) = doubleQuotes [c] ++ doubleQuotes cs := by
      simp [doubleQuotes]
    refine ⟨line', ?_⟩
    rw [hd, foldlM_append_of_ok hl, hl']
    simp

theorem At.quoted (h : r.At records fields []) {cs : List Char} (hne : cs ≠ []) :
    ∃ r', ('"' :: doubleQuotes cs ++ ['"']).foldlM step r = .ok r' ∧ r'.At records fields cs := by
  have hs : r.step '"' = .ok { r with mode := .quoted, begun := true } := by
    rw [step_of_unquoted h.unquoted (fun _ he => h.closing he rfl) (by simp)]
    simp [stepPlain, h.field_eq]
  obtain ⟨line, hl⟩ :=
    foldlM_doubleQuotes (r := { r with mode := .quoted, begun := true }) cs rfl rfl
  refine ⟨{ r with mode := .closing, begun := true, field := cs.reverse ++ r.field, line := line },
    ?_, ?_⟩
  · rw [List.cons_append, foldlM_cons_of_ok hs, foldlM_append_of_ok hl]
    rfl
  · exact ⟨by simp, h.records_eq, h.fields_eq, by simp [h.field_eq], by simp [hne], fun _ => hne,
      by simp⟩

/-- A written field is read as it was. -/
theorem At.written (h : r.At records fields []) (cs : List Char) :
    ∃ r', (writeField cs).foldlM step r = .ok r' ∧ r'.At records fields cs := by
  unfold writeField
  split
  next hq =>
    refine h.quoted ?_
    rintro rfl
    simp [needsQuotes] at hq
  next hq =>
    refine h.plain cs fun c hc => ?_
    have hn : ∀ c ∈ cs, ¬(((c = ',' ∨ c = '"') ∨ c = '\n') ∨ c = '\r') := by
      simpa [needsQuotes] using hq
    have := hn c hc
    simp_all

/-- Further fields of a record, each after a comma. The last one is not finished yet. -/
theorem At.further (h : r.At records fields field) (rest : List String) :
    ∃ r' fields' field', (rest.flatMap fun f => ',' :: writeField f.toList).foldlM step r = .ok r' ∧
      r'.At records fields' field' ∧
      fields' ++ [String.ofList field'] = fields ++ [String.ofList field] ++ rest := by
  induction rest generalizing r fields field with
  | nil => exact ⟨r, fields, field, rfl, h, by simp⟩
  | cons f rest ih =>
    obtain ⟨r₁, hs, hc⟩ := h.comma
    obtain ⟨r₂, hf, ha⟩ := hc.written f.toList
    obtain ⟨r₃, fields', field', hr, ha', he⟩ := ih ha
    refine ⟨r₃, fields', field', ?_, ha', by simpa using he⟩
    rw [List.flatMap_cons, List.cons_append, foldlM_cons_of_ok hs, foldlM_append_of_ok hf]
    exact hr

theorem At.record (h : r.At records [] []) (record : Record) :
    ∃ r' fields field, (writeFields record).foldlM step r = .ok r' ∧ r'.At records fields field ∧
      kept (fields ++ [String.ofList field]) = kept record := by
  cases record with
  | nil => exact ⟨r, [], [], rfl, h, rfl⟩
  | cons f rest =>
    obtain ⟨r₁, hf, ha⟩ := h.written f.toList
    obtain ⟨r₂, fields, field, hr, ha', he⟩ := ha.further rest
    refine ⟨r₂, fields, field, ?_, ha', by rw [he]; simp⟩
    rw [writeFields_cons, foldlM_append_of_ok hf]
    exact hr

/-- A line end finishes the record before it, if there is one. After a carriage return the line feed
that may follow adds nothing. -/
theorem At.lineEnd (h : r.At records fields field) (e : LineEnd) :
    ∃ r', e.chars.foldlM step r = .ok r' ∧
      r'.At (records ++ kept (fields ++ [String.ofList field])) [] [] := by
  have hf := h.finishRecord
  have hr : r.step '\r' = .ok { r.endLine with mode := .returned } :=
    step_of_unquoted h.unquoted (by simp) (by simp)
  cases e with
  | lf =>
    by_cases hm : r.mode = .returned
    · -- the line feed belongs to the carriage return before it, and no record has begun since
      have hs : r.step '\n' = .ok { r with mode := .plain } := by simp [step, hm]
      have hn := mt h.begun_iff.mpr (by simp [h.returned hm])
      obtain ⟨rfl, rfl⟩ : fields = [] ∧ field = [] := by simpa using hn
      exact ⟨_, foldlM_cons_of_ok hs [], by simp, by simpa [kept, isBlankRecord] using h.records_eq,
        h.fields_eq, h.field_eq, h.begun_iff, by simp, by simp⟩
    · have hs : r.step '\n' = .ok r.endLine :=
        step_of_unquoted h.unquoted (by simp) fun _ => hm
      exact ⟨_, foldlM_cons_of_ok hs [], hf.unquoted, hf.records_eq, hf.fields_eq, hf.field_eq,
        hf.begun_iff, hf.closing, hf.returned⟩
  | cr =>
    have hb : r.finishRecord.begun = false := by simpa using mt hf.begun_iff.mp
    exact ⟨_, foldlM_cons_of_ok hr [], by simp, hf.records_eq, hf.fields_eq, hf.field_eq,
      hf.begun_iff, by simp, fun _ => hb⟩
  | crlf =>
    have hs : ({ r.endLine with mode := .returned } : Reader).step '\n' =
        .ok { r.endLine with mode := .plain } := rfl
    exact ⟨_, (foldlM_cons_of_ok hr _).trans (foldlM_cons_of_ok hs []), by simp, hf.records_eq,
      hf.fields_eq, hf.field_eq, hf.begun_iff, by simp, by simp⟩

theorem At.blanks (h : r.At records [] []) (blanks : List LineEnd) :
    ∃ r', (blanks.flatMap LineEnd.chars).foldlM step r = .ok r' ∧ r'.At records [] [] := by
  induction blanks generalizing r with
  | nil => exact ⟨r, rfl, h⟩
  | cons e blanks ih =>
    obtain ⟨r₁, he, ha⟩ := h.lineEnd e
    obtain ⟨r₂, hb, ha'⟩ := ih (by simpa [kept, isBlankRecord] using ha)
    refine ⟨r₂, ?_, ha'⟩
    rw [List.flatMap_cons, foldlM_append_of_ok he]
    exact hb

theorem At.line (h : r.At records [] []) (l : Line) :
    ∃ r', l.chars.foldlM step r = .ok r' ∧ r'.At (records ++ kept l.record) [] [] := by
  obtain ⟨r₁, fields, field, hr, ha, hk⟩ := h.record l.record
  obtain ⟨r₂, he, ha'⟩ := ha.lineEnd l.ending
  obtain ⟨r₃, hb, hs⟩ := ha'.blanks l.blanks
  refine ⟨r₃, ?_, hk ▸ hs⟩
  rw [Line.chars, foldlM_append_of_ok hr, foldlM_append_of_ok he]
  exact hb

/-- Between lines a reader has read what is kept of the records before. -/
theorem At.lines (h : r.At records [] []) (lines : List Line) :
    ∃ r', (lines.flatMap Line.chars).foldlM step r = .ok r' ∧
      r'.At (records ++ (lines.map Line.record).flatMap kept) [] [] := by
  induction lines generalizing r records with
  | nil => exact ⟨r, rfl, by simpa using h⟩
  | cons l lines ih =>
    obtain ⟨r₁, hl, ha⟩ := h.line l
    obtain ⟨r₂, hr, ha'⟩ := ih ha
    refine ⟨r₂, ?_, by simpa using ha'⟩
    rw [List.flatMap_cons, foldlM_append_of_ok hl]
    exact hr

theorem At.finish (h : r.At records fields field) :
    r.finish = .ok (records ++ kept (fields ++ [String.ofList field])) := by
  rw [Reader.finish, if_neg h.unquoted, h.finishRecord.records_eq, List.reverse_reverse]

end Reader

theorem read_layOut_kept (lines : List Line) (last : Option Record) :
    read (layOut lines last) = .ok ((lines.map Line.record ++ last.toList).flatMap kept) := by
  obtain ⟨r₁, hl, ha⟩ := Reader.at_start.lines lines
  have hf : ∃ r₂ fields field, ((last.map writeFields).getD []).foldlM Reader.step r₁ = .ok r₂ ∧
      r₂.At ([] ++ (lines.map Line.record).flatMap kept) fields field ∧
      kept (fields ++ [String.ofList field]) = last.toList.flatMap kept := by
    cases last with
    | none => exact ⟨r₁, [], [], rfl, ha, rfl⟩
    | some record => simpa using ha.record record
  obtain ⟨r₂, fields, field, hr, ha', hk⟩ := hf
  have hs : (layOut lines last).toList.foldlM Reader.step {} = .ok r₂ := by
    rw [layOut, String.toList_ofList, Reader.foldlM_append_of_ok hl]
    exact hr
  rw [read, hs]
  change r₂.finish = _
  rw [ha'.finish, hk]
  simp

theorem write_eq_layOut (records : List Record) :
    write records = layOut (records.map fun record => ⟨record, .lf, []⟩) none := by
  have hl : (fun record => Line.chars ⟨record, .lf, []⟩) = writeRecord := by
    funext record
    simp [Line.chars, LineEnd.chars, writeRecord]
  simp [write, layOut, List.flatMap_map, hl]

theorem read_write (records : List Record) : read (write records) = .ok (records.flatMap kept) := by
  have hm : (records.map fun record => (⟨record, .lf, []⟩ : Line)).map Line.record = records := by
    simp [Function.comp_def]
  rw [write_eq_layOut, read_layOut_kept, hm]
  simp

/-- Records come back from a text as they were written, in any layout of their lines. -/
theorem read_layOut (lines : List Line) (last : Option Record) :
    read (layOut lines last) =
      .ok ((lines.map Line.record ++ last.toList).filter fun record =>
        decide (record ≠ [] ∧ record ≠ [""])) := by
  rw [read_layOut_kept, flatMap_kept]
  congr 2
  funext record
  simp [isBlankRecord]

end Calculator.Csv
