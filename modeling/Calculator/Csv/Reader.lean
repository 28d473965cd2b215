import Calculator.Csv.Record

/-!
Reading records of comma-separated fields, one character at a time. LF, CRLF and a lone CR each end a
record; lines without a character are skipped; a quote opens a quoted field only while the field is
empty, and a doubled quote inside stands for one.
-/

namespace Calculator.Csv

structure ReadError where
  line : Nat
  reason : String
deriving DecidableEq, Repr

namespace ReadError

def message (e : ReadError) : String := s!"malformed history file at line {e.line}: {e.reason}"

end ReadError

/-- Where a reader stands in a field. -/
inductive Mode where
  | plain
  | quoted
  /-- After a quote inside a quoted field: the end of the quoted part, or the first of two. -/
  | closing
  /-- After a carriage return, of which a line feed would be part. -/
  | returned
deriving DecidableEq, Repr

/-- A reader in the middle of a text. Finished parts stand with the latest first. -/
structure Reader where
  mode : Mode := .plain
  records : List Record := []
  fields : List String := []
  field : List Char := []
  /-- Whether the record has begun: a line without any character is no record. -/
  begun : Bool := false
  line : Nat := 1
deriving DecidableEq, Repr

namespace Reader

def finishField (r : Reader) : Reader :=
  { r with mode := .plain, fields := String.ofList r.field.reverse :: r.fields, field := [], begun := true }

def finishRecord (r : Reader) : Reader :=
  if r.begun then
    let r := r.finishField
    { r with records := r.fields.reverse :: r.records, fields := [], begun := false }
  else { r with mode := .plain }

def endLine (r : Reader) : Reader := { r.finishRecord with line := r.line + 1 }

def put (r : Reader) (c : Char) : Reader := { r with field := c :: r.field, begun := true }

/-- A character outside quotes. -/
def stepPlain (r : Reader) (c : Char) : Except ReadError Reader :=
  match c with
  | '"' =>
    if r.field.isEmpty then .ok { r with mode := .quoted, begun := true }
    else .error ⟨r.line, "unexpected quote inside unquoted field"⟩
  | ',' => .ok r.finishField
  | '\n' => .ok r.endLine
  | '\r' => .ok { r.endLine with mode := .returned }
  | c => .ok ({ r with mode := .plain }.put c)

def step (r : Reader) (c : Char) : Except ReadError Reader :=
  match r.mode with
  | .plain => r.stepPlain c
  | .quoted =>
    match c with
    | '"' => .ok { r with mode := .closing }
    | '\n' => .ok { r.put c with line := r.line + 1 }
    | c => .ok (r.put c)
  | .closing => if c = '"' then .ok ({ r with mode := .quoted }.put c) else r.stepPlain c
  | .returned => if c = '\n' then .ok { r with mode := .plain } else r.stepPlain c

/-- The records of a whole text. The last one needs no line end. -/
def finish (r : Reader) : Except ReadError (List Record) :=
  if r.mode = .quoted then .error ⟨r.line, "unterminated quoted field"⟩
  else .ok r.finishRecord.records.reverse

end Reader

def read (text : String) : Except ReadError (List Record) :=
  (text.toList.foldlM Reader.step {}).bind Reader.finish

end Calculator.Csv
