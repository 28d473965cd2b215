import Calculator.Csv.Reader
import Calculator.History.Entry

/-!
Tables of entries as text: a header record with the names of the columns, then a record for each
entry. A text is read by the names in its header, whatever their order.
-/

namespace Calculator.History

inductive SheetError where
  | missingColumn (column : String)
  | malformed (error : Csv.ReadError)
deriving DecidableEq, Repr

namespace SheetError

def message : SheetError → String
  | missingColumn column => s!"invalid history file: missing column '{column}'"
  | malformed error => error.message

end SheetError

/-- The text of a table. -/
def encode (entries : List Entry) : String :=
  Csv.write (columns :: entries.map Entry.fields)

/-- The first place in a header where a column is named, blanks around the name aside. -/
def columnIndex? (header : Csv.Record) (column : String) : Option Nat :=
  header.findIdx? fun name => Text.trim name.toList == column.toList

/-- The places of all columns. -/
def columnIndexes (header : Csv.Record) : Except SheetError (List Nat) :=
  columns.mapM fun column =>
    match columnIndex? header column with
    | some index => .ok index
    | none => .error (.missingColumn column)

/-- The entry in a record whose columns are at the given places. -/
def entryAt (indexes : List Nat) (record : Csv.Record) : Entry :=
  match indexes.map fun index => record.getD index "" with
  | [timestamp, operation, inputs, result] => ⟨timestamp, operation, inputs, result⟩
  | _ => default

/-- Reads the records that follow a header of `width` fields. The line of a record is its number among
all records. -/
def readRows (width : Nat) (indexes : List Nat) : Nat → List Csv.Record → Except SheetError (List Entry)
  | _, [] => .ok []
  | line, record :: rest =>
    if record.length ≠ width then
      .error (.malformed ⟨line, s!"expected {width} fields, found {record.length}"⟩)
    else (readRows width indexes (line + 1) rest).map (entryAt indexes record :: ·)

def decodeRecords : List Csv.Record → Except SheetError (List Entry)
  | [] => .ok []
  | header :: rows => do readRows header.length (← columnIndexes header) 2 rows

/-- The table in a text. No record at all is an empty table. -/
def decode (text : String) : Except SheetError (List Entry) :=
  match Csv.read text with
  | .error e => .error (.malformed e)
  | .ok records => decodeRecords records

end Calculator.History
