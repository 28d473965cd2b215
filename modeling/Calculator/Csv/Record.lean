/-!
Writing records of comma-separated fields. A field that holds a comma, a quote or a line break stands
in quotes, with each quote in it doubled.
-/

namespace Calculator.Csv

abbrev Record := List String

def needsQuotes (cs : List Char) : Bool :=
  cs.any fun c => c == ',' || c == '"' || c == '\n' || c == '\r'

/-- Writes every quote twice. -/
def doubleQuotes (cs : List Char) : List Char :=
  cs.flatMap fun c => if c = '"' then ['"', '"'] else [c]

def writeField (cs : List Char) : List Char :=
  if needsQuotes cs then '"' :: doubleQuotes cs ++ ['"'] else cs

/-- The fields of a record with a comma between them. -/
def writeFields (record : Record) : List Char :=
  [','].intercalate (record.map fun field => writeField field.toList)

def writeRecord (record : Record) : List Char := writeFields record ++ ['\n']

def write (records : List Record) : String := String.ofList (records.flatMap writeRecord)

end Calculator.Csv
