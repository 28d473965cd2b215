import Calculator.Toml.Item
import Calculator.Toml.Moment
import Calculator.Toml.Number

/-!
Documents: lines with keys and values, under headers that open tables.
-/

namespace Calculator.Toml

open Reader

/-- Keys with so many points and values nested so deep are refused. -/
def depthLimit : Nat := 80

def isBareChar (c : Char) : Bool := c.isAlphanum || c == '-' || c == '_'

def simpleKey : Reader String :=
  String.ofList <$> (basicString <|> literalString <|> takeSome isBareChar)

/-- A key with points: the way to a table, and a key in it. -/
def key : Reader (List String × String) := do
  let keys ← separated (spaces *> simpleKey <* spaces) (char '.')
  match keys.getLast? with
  | some last => if keys.length < depthLimit then return (keys.dropLast, last) else failure
  | none => failure

def boolean : Reader Bool :=
  (text "true".toList *> return true) <|> (text "false".toList *> return false)

def scalar : Reader Item :=
  (Item.string <$> string) <|> (Item.boolean <$> boolean) <|> (moment *> return Item.moment) <|>
    (Item.float <$> float) <|> (Item.integer <$> integer)

/-- Values with commas between them, and after the last if there are any. -/
def array (value : Reader Item) : Reader Item := do
  char '['
  let items ← optional (separated (gaps *> value <* gaps) (char ',') <* optional (char ','))
  gaps
  char ']'
  return .array (items.getD [])

def pair (value : Reader Item) : Reader ((List String × String) × Item) := do
  let key ← key
  char '='
  spaces
  return (key, ← value)

/-- A table in braces, on one line but for the arrays in it. -/
def inline (value : Reader Item) : Reader Item := do
  char '\x7b'
  let pairs ← optional (separated (pair value <* spaces) (char ','))
  spaces
  char '\x7d'
  match (pairs.getD []).foldlM (fun entries ((path, key), item) =>
      Entries.addDotted? path key item entries) [] with
  | some entries => return .inline entries
  | none => failure

/-- A value with arrays and tables inside one another up to a depth. -/
def value : Nat → Reader Item
  | 0 => scalar
  | depth + 1 => array (value depth) <|> inline (value depth) <|> scalar

/-- A document so far: its entries, and the table that was opened last. -/
structure Draft where
  entries : Entries := []
  opened : List String := []

inductive Line where
  | table (path : List String) (key : String)
  | element (path : List String) (key : String)
  | pair (path : List String) (key : String) (item : Item)

namespace Draft

def add? (draft : Draft) : Line → Option Draft
  | .table path key => do
    return ⟨← draft.entries.openTable? path key, path ++ [key]⟩
  | .element path key => do
    return ⟨← draft.entries.openElement? path key, path ++ [key]⟩
  | .pair path key item => do
    return { draft with entries := ← draft.entries.addIn? draft.opened path key item }

end Draft

/-- A header in single brackets, or in double ones for an element of an array. -/
def header : Reader Line := do
  char '['
  if (← peek?) = some '[' then
    char '['
    let (path, key) ← key
    text [']', ']']
    return .element path key
  else
    let (path, key) ← key
    char ']'
    return .table path key

def line : Reader Line :=
  header <|> (do
    let ((path, key), item) ← pair (value (depthLimit - 1))
    return .pair path key item)

/-- All lines up to the end of the text, of which `count` is no less than their number. -/
def lines : Nat → Reader (List Line)
  | 0 => return []
  | count + 1 => do
    gaps
    let _ ← optional comment
    if ← atEnd then return []
    let line ← line
    restOfLine
    return line :: (← lines count)

/-- A mark of the byte order at the start of a text is no part of it. -/
def withoutMark : List Char → List Char
  | '\uFEFF' :: cs => cs
  | cs => cs

/-- The entries of a document, or none if it is malformed. -/
def read? (document : String) : Option Entries := do
  let cs := withoutMark document.toList
  let (lines, rest) ← lines (cs.length + 1) cs
  if rest.isEmpty then return (← lines.foldlM Draft.add? {}).entries else none

end Calculator.Toml
