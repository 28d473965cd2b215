/-!
Readers: each takes what it reads from the front of a text, or refuses the text. What a text may hold
between its words stands here too: blanks, line ends and comments.
-/

namespace Calculator.Toml

abbrev Reader := StateT (List Char) Option

namespace Reader

variable {α β : Type}

def next : Reader Char
  | [] => none
  | c :: cs => some (c, cs)

def peek? : Reader (Option Char) := fun cs => some (cs.head?, cs)

def satisfying (p : Char → Bool) : Reader Char := do
  let c ← next
  if p c then return c else failure

def char (c : Char) : Reader Unit := do
  let _ ← satisfying (· == c)

def text (cs : List Char) : Reader Unit := cs.forM char

/-- The longest text of characters of a kind. -/
def takeWhile (p : Char → Bool) : Reader (List Char) := fun cs =>
  some (cs.takeWhile p, cs.dropWhile p)

/-- The longest text of characters of a kind, if there is any. -/
def takeSome (p : Char → Bool) : Reader (List Char) := do
  let cs ← takeWhile p
  if cs.isEmpty then failure else return cs

/-- So many characters of a kind. -/
def exactly (p : Char → Bool) : Nat → Reader (List Char)
  | 0 => return []
  | n + 1 => return (← satisfying p) :: (← exactly p n)

/-- Reads again and again, at most as often as given. -/
def upTo (r : Reader α) : Nat → Reader (List α)
  | 0 => return []
  | n + 1 => do
    match ← optional r with
    | none => return []
    | some a => return a :: (← upTo r n)

/-- Reads again and again. Each time takes a character, so the length of the text bounds them. -/
def many (r : Reader α) : Reader (List α) := fun cs => upTo r cs.length cs

/-- One or more, with something between them. -/
def separated (r : Reader α) (between : Reader β) : Reader (List α) :=
  return (← r) :: (← many (between *> r))

/-- Whether the text is at its end. -/
def atEnd : Reader Bool := fun cs => some (cs.isEmpty, cs)

end Reader

open Reader

def isSpace (c : Char) : Bool := c == ' ' || c == '\t'

/-- No control character but the tabulator. -/
def isPlain (c : Char) : Bool := c == '\t' || (32 ≤ c.toNat && c.toNat != 127)

def spaces : Reader Unit := do
  let _ ← takeWhile isSpace

/-- A line ends with LF or CRLF. -/
def lineEnd : Reader Unit := char '\n' <|> text ['\r', '\n']

def comment : Reader Unit := do
  char '#'
  let _ ← takeWhile isPlain

/-- Blanks and a comment up to the end of the line or of the text. -/
def restOfLine : Reader Unit := do
  spaces
  let _ ← optional comment
  if ← atEnd then return else lineEnd

/-- Blanks, line ends and comments. -/
def gaps : Reader Unit := do
  let _ ← many ((do let _ ← takeSome isSpace) <|> lineEnd <|> (comment *> lineEnd))

end Calculator.Toml
