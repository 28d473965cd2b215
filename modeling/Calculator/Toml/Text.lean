import Calculator.Toml.Reader

/-!
Strings: in double quotes with escapes or in single quotes without, on one line or, between three
quotes, on many.
-/

namespace Calculator.Toml

open Reader

def hexValue (c : Char) : Nat :=
  if c.isDigit then c.toNat - '0'.toNat
  else if 'a' ≤ c then c.toNat - 'a'.toNat + 10
  else c.toNat - 'A'.toNat + 10

def isHexDigit (c : Char) : Bool := c.isDigit || ('a' ≤ c && c ≤ 'f') || ('A' ≤ c && c ≤ 'F')

/-- The character whose number stands in so many hexadecimal digits. -/
def numbered (digits : Nat) : Reader Char := do
  let n := (← exactly isHexDigit digits).foldl (fun n c => 16 * n + hexValue c) 0
  if n.isValidChar then return Char.ofNat n else failure

/-- What stands for a character after a backslash. -/
def escaped : Reader Char := do
  match ← next with
  | 'b' => return '\x08'
  | 't' => return '\t'
  | 'n' => return '\n'
  | 'f' => return '\x0c'
  | 'r' => return '\r'
  | '"' => return '"'
  | '\\' => return '\\'
  | 'u' => numbered 4
  | 'U' => numbered 8
  | _ => failure

/-- A part of a string with escapes. -/
def basicPart : Reader (List Char) :=
  takeSome (fun c => isPlain c && c != '"' && c != '\\') <|> return [← char '\\' *> escaped]

def basicString : Reader (List Char) := do
  char '"'
  let parts ← many basicPart
  char '"'
  return parts.flatten

def isLiteral (c : Char) : Bool := isPlain c && c != '\''

def literalString : Reader (List Char) := do
  char '\''
  let cs ← takeWhile isLiteral
  char '\''
  return cs

/-- A line end in a string is a line feed, however it is written. -/
def brokenLine : Reader (List Char) := do
  lineEnd
  return ['\n']

/-- A backslash at the end of a line takes away all blanks and line ends that follow. -/
def joinedLine : Reader (List Char) := do
  char '\\'
  spaces
  lineEnd
  let _ ← many ((do let _ ← takeSome isSpace) <|> lineEnd)
  return []

/-- A string between three quotes. Inside, one or two quotes stand before a part or at the end. -/
def longString (quote : Char) (part : Reader (List Char)) : Reader (List Char) := do
  text [quote, quote, quote]
  let _ ← optional lineEnd
  let quotedPart (quotes : List Char) : Reader (List Char) :=
    return quotes ++ (← text quotes *> part)
  let parts ← many (part <|> quotedPart [quote, quote] <|> quotedPart [quote])
  let ending (quotes : List Char) : Reader (List Char) := do
    text (quotes ++ [quote, quote, quote])
    return quotes
  let last ← ending [quote, quote] <|> ending [quote] <|> ending []
  return parts.flatten ++ last

def string : Reader String :=
  String.ofList <$>
    (longString '"' (joinedLine <|> basicPart <|> brokenLine) <|> basicString <|>
      longString '\'' (takeSome isLiteral <|> brokenLine) <|> literalString)

end Calculator.Toml
