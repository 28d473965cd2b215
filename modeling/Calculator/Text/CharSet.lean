/-!
Sets of characters, as a pattern writes them. The sets that have a name hold characters of ASCII only.
-/

namespace Calculator.Text

inductive CharSet where
  | nothing
  | range (low high : Char)
  | union (a b : CharSet)
  | intersection (a b : CharSet)
  | difference (a b : CharSet)
  | symmetricDifference (a b : CharSet)
  | complement (a : CharSet)
  /-- The letters of a set in any case. -/
  | anyCase (a : CharSet)
deriving DecidableEq, Repr

namespace CharSet

/-- The ways to write a letter of ASCII, and each other character. -/
def cases (c : Char) : List Char :=
  if c = 's' ∨ c = 'S' ∨ c = 'ſ' then ['s', 'S', 'ſ']
  else if c = 'k' ∨ c = 'K' ∨ c = '\u212A' then ['k', 'K', '\u212A']
  else [c.toLower, c.toUpper]

def contains : CharSet → Char → Bool
  | nothing, _ => false
  | range low high, c => decide (low ≤ c ∧ c ≤ high)
  | union a b, c => a.contains c || b.contains c
  | intersection a b, c => a.contains c && b.contains c
  | difference a b, c => a.contains c && !b.contains c
  | symmetricDifference a b, c => a.contains c != b.contains c
  | complement a, c => !a.contains c
  | anyCase a, c => (cases c).any a.contains

def singleton (c : Char) : CharSet := range c c

def ofRanges (ranges : List (Char × Char)) : CharSet :=
  ranges.foldr (fun (low, high) set => union (range low high) set) nothing

def digits : CharSet := range '0' '9'

def upper : CharSet := range 'A' 'Z'

def lower : CharSet := range 'a' 'z'

def letters : CharSet := union upper lower

def alphanumeric : CharSet := union letters digits

/-- What words are made of. -/
def word : CharSet := union alphanumeric (singleton '_')

def blanks : CharSet := ofRanges [('\t', '\r'), (' ', ' ')]

def controls : CharSet := ofRanges [('\x00', '\x1F'), ('\x7F', '\x7F')]

def ascii : CharSet := range '\x00' '\x7F'

/-- The set that stands under a name in brackets. -/
def ofName? : String → Option CharSet
  | "alnum" => some alphanumeric
  | "alpha" => some letters
  | "ascii" => some ascii
  | "blank" => some (ofRanges [('\t', '\t'), (' ', ' ')])
  | "cntrl" => some controls
  | "digit" => some digits
  | "graph" => some (range '!' '~')
  | "lower" => some lower
  | "print" => some (range ' ' '~')
  | "punct" => some (ofRanges [('!', '/'), (':', '@'), ('[', '\x60'), ('\x7B', '~')])
  | "space" => some blanks
  | "upper" => some upper
  | "word" => some word
  | "xdigit" => some (ofRanges [('0', '9'), ('A', 'F'), ('a', 'f')])
  | _ => none

/-- The set of a general category, named by the letter that its name begins with. -/
def ofCategory? (letter : Char) : Option CharSet :=
  match letter.toUpper with
  | 'C' => some controls
  | 'L' => some letters
  | 'M' => some nothing
  | 'N' => some digits
  | 'P' =>
    some (ofRanges
      [('!', '#'), ('%', '*'), (',', '/'), (':', ';'), ('?', '@'), ('[', ']'), ('_', '_'),
       ('\x7B', '\x7B'), ('\x7D', '\x7D')])
  | 'S' =>
    some (ofRanges
      [('$', '$'), ('+', '+'), ('<', '>'), ('^', '^'), ('\x60', '\x60'), ('|', '|'), ('~', '~')])
  | 'Z' => some (singleton ' ')
  | _ => none

/-- The set that stands for itself after a backslash, in lower case. -/
def ofLetter? : Char → Option CharSet
  | 'd' => some digits
  | 's' => some blanks
  | 'w' => some word
  | _ => none

end CharSet

end Calculator.Text
