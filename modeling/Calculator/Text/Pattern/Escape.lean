import Calculator.Text.Alphabetic
import Calculator.Text.Blank
import Calculator.Text.Pattern.Basic

/-!
What a written pattern is read under, and its smallest parts: characters, sets and edges, plain or after
a backslash.
-/

namespace Calculator.Text.Pattern

/-- What changes the meaning of what is written. -/
inductive Flag where
  | anyCase
  | lines
  | dotAll
  /-- Repetitions are lazy and those marked as lazy are not. -/
  | swapped
  | unicode
  /-- A carriage return ends a line too. -/
  | returns
  /-- Blanks and comments are passed over. -/
  | spaced
deriving DecidableEq, Repr

def Flag.ofLetter? : Char → Option Flag
  | 'i' => some anyCase
  | 'm' => some lines
  | 's' => some dotAll
  | 'U' => some swapped
  | 'u' => some unicode
  | 'R' => some returns
  | 'x' => some spaced
  | _ => none

/-- The flags that are on. -/
abbrev Flags := List Flag

namespace Flags

def has (flags : Flags) (flag : Flag) : Bool := flags.contains flag

/-- Without Unicode there are no characters beyond ASCII. -/
def knows (flags : Flags) (c : Char) : Bool := flags.has .unicode || CharSet.ascii.contains c

/-- A set under flags. -/
def folded (flags : Flags) (set : CharSet) : CharSet :=
  if flags.has .anyCase then .anyCase set else set

/-- A set, or what is not in it. Without Unicode no set may go beyond ASCII. -/
def settled? (flags : Flags) (isNegated : Bool) (set : CharSet) : Option CharSet :=
  let set := if isNegated then .complement set else set
  if flags.has .unicode || !set.contains '\x80' then some set else none

def skipBlanks (isInComment : Bool) : List Char → List Char
  | [] => []
  | c :: cs =>
    if isInComment then skipBlanks (c != '\n') cs
    else if isBlank c then skipBlanks false cs
    else if c = '#' then skipBlanks true cs
    else c :: cs

/-- What is written after blanks and comments, where they are passed over. -/
def skip (flags : Flags) (cs : List Char) : List Char :=
  if flags.has .spaced then skipBlanks false cs else cs

end Flags

/-- The smallest parts of patterns. -/
inductive Atom where
  | literal (c : Char)
  | oneOf (set : CharSet)
  | edge (edge : Edge)
deriving DecidableEq, Repr

namespace Atom

def pattern (flags : Flags) : Atom → Pattern
  | literal c => one (if flags.knows c then flags.folded (.singleton c) else .singleton c)
  | oneOf set => one set
  | edge e => .edge e

/-- An atom in brackets. -/
def set? (flags : Flags) : Atom → Option CharSet
  | literal c => if flags.knows c then some (.singleton c) else none
  | oneOf set => some set
  | edge _ => none

/-- An atom at an end of a range. -/
def char? (flags : Flags) : Atom → Option Char
  | literal c => if flags.knows c then some c else none
  | _ => none

def lineStart (flags : Flags) : Edge :=
  if flags.has .lines then .lineStart (flags.has .returns) else .textStart

def lineEnd (flags : Flags) : Edge :=
  if flags.has .lines then .lineEnd (flags.has .returns) else .textEnd

/-- What a point stands for. -/
def point? (flags : Flags) : Option Atom :=
  (flags.settled? true
    (if flags.has .dotAll then .nothing
      else if flags.has .returns then .union (.singleton '\r') (.singleton '\n')
      else .singleton '\n')).map oneOf

/-- The edges of words, which are known only without Unicode. -/
def wordEdge? (flags : Flags) (edge : Edge) : Option Atom :=
  if flags.has .unicode then none else some (.edge edge)

/-- A character after a backslash that stands for itself. -/
def isPlain (c : Char) : Bool :=
  CharSet.ascii.contains c && !CharSet.alphanumeric.contains c && c != '<' && c != '>'

/-- What a character after a backslash stands for. -/
def ofEscape? (flags : Flags) (c : Char) : Option Atom :=
  if isPlain c then some (literal c)
  else
    match c with
    | 'a' => some (literal '\x07')
    | 'f' => some (literal '\x0C')
    | 't' => some (literal '\t')
    | 'n' => some (literal '\n')
    | 'r' => some (literal '\r')
    | 'v' => some (literal '\x0B')
    | 'A' => some (.edge .textStart)
    | 'z' => some (.edge .textEnd)
    | 'b' => wordEdge? flags .wordEdge
    | 'B' => wordEdge? flags .noWordEdge
    | '<' => wordEdge? flags .wordStart
    | '>' => wordEdge? flags .wordEnd
    | _ =>
      ((CharSet.ofLetter? c.toLower).bind fun set => flags.settled? c.isUpper set).map oneOf

end Atom

def hexValue? (c : Char) : Option Nat :=
  if c.isDigit then some (c.toNat - '0'.toNat)
  else if 'a' ≤ c.toLower ∧ c.toLower ≤ 'f' then some (c.toLower.toNat - 'a'.toNat + 10)
  else none

/-- The character with a number that is written in a count of hexadecimal digits. -/
def readHex (count : Nat) (cs : List Char) : Option (Atom × List Char) := do
  let digits ← (cs.take count).mapM hexValue?
  let n := digits.foldl (fun n digit => 16 * n + digit) 0
  if digits.length = count ∧ n.isValidChar then return (.literal (.ofNat n), cs.drop count) else none

/-- A general category, or what is not in it. -/
def readCategory (flags : Flags) (isNegated : Bool) : List Char → Option (Atom × List Char)
  | c :: cs => do
    let set ← CharSet.ofCategory? c
    if flags.has .unicode then return (.oneOf (← flags.settled? isNegated (flags.folded set)), cs)
    else none
  | [] => none

/-- What is written after a backslash. -/
def readEscape (flags : Flags) : List Char → Option (Atom × List Char)
  | [] => none
  | 'x' :: cs => (readHex 2 cs).filter fun (atom, _) => (atom.char? flags).isSome
  | 'u' :: cs => readHex 4 cs
  | 'U' :: cs => readHex 8 cs
  | 'p' :: cs => readCategory flags false (flags.skip cs)
  | 'P' :: cs => readCategory flags true (flags.skip cs)
  | c :: cs => (Atom.ofEscape? flags c).map (·, cs)

end Calculator.Text.Pattern
