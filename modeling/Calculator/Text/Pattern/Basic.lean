import Calculator.Text.CharSet

/-!
Patterns of texts. Of the ways to match what begins at a place a pattern prefers some to others; a text
matches if the first match in it, in the preferred way, goes to its end.
-/

namespace Calculator.Text

/-- A place in a text: the character before it and the characters after it. -/
structure Place where
  before : Option Char := none
  rest : List Char
deriving DecidableEq, Repr

/-- What can be asked about a place. -/
inductive Edge where
  | textStart
  | textEnd
  /-- A line ends with a line feed, and also with a carriage return if `returns`. -/
  | lineStart (returns : Bool)
  | lineEnd (returns : Bool)
  | wordStart
  | wordEnd
  | wordEdge
  | noWordEdge
deriving DecidableEq, Repr

namespace Place

def isAtStart (place : Place) : Bool := place.before.isNone

def isAtEnd (place : Place) : Bool := place.rest.isEmpty

def follows (place : Place) (c : Char) : Bool := place.before == some c

def precedes (place : Place) (c : Char) : Bool := place.rest.head? == some c

def isAfterWord (place : Place) : Bool := place.before.any CharSet.word.contains

def isBeforeWord (place : Place) : Bool := place.rest.head?.any CharSet.word.contains

def isAt (place : Place) : Edge → Bool
  | .textStart => place.isAtStart
  | .textEnd => place.isAtEnd
  | .lineStart returns =>
    place.isAtStart || place.follows '\n' ||
      (returns && place.follows '\r' && !place.precedes '\n')
  | .lineEnd returns =>
    place.isAtEnd || (returns && place.precedes '\r') ||
      (place.precedes '\n' && !(returns && place.follows '\r'))
  | .wordStart => !place.isAfterWord && place.isBeforeWord
  | .wordEnd => place.isAfterWord && !place.isBeforeWord
  | .wordEdge => place.isAfterWord != place.isBeforeWord
  | .noWordEdge => place.isAfterWord == place.isBeforeWord

/-- The place after the next character, if that is in a set. -/
def step? (place : Place) (set : CharSet) : Option Place :=
  match place.rest with
  | [] => none
  | c :: rest => if set.contains c then some ⟨some c, rest⟩ else none

end Place

/-- The elements of a list in the order in which they first come. -/
def firsts {α : Type} [DecidableEq α] (xs : List α) : List α :=
  xs.foldl (fun found x => if x ∈ found then found else found ++ [x]) []

inductive Pattern where
  | empty
  | one (set : CharSet)
  | edge (edge : Edge)
  | append (p q : Pattern)
  /-- The first is preferred. -/
  | or (p q : Pattern)
  /-- One is preferred to none if `greedy`. -/
  | optional (greedy : Bool) (p : Pattern)
  /-- Once or more. More is preferred to less if `greedy`. -/
  | repeated (greedy : Bool) (p : Pattern)
deriving DecidableEq, Repr

namespace Pattern

/-- Adds to the places that have been found one where a round has ended, and those where more rounds
can end. A round that takes nothing is no other round, and from no place a round begins twice. There are
at most `n` characters left. -/
def onward (greedy : Bool) (ends : Place → List Place) : Nat → List Place → Place → List Place
  | 0, found, place => firsts (found ++ [place])
  | n + 1, found, place =>
    let more := ((ends place).filter (· ≠ place)).foldl (onward greedy ends n)
    if place ∈ found then found
    else if greedy then more found ++ [place]
    else more (found ++ [place])

/-- The places where one round or more can end. A first round that takes nothing is the last. -/
def rounds (greedy : Bool) (ends : Place → List Place) (place : Place) : List Place :=
  (ends place).foldl
    (fun found next =>
      if next = place then found ++ [place]
      else onward greedy ends place.rest.length found next)
    []

/-- The places where a match that begins at a place can end, the preferred one first. -/
def ends : Pattern → Place → List Place
  | empty, place => [place]
  | one set, place => (place.step? set).toList
  | edge e, place => if place.isAt e then [place] else []
  | append p q, place => firsts ((p.ends place).flatMap q.ends)
  | or p q, place => firsts (p.ends place ++ q.ends place)
  | optional greedy p, place =>
    firsts (if greedy then p.ends place ++ [place] else place :: p.ends place)
  | repeated greedy p, place => rounds greedy p.ends place

/-- None or more. -/
def anyNumber (greedy : Bool) (p : Pattern) : Pattern := optional greedy (repeated greedy p)

/-- A pattern after as few characters of any kind as possible. -/
def anywhere (p : Pattern) : Pattern := append (anyNumber false (one (.complement .nothing))) p

/-- Whether the first match in a text takes all that is left of it. Of the matches that begin at one
place the preferred one counts. -/
def isMatch (p : Pattern) (text : List Char) : Bool :=
  (p.anywhere.ends { rest := text }).head?.any Place.isAtEnd

end Pattern

end Calculator.Text
