import Calculator.Text.Pattern.Escape

/-!
Sets in brackets: characters, ranges, named sets and brackets inside, with operators between unions of
them.
-/

namespace Calculator.Text.Pattern

/-- How sets are combined. All operators bind alike, from the left. -/
inductive SetOperator where
  | and
  | without
  | differing
deriving DecidableEq, Repr

def SetOperator.apply : SetOperator → CharSet → CharSet → CharSet
  | and => .intersection
  | without => .difference
  | differing => .symmetricDifference

/-- Brackets that are being read. -/
structure Bracket where
  isNegated : Bool
  /-- Whether nothing but hyphens has been read. -/
  isFresh : Bool := true
  /-- What is before the latest operator. -/
  left : Option (CharSet × SetOperator) := none
  /-- What has been read since. -/
  items : CharSet := .nothing
deriving DecidableEq, Repr

namespace Bracket

def add (bracket : Bracket) (set : CharSet) : Bracket :=
  { bracket with isFresh := false, items := .union bracket.items set }

/-- What has been read so far. -/
def value (flags : Flags) (bracket : Bracket) : CharSet :=
  match bracket.left with
  | none => bracket.items
  | some (left, operator) => operator.apply (flags.folded left) (flags.folded bracket.items)

def combine (flags : Flags) (bracket : Bracket) (operator : SetOperator) : Bracket :=
  { bracket with
    isFresh := false
    left := some (bracket.value flags, operator)
    items := .nothing }

/-- The set that closed brackets stand for. -/
def set? (flags : Flags) (bracket : Bracket) : Option CharSet :=
  flags.settled? bracket.isNegated (flags.folded (bracket.value flags))

/-- Brackets of which the first has been read, and the text after it. -/
def opened (flags : Flags) (cs : List Char) : Bracket × List Char :=
  match flags.skip cs with
  | '^' :: cs => ({ isNegated := true }, cs)
  | cs => ({ isNegated := false }, cs)

end Bracket

/-- A named set with its colons, and whether it is negated; what is written before it is a bracket. -/
def readNamedSet : List Char → Option (Bool × CharSet × List Char)
  | ':' :: cs => do
    let isNegated := cs.head? == some '^'
    let cs := if isNegated then cs.drop 1 else cs
    let set ← CharSet.ofName? (String.ofList (cs.takeWhile (· != ':')))
    match cs.dropWhile (· != ':') with
    | ':' :: ']' :: rest => return (isNegated, set, rest)
    | _ => none
  | _ => none

def readBracketAtom (flags : Flags) : List Char → Option (Atom × List Char)
  | [] => none
  | '\\' :: cs => readEscape flags cs
  | c :: cs => some (.literal c, cs)

/-- A character, a set after a backslash, or a range. A hyphen before a hyphen or at the end makes no
range. -/
def readRange (flags : Flags) (cs : List Char) : Option (CharSet × List Char) := do
  let (first, rest) ← readBracketAtom flags cs
  match flags.skip rest with
  | '-' :: after =>
    let next := flags.skip after
    if next.head? = some ']' ∨ next.head? = some '-' then return (← first.set? flags, '-' :: after)
    else
      let (last, rest) ← readBracketAtom flags next
      let low ← first.char? flags
      let high ← last.char? flags
      if low ≤ high then return (.range low high, rest) else none
  | rest => return (← first.set? flags, rest)

/-- What follows a step in brackets: more brackets with those around them, or the set of the last ones. -/
abbrev BracketStep := Option ((List Bracket ⊕ CharSet) × List Char)

def closeBracket (flags : Flags) (bracket : Bracket) (outer : List Bracket) (cs : List Char) :
    BracketStep := do
  let set ← bracket.set? flags
  match outer with
  | [] => return (.inr set, cs)
  | parent :: outer => return (.inl (parent.add set :: outer), cs)

def openBracket (flags : Flags) (brackets : List Bracket) (cs : List Char) : BracketStep :=
  let (bracket, cs) := Bracket.opened flags cs
  some (.inl (bracket :: brackets), cs)

/-- Reads a named set, or opens brackets inside brackets. -/
def readInner (flags : Flags) (bracket : Bracket) (outer : List Bracket) (cs : List Char) :
    BracketStep :=
  match readNamedSet cs with
  | some (isNegated, set, rest) =>
    (flags.settled? isNegated (flags.folded set)).map fun set => (.inl (bracket.add set :: outer), rest)
  | none => openBracket flags (bracket :: outer) cs

def stepBracket (flags : Flags) (bracket : Bracket) (outer : List Bracket) (cs : List Char) :
    BracketStep :=
  let operator (operator : SetOperator) (rest : List Char) : BracketStep :=
    some (.inl (bracket.combine flags operator :: outer), rest)
  let item : BracketStep :=
    (readRange flags cs).map fun (set, rest) => (.inl (bracket.add set :: outer), rest)
  match cs with
  | '[' :: rest => readInner flags bracket outer rest
  | ']' :: rest =>
    if bracket.isFresh && bracket.items = .nothing then
      some (.inl (bracket.add (.singleton ']') :: outer), rest)
    else closeBracket flags bracket outer rest
  | '&' :: '&' :: rest => operator .and rest
  | '~' :: '~' :: rest => operator .differing rest
  | '-' :: rest =>
    if bracket.isFresh then
      some (.inl ({ bracket.add (.singleton '-') with isFresh := true } :: outer), rest)
    else if rest.head? = some '-' then operator .without (rest.drop 1)
    else item
  | _ => item

/-- Reads on in brackets until the last ones are closed, in at most `n` steps. -/
def readBrackets (flags : Flags) : Nat → List Bracket → List Char → Option (CharSet × List Char)
  | n + 1, bracket :: outer, cs => do
    match ← stepBracket flags bracket outer (flags.skip cs) with
    | (.inr set, rest) => return (set, rest)
    | (.inl brackets, rest) => readBrackets flags n brackets rest
  | _, _, _ => none

/-- The set in brackets of which the first has been read. -/
def readSet (flags : Flags) (cs : List Char) : Option (CharSet × List Char) :=
  let (bracket, rest) := Bracket.opened flags cs
  readBrackets flags (rest.length + 1) [bracket] rest

end Calculator.Text.Pattern
