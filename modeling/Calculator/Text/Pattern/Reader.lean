import Calculator.Text.Pattern.Bracket

/-!
Reading patterns: alternatives of sequences of atoms, sets and groups, each of which may be repeated.
-/

namespace Calculator.Text.Pattern

/-- Flags that are switched. -/
structure Switch where
  on : Flags := []
  off : Flags := []
  /-- Whether the hyphen has been read, after which flags are switched off. -/
  isOff : Bool := false
deriving DecidableEq, Repr

namespace Switch

/-- No flag is switched twice. -/
def add? (switch : Switch) (flag : Flag) : Option Switch :=
  if switch.on.has flag || switch.off.has flag then none
  else if switch.isOff then some { switch with off := flag :: switch.off }
  else some { switch with on := flag :: switch.on }

def apply (switch : Switch) (flags : Flags) : Flags :=
  switch.on ++ flags.filter fun flag => !switch.off.has flag

/-- Whether something is switched, and something after the hyphen if there is one. -/
def isWhole (switch : Switch) : Bool :=
  !switch.off.isEmpty || (!switch.isOff && !switch.on.isEmpty)

/-- Reads flags, and what ends them: a colon or a bracket. -/
def read (switch : Switch) : List Char → Option (Switch × Char × List Char)
  | [] => none
  | ')' :: cs => if switch.isWhole then some (switch, ')', cs) else none
  | ':' :: cs => if switch.isOff && switch.off.isEmpty then none else some (switch, ':', cs)
  | '-' :: cs => if switch.isOff then none else read { switch with isOff := true } cs
  | c :: cs => do read (← switch.add? (← Flag.ofLetter? c)) cs

end Switch

/-- A group that is being read, or the whole. -/
structure Group where
  /-- The flags after the group. -/
  flags : Flags
  /-- The alternatives before the latest. -/
  before : Option Pattern := none
  /-- The latest alternative from its end. Switched flags are no pattern. -/
  items : List (Option Pattern) := []
deriving DecidableEq, Repr

namespace Group

def add (group : Group) (item : Option Pattern) : Group := { group with items := item :: group.items }

def pattern (group : Group) : Pattern :=
  let latest := (group.items.reverse.filterMap id).foldr append empty
  group.before.elim latest (or · latest)

def alternative (group : Group) : Group := { group with before := some group.pattern, items := [] }

/-- Puts something in place of the latest item, unless there is none to repeat. -/
def mapLatest? (group : Group) (change : Pattern → Pattern) : Option Group :=
  match group.items with
  | some p :: items => some { group with items := some (change p) :: items }
  | _ => none

end Group

/-- A pattern that is being read. -/
structure Reading where
  flags : Flags := [.unicode]
  /-- The names of groups. -/
  names : List (List Char) := []
  group : Group := { flags := [.unicode] }
  /-- The groups around the group, the innermost first. -/
  outer : List Group := []
deriving DecidableEq, Repr

namespace Reading

def add (r : Reading) (p : Pattern) : Reading := { r with group := r.group.add (some p) }

def addAtom (r : Reading) (atom : Atom) : Reading := r.add (atom.pattern r.flags)

/-- Opens a group in which flags are switched. -/
def openGroup (r : Reading) (switch : Switch) : Reading :=
  { r with
    flags := switch.apply r.flags
    group := { flags := r.flags }
    outer := r.group :: r.outer }

def closeGroup? (r : Reading) : Option Reading :=
  match r.outer with
  | [] => none
  | group :: outer =>
    some { r with flags := r.group.flags, group := group.add (some r.group.pattern), outer := outer }

/-- Switches flags up to the end of the group. -/
def switch (r : Reading) (switch : Switch) : Reading :=
  { r with flags := switch.apply r.flags, group := r.group.add none }

/-- Whether a character may stand in the name of a group. -/
def isNameChar (isFirst : Bool) (c : Char) : Bool :=
  c = '_' || isAlphabetic c || (!isFirst && (isAlphanumeric c || c = '.' || c = '[' || c = ']'))

def isName : List Char → Bool
  | [] => false
  | c :: cs => isNameChar true c && cs.all (isNameChar false)

/-- Opens a group under a name, which ends in an angle. No two groups have one name. -/
def openNamed (r : Reading) (cs : List Char) : Option (Reading × List Char) :=
  let name := cs.takeWhile (· != '>')
  if isName name && !r.names.contains name && name.length < cs.length then
    some ({ r with names := name :: r.names }.openGroup {}, cs.drop (name.length + 1))
  else none

/-- Opens a group, or switches flags, after a bracket and a question mark. -/
def openMarked (r : Reading) : List Char → Option (Reading × List Char)
  | '=' :: _ | '!' :: _ | '<' :: '=' :: _ | '<' :: '!' :: _ => none
  | 'P' :: '<' :: cs | '<' :: cs => r.openNamed cs
  | cs => do
    let (switch, mark, rest) ← Switch.read {} cs
    return (if mark = ':' then r.openGroup switch else r.switch switch, rest)

/-- Opens what a round bracket opens. -/
def openRound (r : Reading) (cs : List Char) : Option (Reading × List Char) :=
  match r.flags.skip cs with
  | '?' :: cs => r.openMarked cs
  | cs => some (r.openGroup {}, cs)

/-- Repeats the latest item. A question mark after the sign makes the repetition lazy. -/
def repeatLatest (r : Reading) (change : Bool → Pattern → Pattern) (cs : List Char) :
    Option (Reading × List Char) := do
  let isLazy := cs.head? == some '?'
  let group ← r.group.mapLatest? (change (isLazy == r.flags.has .swapped))
  return ({ r with group := group }, if isLazy then cs.drop 1 else cs)

/-- Reads one part. Counts of repetitions, in curly brackets, are not known. -/
def step (r : Reading) : List Char → Option (Reading × List Char)
  | [] => none
  | '(' :: cs => r.openRound cs
  | ')' :: cs => r.closeGroup?.map (·, cs)
  | '|' :: cs => some ({ r with group := r.group.alternative }, cs)
  | '[' :: cs => (readSet r.flags cs).map fun (set, rest) => (r.add (one set), rest)
  | '?' :: cs => r.repeatLatest optional cs
  | '*' :: cs => r.repeatLatest anyNumber cs
  | '+' :: cs => r.repeatLatest repeated cs
  | '\x7B' :: _ => none
  | '\\' :: cs => (readEscape r.flags cs).map fun (atom, rest) => (r.addAtom atom, rest)
  | '.' :: cs => (Atom.point? r.flags).map fun atom => (r.addAtom atom, cs)
  | '^' :: cs => some (r.addAtom (.edge (Atom.lineStart r.flags)), cs)
  | '$' :: cs => some (r.addAtom (.edge (Atom.lineEnd r.flags)), cs)
  | c :: cs => some (r.addAtom (.literal c), cs)

/-- Reads a text to its end, in at most `n` steps. All groups have to be closed. -/
def finish (r : Reading) (cs : List Char) : Nat → Option Pattern
  | 0 => none
  | n + 1 =>
    match r.flags.skip cs with
    | [] => if r.outer.isEmpty then some r.group.pattern else none
    | cs => do
      let (r, rest) ← r.step cs
      finish r rest n

end Reading

/-- Reads a pattern. -/
def read? (cs : List Char) : Option Pattern := Reading.finish {} cs (cs.length + 1)

end Calculator.Text.Pattern
