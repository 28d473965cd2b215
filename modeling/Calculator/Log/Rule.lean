import Calculator.Log.Note
import Calculator.Number.Numeral
import Calculator.Number.Whole
import Calculator.Text.Bytes
import Calculator.Text.Pattern.Reader

/-!
Rules of what is logged: down to which level, for which topics, and in which runs. A rule is written
`topic[run{name=value}]=level`, and every part of it may be left out.
-/

namespace Calculator.Log

/-- What a rule wants a value to be. -/
inductive Wanted where
  | number (n : Nat)
  | text (written : String) (pattern : Text.Pattern)
  /-- A truth value, a negative number or a fraction. No value is one of these. -/
  | other (written : String)
deriving DecidableEq, Repr

namespace Wanted

def read? (written : String) : Option Wanted :=
  if written = "true" ∨ written = "false" then some (other written)
  else
    match Whole.readUnsigned? written with
    | some n => some (number n)
    | none =>
      if (Whole.read? written).isSome || (Numeral.read? written.toList).isSome then
        some (other written)
      else (Text.Pattern.read? written.toList).map (text written)

def admits : Wanted → Value → Bool
  | number n, .number m => n = m
  | text _ pattern, .text s => pattern.isMatch s.toList
  | _, _ => false

end Wanted

/-- A name that must have a value, and what the value is wanted to be. -/
structure Condition where
  name : String
  wanted : Option Wanted := none
deriving DecidableEq, Repr

namespace Condition

def read? (written : List Char) : Option Condition :=
  match (Text.splitAll (· == '=') written).map String.ofList with
  | name :: value :: _ => (Wanted.read? value).map fun wanted => ⟨name, some wanted⟩
  | [name] => some ⟨name, none⟩
  | [] => none

def holdsIn (condition : Condition) (run : Run) : Bool :=
  (run.values.lookup condition.name).any fun value => condition.wanted.all (·.admits value)

end Condition

structure Rule where
  /-- What the name of a topic must begin with. -/
  topic : Option String := none
  /-- The kind of runs in which the rule holds. -/
  run : Option String := none
  condition : Option Condition := none
  /-- The rank of the least severe level that is taken; nothing is taken at 0. -/
  rank : Nat := Level.trace.rank
deriving DecidableEq, Repr

/-- Why a rule cannot be read. -/
inductive RuleError where
  | malformed
  /-- A part of the rule would begin or end inside a character. -/
  | torn
deriving DecidableEq, Repr

namespace Rule

/-- The rank of a level given by name in any case, or by number. -/
def rank? (level : String) : Option Nat :=
  match Whole.readUnsigned? level with
  | some n => if n ≤ Level.trace.rank then some n else none
  | none =>
    match Text.asciiUpper level with
    | "OFF" => some 0
    | "ERROR" => some 1
    | "WARN" => some 2
    | "INFO" => some 3
    | "DEBUG" => some 4
    | "TRACE" => some 5
    | _ => none

/-- Characters that a topic may begin with. -/
def canBegin (c : Char) : Bool := Text.isAlphanumeric c || c == '-' || c == ':' || c == '_'

/-- A rule that is one word: a level, or else a topic of which all is taken. -/
def ofWord (word : String) : Rule :=
  match rank? word with
  | some rank => { rank := rank }
  | none => { topic := some word }

/-- Cuts a part out of the text of a rule. Parts are found in the text without the blanks around it, and
cut out of the text with them. -/
def cut (text : List Char) (start stop : Nat) : Except RuleError (List Char) :=
  (Text.cutBytes text start stop).elim (.error .torn) .ok

/-- The level that goes from a place to the end. All is taken if none is given. -/
def readLevel (text : List Char) (start : Nat) : Except RuleError Nat := do
  let level ← cut text start (Text.utf8Length text)
  if level.isEmpty then return Level.trace.rank
  else (rank? (String.ofList level)).elim (.error .malformed) .ok

/-- Reads what follows the brackets, which is at a place. -/
def readEnd (text : List Char) (place : Nat) (rule : Rule) : List Char → Except RuleError Rule
  | [] => .ok rule
  | '=' :: _ => do return { rule with rank := ← readLevel text (place + 1) }
  | _ => .error .malformed

/-- Reads a condition, which begins at a place, and what follows it. -/
def readCondition (text : List Char) (place : Nat) (rule : Rule) (cs : List Char) :
    Except RuleError Rule := do
  let stop := place + Text.utf8Length (cs.takeWhile (· != '\x7D'))
  match cs.dropWhile (· != '\x7D') with
  | [] => .error .malformed
  | _ :: rest =>
    let written ← cut text place stop
    match if written.isEmpty then none else Condition.read? written, rest with
    | some condition, ']' :: rest =>
      readEnd text (stop + 2) { rule with condition := some condition } rest
    | _, _ => .error .malformed

/-- Reads the kind of a run, which begins at a place, and what follows it. -/
def readRun (text : List Char) (place : Nat) (rule : Rule) (cs : List Char) : Except RuleError Rule := do
  let isInside (c : Char) := c != ']' && c != '\x7B'
  let stop := place + Text.utf8Length (cs.takeWhile isInside)
  match cs.dropWhile isInside with
  | [] => .error .malformed
  | mark :: rest =>
    let run ← cut text place stop
    if mark = ']' then readEnd text (stop + 1) { rule with run := some (String.ofList run) } rest
    else if run.isEmpty then readCondition text (stop + 1) rule rest
    else readCondition text (stop + 1) { rule with run := some (String.ofList run) } rest

/-- Reads a rule that begins with a topic. -/
def readTopic (text cs : List Char) : Except RuleError Rule := do
  let isInside (c : Char) := c != '=' && c != '['
  let stop := Text.utf8Length (cs.takeWhile isInside)
  match cs.dropWhile isInside with
  | [] => return ofWord (String.ofList text)
  | mark :: rest =>
    let topic ← cut text 0 stop
    let rule : Rule := { topic := some (String.ofList topic) }
    if mark = '=' then return { rule with rank := ← readLevel text (stop + 1) }
    else readRun text (stop + 1) rule rest

def read (text : List Char) : Except RuleError Rule :=
  match Text.trim text with
  | '[' :: cs => readRun text 1 {} cs
  | cs => if cs.head?.any canBegin then readTopic text cs else .error .malformed

def hasTopic (rule : Rule) (topic : Topic) : Bool :=
  rule.topic.all fun name => name.toList.isPrefixOf topic.name.toList

/-- Whether a rule wants a value. -/
def hasWanted (rule : Rule) : Bool := rule.condition.any (·.wanted.isSome)

/-- Whether a rule holds for notes in some runs. -/
def isOfRuns (rule : Rule) : Bool := rule.run.isSome || rule.condition.isSome

/-- Whether a rule holds for notes in any run and in none. -/
def isOfNotes (rule : Rule) : Bool := rule.run.isNone && !rule.hasWanted

/-- Whether a rule holds for what is noted in a run. -/
def holdsIn (rule : Rule) (run : Run) : Bool :=
  rule.hasTopic Run.topic && rule.run.all (· = Run.kind) && rule.condition.all (·.holdsIn run)

/-- Whether a rule is about a note, in whatever run it was made. -/
def isAbout (rule : Rule) (note : Note) : Bool :=
  rule.hasTopic note.topic && rule.condition.all fun condition => note.names.contains condition.name

/-- How narrow a rule of notes is: by the length of its topic, then by whether it has a condition, then
by the name in it. -/
def compareNarrowness (a b : Rule) : Ordering :=
  let size (rule : Rule) : Nat := rule.topic.elim 0 (·.utf8ByteSize + 1)
  let name (rule : Rule) : String := rule.condition.elim "" Condition.name
  (compare (size a) (size b)).then
    ((compare a.condition.isSome b.condition.isSome).then (compare (name a) (name b)))

/-- Whether two rules hold in the same runs. -/
def hasSameRuns (a b : Rule) : Bool :=
  a.topic = b.topic && a.run = b.run && a.condition = b.condition

end Rule

end Calculator.Log
