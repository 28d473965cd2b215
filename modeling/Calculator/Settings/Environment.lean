import Calculator.Register

/-!
Variables of the environment that the program runs in.
-/

namespace Calculator.Settings

structure Environment where
  values : Register String := {}

namespace Environment

/-- Of two equal names the later counts. -/
def ofList (pairs : List (String × String)) : Environment :=
  ⟨pairs.foldl (fun values (name, value) => values.insert name value) {}⟩

def get? (env : Environment) (name : String) : Option String := env.values.get? name

/-- Looks a variable up by how its setting `NAME=value` begins, and gives what follows the next equals
sign. So a name that goes on into the value is found too. -/
def lookUp? (env : Environment) (opening : String) : Option String :=
  let name := opening.toList.takeWhile (· != '=')
  if name.isEmpty then none
  else
    match opening.toList.dropWhile (· != '='), env.get? (String.ofList name) with
    | [], value => value
    | _ :: begun, some value =>
      if (begun ++ ['=']).isPrefixOf value.toList then
        some (String.ofList (value.toList.drop (begun.length + 1)))
      else none
    | _, none => none

/-- Sets a variable that is not set yet. -/
def setDefault (env : Environment) (name value : String) : Environment :=
  if env.values.contains name then env else ⟨env.values.insert name value⟩

/-- The name of the environment that is assumed when none is given. -/
def defaultName : String := "PRODUCTION"

/-- The name of the environment. -/
def name (env : Environment) : String := (env.get? "ENVIRONMENT").getD defaultName

def logLevel? (env : Environment) : Option String := env.get? "LOG_LEVEL"

end Environment

end Calculator.Settings
