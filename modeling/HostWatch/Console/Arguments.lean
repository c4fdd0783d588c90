import HostWatch.Number.Decimal

namespace HostWatch

/-- What a command line asks for; the interval is in seconds. -/
structure Arguments where
  address : Option String := none
  target : Option Nat := none
  add : Option String := none
  interval : Option Nat := none
  terminal : Bool := false
  demo : Bool := false
  dryRun : Bool := false
  deriving DecidableEq, Repr, Inhabited

inductive UsageProblem where
  | helpWanted (program : String)
  | unknownOption (program option : String)
  | secondAddress (program : String)
  | valueMissing (option : String)
  | badNumber (option value : String)
  deriving DecidableEq, Repr

def usageTail : String :=
  "[--target N|-T N] [--add HOST] [--interval SECS|-i SECS] [--terminal] [--demo] [--dry-run] " ++
    "[HOST[:PORT]]"

def UsageProblem.message : UsageProblem → String
  | .helpWanted program => "Usage: " ++ program ++ " " ++ usageTail
  | .unknownOption program option =>
    "Unknown option '" ++ option ++ "'. Usage: " ++ program ++ " " ++ usageTail
  | .secondAddress program => "Unexpected argument. Usage: " ++ program ++ " " ++ usageTail
  | .valueMissing option => option ++ " needs a value"
  | .badNumber option value => option ++ ": '" ++ value ++ "' is not a valid number"

namespace Arguments

def number (option value : String) : Except UsageProblem Nat :=
  match Number.natural? Number.maxWord64 value with
  | some n => .ok n
  | none => .error (.badNumber option value)

def after? (start arg : String) : Option String :=
  if start.toList.isPrefixOf arg.toList then
    some (String.ofList (arg.toList.drop start.toList.length))
  else none

def single (program : String) (a : Arguments) (arg : String) : Except UsageProblem Arguments :=
  if arg = "-h" ∨ arg = "--help" then .error (.helpWanted program)
  else if arg = "--terminal" then .ok { a with terminal := true }
  else if arg = "--demo" then .ok { a with demo := true }
  else if arg = "--dry-run" then .ok { a with dryRun := true }
  else
    match after? "--target=" arg, after? "--interval=" arg, after? "--add=" arg with
    | some v, _, _ => do return { a with target := some (← number "--target" v) }
    | _, some v, _ => do return { a with interval := some (← number "--interval" v) }
    | _, _, some v => .ok (if v.isEmpty then a else { a with add := some v })
    | none, none, none =>
      if (after? "-" arg).isSome then .error (.unknownOption program arg)
      else if a.address.isSome then .error (.secondAddress program)
      else .ok { a with address := some arg }

def takeAll (program : String) (a : Arguments) : List String → Except UsageProblem Arguments
  | [] => .ok a
  | arg :: rest =>
    if arg = "--target" ∨ arg = "-T" then
      match rest with
      | [] => .error (.valueMissing arg)
      | v :: rest => do takeAll program { a with target := some (← number arg v) } rest
    else if arg = "--interval" ∨ arg = "-i" then
      match rest with
      | [] => .error (.valueMissing arg)
      | v :: rest => do takeAll program { a with interval := some (← number arg v) } rest
    else if arg = "--add" then
      match rest with
      | [] => .ok { a with add := none }
      | v :: rest => takeAll program { a with add := some v } rest
    else do takeAll program (← single program a arg) rest

def parse (line : List String) : Except UsageProblem Arguments :=
  takeAll (line.head?.getD "pimon") {} line.tail

end Arguments

end HostWatch
