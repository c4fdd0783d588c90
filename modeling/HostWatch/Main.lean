import HostWatch.Program

namespace HostWatch

/-- How long the program waits, in milliseconds, before it looks again whether a line was typed. -/
def pause : Nat := 50

def hostsFile : IO String := do
  return hostsPath (← IO.getEnv "XDG_CONFIG_HOME") ((← IO.getEnv "HOME").getD ".")

def readPlace : IO HostsPlace := do
  try
    return .open (some (← IO.FS.readBinFile (← hostsFile)).toList)
  catch _ =>
    return .open none

def writePlace (before after : HostsPlace) : IO Unit := do
  match after with
  | .open (some bytes) =>
    if before ≠ after then
      try
        IO.FS.createDirAll
          (hostsDirectory (← IO.getEnv "XDG_CONFIG_HOME") ((← IO.getEnv "HOME").getD "."))
        IO.FS.writeBinFile (← hostsFile) (ByteArray.mk bytes.toArray)
      catch _ =>
        return
  | _ => return

def showScreen (p : Program) : IO Program := do
  (← IO.getStdout).putStr p.screen.output
  (← IO.getStdout).flush
  (← IO.getStderr).putStr p.screen.complaints
  return p.withScreen { p.screen with output := "", complaints := "" }

def readEnvironment : IO (List (String × String)) := do
  Settings.keys.filterMapM fun key => do return (← IO.getEnv key).map fun value => (key, value)

abbrev Typing := Task (Except IO.Error String)

def awaitLine (p : Program) : IO (Option Typing) := do
  if p.screen.ended.isSome then return none
  else return some (← IO.asTask (do (← IO.getStdin).getLine))

def takeLine (p : Program) (typing : Typing) : IO (Program × Option Typing) := do
  if ← IO.hasFinished typing then
    match typing.get with
    | .ok line =>
      if line.isEmpty then return (p.endInput, none)
      else
        let p := p.type (line.dropEndWhile (· = '\n')).toString
        return (p, ← awaitLine p)
    | .error _ => return (p.endInput, none)
  else return (p, some typing)

partial def goOn (p : Program) (typing : Option Typing) : IO UInt32 := do
  let p ← showScreen p
  match p.screen.exitCode? with
  | some code => return UInt32.ofNat code
  | none =>
    IO.sleep (UInt32.ofNat pause)
    let before := p.place
    let p := p.pass pause
    let (p, typing) ←
      match typing with
      | some typing => takeLine p typing
      | none => pure (p, none)
    writePlace before p.place
    goOn p typing

def run (args : List String) : IO UInt32 := do
  let place ← readPlace
  let environment ← readEnvironment
  let p := Program.ofCommandLine { network := .unreachable } (environment.lookup ·) place
    ("pimon" :: args)
  writePlace place p.place
  goOn p (← awaitLine p)

end HostWatch

def main (args : List String) : IO UInt32 := HostWatch.run args
