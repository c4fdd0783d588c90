import HostWatch.Watch.Telemetry

namespace HostWatch

open Address (Url)

/-- Where the loop of a run is; the first round is followed by another at once. -/
inductive Progress where
  | waiting
  | fetching (first : Bool) (awaited : List Topic)
  | resting
  deriving DecidableEq, Repr

structure Run where
  base : Url
  generation : Nat
  progress : Progress
  deriving DecidableEq, Repr

/-- Live loops are those that have begun and have not been cleared away. -/
structure Engine where
  telemetry : Telemetry := {}
  run : Option Run := none
  liveLoops : Nat := 0
  deriving DecidableEq, Repr

inductive KillOutcome where
  | accepted (pid : UInt32)
  | failed (pid : UInt32) (message : String)
  deriving DecidableEq, Repr

/-- The run that a kill request is aimed at. -/
structure Aim where
  base : Url
  generation : Nat
  deriving DecidableEq, Repr

/-- What is to be done outside of the engine. -/
inductive Act where
  | publish
  | startLoop (generation : Nat)
  | dropLoop (generation : Nat) (begun : Bool)
  | fetch (generation : Nat) (topic : Topic) (base : Url)
  | rest (generation : Nat)
  | startKill (pid : UInt32) (aim : Option Aim)
  | requestKill (pid : UInt32) (aim : Aim)
  | report (outcome : KillOutcome)
  deriving DecidableEq, Repr

/-- What happens to a loop or to a kill request. -/
inductive Event where
  | loopBegins (generation : Nat)
  | loopCleared
  | replied (generation : Nat) (topic : Topic) (reply : Except Error topic.Report)
  | rested (generation : Nat)
  | killBegins (pid : UInt32) (aim : Option Aim)
  | killReplied (pid : UInt32) (generation : Nat) (reply : Except Error Unit)

namespace Engine

abbrev Outcome := Engine × List Act

def Outcome.and (o : Outcome) (next : Engine → Outcome) : Outcome :=
  let (e, acts) := next o.1
  (e, o.2 ++ acts)

def write (generation : Nat) (change : Telemetry → Telemetry) (e : Engine) : Outcome :=
  if e.telemetry.generation = generation then
    ({ e with telemetry := change e.telemetry }, [.publish])
  else (e, [])

def giveUp (e : Engine) : Outcome :=
  match e.run with
  | none => (e, [])
  | some r => ({ e with run := none }, [.dropLoop r.generation (r.progress ≠ .waiting)])

/-- Starts watching a target in place of the one before, unless its address is no good. -/
def start (target : Target) (e : Engine) : Except Error Outcome := do
  let base ← target.base
  let generation := e.telemetry.generation + 1
  return Outcome.and e.giveUp fun e =>
    ({ e with
      telemetry := .fresh generation target
      run := some ⟨base, generation, .waiting⟩ }, [.publish, .startLoop generation])

/-- Stops watching. What is known stays, under a generation that no run has. -/
def stop (e : Engine) : Outcome :=
  match e.run with
  | none => (e, [])
  | some _ =>
    Outcome.and
      ({ e with telemetry.generation := e.telemetry.generation + 1 }, [.publish])
      giveUp

def isRunning (e : Engine) : Bool := e.run.isSome

def kill (pid : UInt32) (e : Engine) : Outcome :=
  (e, [.startKill pid (e.run.map fun r => ⟨r.base, r.generation⟩)])

def runOf (e : Engine) (generation : Nat) : Option Run :=
  e.run.filter (·.generation = generation)

/-- Begins a round: all topics are asked for. The first round shows them as awaited. -/
def beginRound (r : Run) (first : Bool) (e : Engine) : Outcome :=
  let shown : Outcome :=
    if first then
      Topic.all.foldl (fun o topic => o.and (write r.generation (·.await topic))) (e, [])
    else (e, [])
  shown.and fun e =>
    ({ e with run := some { r with progress := .fetching first Topic.all } },
      Topic.all.map fun topic => .fetch r.generation topic r.base)

def endRound (r : Run) (first : Bool) (e : Engine) : Outcome :=
  if first then beginRound r false e
  else ({ e with run := some { r with progress := .resting } }, [.rest r.generation])

def arrived (generation : Nat) (topic : Topic) (e : Engine) : Outcome :=
  match e.runOf generation with
  | some r =>
    match r.progress with
    | .fetching first awaited =>
      let awaited := awaited.filter (· ≠ topic)
      if awaited.isEmpty then endRound r first e
      else ({ e with run := some { r with progress := .fetching first awaited } }, [])
    | _ => (e, [])
  | none => (e, [])

def step (e : Engine) : Event → Outcome
  | .loopBegins generation =>
    match e.runOf generation with
    | some r =>
      if r.progress = .waiting then beginRound r true { e with liveLoops := e.liveLoops + 1 }
      else (e, [])
    | none => (e, [])
  | .loopCleared => ({ e with liveLoops := e.liveLoops - 1 }, [])
  | .replied generation topic reply =>
    Outcome.and (write generation (·.take topic reply) e) (arrived generation topic)
  | .rested generation =>
    match e.runOf generation with
    | some r => if r.progress = .resting then beginRound r false e else (e, [])
    | none => (e, [])
  | .killBegins pid none => (e, [.report (.failed pid Error.noTarget.message)])
  | .killBegins pid (some aim) => (e, [.requestKill pid aim])
  | .killReplied pid generation (.ok ()) =>
    Outcome.and (write generation (·.takeKill pid) e) fun e => (e, [.report (.accepted pid)])
  | .killReplied pid _ (.error error) => (e, [.report (.failed pid error.message)])

end Engine

end HostWatch
