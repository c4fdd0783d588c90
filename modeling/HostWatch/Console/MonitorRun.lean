import HostWatch.Console.Monitor
import HostWatch.Console.Screen
import HostWatch.Watch.Timeline

namespace HostWatch

structure MonitorRun (σ : Type) where
  monitor : Monitor
  timeline : Timeline σ
  screen : Screen := {}
  hasInput : Bool := true

namespace MonitorRun

variable {σ : Type}

def isOver (r : MonitorRun σ) : Bool := r.screen.ended.isSome

def quit (r : MonitorRun σ) : MonitorRun σ :=
  { r with timeline := r.timeline.stop, screen := r.screen.finish }

def watch (target : Target) (r : MonitorRun σ) : MonitorRun σ :=
  let stopped := r.timeline.stop
  match stopped.start target with
  | .ok timeline => { r with timeline, monitor := { r.monitor with lastLine := "" } }
  | .error e =>
    { r with timeline := stopped, screen := r.screen.fail (some "restart refresh loop") e }

def carryOut (r : MonitorRun σ) : MonitorAct → MonitorRun σ
  | .print text => { r with screen := r.screen.print text }
  | .complain text => { r with screen := r.screen.complain text }
  | .kill pid => { r with timeline := r.timeline.kill pid }
  | .watch target => r.watch target
  | .quit => r.quit

def follow (r : MonitorRun σ) (o : Monitor × List MonitorAct) : MonitorRun σ :=
  o.2.foldl carryOut { r with monitor := o.1 }

def outcomes (entries : List Entry) : List KillOutcome :=
  entries.filterMap fun e =>
    match e.act with
    | .report o => some o
    | _ => none

def display (r : MonitorRun σ) : MonitorRun σ :=
  let (entries, timeline) := r.timeline.readJournal
  let lines := (outcomes entries).map Monitor.outcomeLine
  let r := { r with timeline, screen := lines.foldl (fun c s => c.printLine s) r.screen }
  if entries.any (·.act = .publish) then r.follow (r.monitor.announce timeline.engine.telemetry)
  else r

def settle (r : MonitorRun σ) : MonitorRun σ :=
  if r.isOver then r else display { r with timeline := r.timeline.settle }

/-- Begins to watch a host, if its address is good. What was known when the watch began is not
shown. -/
def start (monitor : Monitor) (timeline : Timeline σ) (screen : Screen) (target : Target) :
    MonitorRun σ :=
  match timeline.start target with
  | .ok timeline =>
    settle
      { monitor
        timeline := timeline.readJournal.2
        screen := screen.complainLine Monitor.greeting }
  | .error e => { monitor, timeline, screen := screen.fail (some "start refresh loop") e }

def typeLine (line : String) (r : MonitorRun σ) : MonitorRun σ :=
  if r.isOver || !r.hasInput then r
  else (r.follow (r.monitor.take r.timeline.engine.telemetry line)).settle

def type (text : String) (r : MonitorRun σ) : MonitorRun σ :=
  (Text.typedLines text.toList).foldl (fun r line => r.typeLine (String.ofList line)) r

def endInput (r : MonitorRun σ) : MonitorRun σ := { r with hasInput := false }

def interrupt (r : MonitorRun σ) : MonitorRun σ := if r.isOver then r else r.quit

/-- Lets time pass up to the next thing that is due by a limit, again and again until a condition
holds; the first argument bounds how often. -/
def passUntil (p : Screen → Bool) (limit : Nat) : Nat → MonitorRun σ → MonitorRun σ
  | 0, r => r
  | fuel + 1, r =>
    if p r.screen || r.isOver then r
    else
      match r.timeline.nextDue? with
      | some due =>
        if due ≤ limit then
          passUntil p limit fuel
            (display { r with timeline := r.timeline.advance (due - r.timeline.now) })
        else r
      | none => r

/-- Lets time pass until a condition holds of the screen, a number of milliseconds at most. -/
def wait (p : Screen → Bool) (patience : Nat) (r : MonitorRun σ) : MonitorRun σ :=
  let limit := r.timeline.now + patience
  passUntil p limit (r.timeline.budget limit) r

def pass (millis : Nat) (r : MonitorRun σ) : MonitorRun σ :=
  let limit := r.timeline.now + millis
  let r := passUntil (fun _ => false) limit (r.timeline.budget limit) r
  if r.isOver then r
  else display { r with timeline := r.timeline.advance (limit - r.timeline.now) }

end MonitorRun

end HostWatch
