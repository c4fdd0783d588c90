import HostWatch.Watch.Engine
import HostWatch.Watch.Source

namespace HostWatch

/-- Milliseconds between rounds, at least one. -/
structure Interval where
  millis : Nat
  pos : 0 < millis

def Interval.ofMillis (n : Nat) : Interval := ⟨max 1 n, by omega⟩

/-- Something planned; it belongs to the loop of a generation or to none. -/
structure Job (σ : Type) where
  due : Nat
  order : Nat
  loop : Option Nat
  event : σ → Event × σ

structure Entry where
  time : Nat
  act : Act
  deriving DecidableEq, Repr

/-- An engine and the host it watches on one line of time; the journal has the last act first. -/
structure Timeline (σ : Type) where
  source : Source σ
  interval : Interval
  host : σ
  now : Nat := 0
  engine : Engine := {}
  jobs : List (Job σ) := []
  planned : Nat := 0
  journal : List Entry := []

namespace Timeline

variable {σ : Type}

def plan (delay : Nat) (loop : Option Nat) (event : σ → Event × σ) (t : Timeline σ) :
    Timeline σ :=
  { t with
    jobs := t.jobs ++ [⟨t.now + delay, t.planned, loop, event⟩]
    planned := t.planned + 1 }

def always (event : Event) (s : σ) : Event × σ := (event, s)

def answered (call : Call σ α) (event : Except Error α → Event) (s : σ) : Event × σ :=
  let (r, s) := call.answer s
  (event r, s)

def carryOut (t : Timeline σ) (act : Act) : Timeline σ :=
  let t := { t with journal := ⟨t.now, act⟩ :: t.journal }
  match act with
  | .publish | .report _ => t
  | .startLoop generation => t.plan 0 (some generation) (always (.loopBegins generation))
  | .dropLoop generation begun =>
    let t := { t with jobs := t.jobs.filter (·.loop ≠ some generation) }
    if begun then t.plan 0 none (always .loopCleared) else t
  | .fetch generation topic base =>
    let (call, host) := t.source.ask topic base t.host
    { t with host }.plan call.delay (some generation)
      (answered call (.replied generation topic))
  | .rest generation =>
    t.plan t.interval.millis (some generation) (always (.rested generation))
  | .startKill pid aim => t.plan 0 none (always (.killBegins pid aim))
  | .requestKill pid aim =>
    let (call, host) := t.source.kill pid aim.base t.host
    { t with host }.plan call.delay none (answered call (.killReplied pid aim.generation))

def follow (t : Timeline σ) (o : Engine.Outcome) : Timeline σ :=
  o.2.foldl carryOut { t with engine := o.1 }

def isBefore (a b : Job σ) : Bool := a.due < b.due || (a.due = b.due && a.order < b.order)

def firstDue (limit : Nat) : List (Job σ) → Option (Job σ × List (Job σ))
  | [] => none
  | j :: js =>
    match firstDue limit js with
    | some (k, rest) => if isBefore j k then some (j, js) else some (k, j :: rest)
    | none => if j.due ≤ limit then some (j, js) else none

def perform (t : Timeline σ) (j : Job σ) (others : List (Job σ)) : Timeline σ :=
  let (event, host) := j.event t.host
  let t := { t with now := max t.now j.due, host, jobs := others }
  t.follow (t.engine.step event)

/-- Lets everything happen that is due by a time, the first argument bounding the number of events.
-/
def runThrough : Nat → Nat → Timeline σ → Timeline σ
  | 0, _, t => t
  | fuel + 1, limit, t =>
    match firstDue limit t.jobs with
    | some (j, others) => runThrough fuel limit (t.perform j others)
    | none => t

/-- A bound on the number of events up to a time: a job leads to one more at most, and the loop has
two rounds and then one in every interval. -/
def budget (limit : Nat) (t : Timeline σ) : Nat :=
  2 * t.jobs.length + 5 * (limit - t.now) + 10

def settle (t : Timeline σ) : Timeline σ := runThrough (t.budget t.now) t.now t

/-- Moves on in time: what is left from the present instant first, then everything due on the way
and at its end. -/
def advance (millis : Nat) (t : Timeline σ) : Timeline σ :=
  let t := t.settle
  let limit := t.now + millis
  { runThrough (t.budget limit) limit t with now := limit }

def nextDue? (t : Timeline σ) : Option Nat := (t.jobs.map (·.due)).min?

def start (target : Target) (t : Timeline σ) : Except Error (Timeline σ) := do
  return t.follow (← t.engine.start target)

def stop (t : Timeline σ) : Timeline σ := t.follow t.engine.stop

def kill (pid : UInt32) (t : Timeline σ) : Timeline σ := t.follow (t.engine.kill pid)

/-- What was done since the journal was last read, and the timeline with an empty journal. -/
def readJournal (t : Timeline σ) : List Entry × Timeline σ :=
  (t.journal.reverse, { t with journal := [] })

end Timeline

end HostWatch
