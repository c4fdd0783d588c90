import HostWatch.Console.Screen
import HostWatch.Console.Terminal
import HostWatch.Shell.Trial

namespace HostWatch

structure TerminalRun where
  network : Network
  isListening : Bool := true
  terminal : Terminal
  session : Session := {}
  links : List (Nat × Trial) := []
  pending : List (Nat × LinkEvent) := []
  taken : Option Nat := none
  received : List Frame := []
  screen : Screen := {}
  hasInput : Bool := true

namespace TerminalRun

def isOver (r : TerminalRun) : Bool := r.screen.ended.isSome

def isListed : Frame → Bool
  | .text _ | .close _ => true
  | _ => false

def collect (epoch : Nat) (acts : List LinkAct) (r : TerminalRun) : TerminalRun :=
  acts.foldl
    (fun r act =>
      match act with
      | .emit e => { r with pending := r.pending ++ [(epoch, e)] }
      | .write f => if isListed f then { r with received := r.received ++ [f] } else r)
    r

def putLink (epoch : Nat) (t : Trial) (r : TerminalRun) : TerminalRun :=
  let (acts, t) := t.readJournal
  let links := r.links.map fun (e, old) => (e, if e = epoch then t else old)
  { r with links }.collect epoch acts

def withLink (epoch : Nat) (change : Trial → Trial) (r : TerminalRun) : TerminalRun :=
  match r.links.lookup epoch with
  | some t => r.putLink epoch (change t)
  | none => r

def carryOut (r : TerminalRun) : SessionAct → TerminalRun
  | .publish => r
  | .open epoch _ =>
    let t : Trial := { network := r.network, isListening := r.isListening }
    ({ r with links := r.links ++ [(epoch, t)] }).withLink epoch Trial.meetObstacle
  | .write epoch text => r.withLink epoch fun t => (t.send text).2
  | .close epoch code reason => r.withLink epoch (Trial.close code reason)

def accepts (r : TerminalRun) (epoch : Nat) : Bool :=
  match r.links.lookup epoch with
  | some t => t.link.accepts
  | none => false

def call (i : Session.Input) (r : TerminalRun) : Session.Answer × TerminalRun :=
  let (answer, session, acts) := r.session.step r.accepts i
  (answer, acts.foldl carryOut { r with session })

def takeIn : Nat → TerminalRun → TerminalRun
  | 0, r => r
  | fuel + 1, r =>
    match r.pending with
    | [] => r
    | (epoch, e) :: rest => takeIn fuel (call (.event epoch e) { r with pending := rest }).2

def subscriber : Nat := 0

def display (r : TerminalRun) : TerminalRun :=
  let (items, session) := r.session.readStatus subscriber
  let lines := items.filterMap fun
    | .entry c => some (r.terminal.statusLine c)
    | .lagged _ => none
  let (terminal, text) := r.terminal.look session.state
  let screen := lines.foldl (fun c s => c.complainLine s) r.screen
  { r with session, terminal, screen := screen.print text }

/-- Lets the session take in all reports, and prints what is new. A link adds a report at most,
when it is closed. -/
def settle (r : TerminalRun) : TerminalRun :=
  let r := takeIn (r.pending.length + r.links.length) r
  if r.isOver then r else r.display

def start (network : Network) (isListening : Bool) (target : Target) (url : Address.Url)
    (screen : Screen) : TerminalRun :=
  let session := Session.subscribeStatus {}
  let r : TerminalRun :=
    { network, isListening, terminal := ⟨target, url, session.epoch + 1, 0⟩, session
      screen := screen.complainLine Terminal.greeting }
  (r.call (.reconnect url)).2.settle

def quit (r : TerminalRun) : TerminalRun :=
  settle { (r.call .close).2 with screen := r.screen.finish }

def obey (r : TerminalRun) : TerminalRequest → TerminalRun
  | .quit => r.quit
  | .call i =>
    let (answer, r) := r.call i
    match Terminal.complaint? answer with
    | some s => settle { r with screen := r.screen.complainLine s }
    | none => r.settle

def typeLine (line : String) (r : TerminalRun) : TerminalRun :=
  if r.isOver || !r.hasInput then r else r.obey (r.terminal.request line)

def type (text : String) (r : TerminalRun) : TerminalRun :=
  (Text.typedLines text.toList).foldl (fun r line => r.typeLine (String.ofList line)) r

def endInput (r : TerminalRun) : TerminalRun := { r with hasInput := false }

def interrupt (r : TerminalRun) : TerminalRun := if r.isOver then r else r.quit

def accept (r : TerminalRun) : Option TerminalRun := do
  let (epoch, t) ← r.links.find? (·.2.isConnecting)
  let t ← t.accept
  return (({ r with taken := some epoch }).putLink epoch t).settle

def onTaken (change : Trial → Option Trial) (r : TerminalRun) : Option TerminalRun := do
  let epoch ← r.taken
  let t ← change (← r.links.lookup epoch)
  return (r.putLink epoch t).settle

def hostReads? (n : Nat) (r : TerminalRun) : Option (List Frame × TerminalRun) :=
  if n ≤ r.received.length then
    some (r.received.take n, { r with received := r.received.drop n })
  else none

end TerminalRun

end HostWatch
