import HostWatch.Address.Url
import HostWatch.Shell.Event
import HostWatch.Shell.Feed
import HostWatch.Text.Blank
import HostWatch.Text.Plain
import HostWatch.Watch.Facet

namespace HostWatch

open Address (Url)

inductive Connection where
  | connecting
  | opened
  | closed (code : UInt16) (reason : String)
  | failed (text : String)
  deriving DecidableEq, Repr

structure ShellState where
  epoch : Nat := 0
  connection : Connection := .connecting
  transcript : String := ""
  error : Option String := none
  awaiting : Bool := false
  deriving DecidableEq, Repr

namespace ShellState

/-- The output for display: an error first, then whether an answer is awaited. -/
def output (s : ShellState) : Facet String :=
  match s.error with
  | some e => .failed e
  | none => if s.awaiting then .loading else .success s.transcript

end ShellState

/-- A session; the links it has replaced are retired and may still report. -/
structure Session where
  epoch : Nat := 0
  state : ShellState := {}
  current : Option Nat := none
  retired : List Nat := []
  statusFeeds : List (LimitedFeed Connection) := []
  messageFeeds : List (LosslessFeed String) := []
  deriving DecidableEq, Repr

/-- What a session does outside of itself. -/
inductive SessionAct where
  | publish
  | open (epoch : Nat) (url : Url)
  | write (epoch : Nat) (text : String)
  | close (epoch : Nat) (code : UInt16) (reason : String)
  deriving DecidableEq, Repr

inductive Submission where
  | sent
  | ignored
  | notConnected
  deriving DecidableEq, Repr

namespace Session

def normalClosure : UInt16 := 1000

def closeReason : String := "Normal closure"

def statusLimit : Nat := 16

def interruptText : String := "\x03"

def backspaceText : String := "\x7f"

abbrev Outcome := Session × List SessionAct

def announce (c : Connection) (s : Session) : Session :=
  { s with statusFeeds := s.statusFeeds.map (·.push statusLimit c) }

def forward (raw : String) (s : Session) : Session :=
  { s with messageFeeds := s.messageFeeds.map (·.push raw) }

def write (change : ShellState → ShellState) (s : Session) : Session :=
  { s with state := change s.state }

def reconnect (url : Url) (s : Session) : Outcome :=
  let epoch := s.epoch + 1
  let replaced : List SessionAct :=
    match s.current with
    | some old => [.close old normalClosure "reconnecting"]
    | none => []
  (announce .connecting
    { s with
      epoch
      state := { epoch }
      current := some epoch
      retired := s.retired ++ s.current.toList },
    .publish :: replaced ++ [.open epoch url])

def writable (s : Session) : Option Nat :=
  s.current.filter fun e => s.state.epoch = e && s.state.connection = .opened

def send (accepts : Nat → Bool) (text : String) (s : Session) : Bool × List SessionAct :=
  match s.writable with
  | some e => if accepts e then (true, [.write e text]) else (false, [])
  | none => (false, [])

def submit (accepts : Nat → Bool) (line : String) (s : Session) : Submission × Outcome :=
  let line := Text.trim line
  if line.isEmpty then (.ignored, s, [])
  else if s.state.epoch = s.epoch ∧ s.state.connection = .opened then
    -- the mark is made before the line is written, and taken back if that fails
    let marked := s.write ({ · with awaiting := true })
    match marked.send accepts (line ++ "\n") with
    | (true, acts) => (.sent, marked, .publish :: acts)
    | (false, acts) =>
      (.notConnected, marked.write ({ · with awaiting := false }), .publish :: acts ++ [.publish])
  else (.notConnected, s, [])

def close (s : Session) : Outcome :=
  let epoch := s.epoch + 1
  let closed := Connection.closed normalClosure closeReason
  match s.current with
  -- without a link only the epoch changes, and nobody is told
  | none => ({ s with epoch, state.epoch := epoch }, [])
  | some old =>
    (announce closed
      { s with
        epoch
        current := none
        state := { s.state with epoch, connection := closed, awaiting := false } },
      [.publish, .close old normalClosure closeReason])

def subscribeStatus (s : Session) : Session := { s with statusFeeds := s.statusFeeds ++ [{}] }

def subscribeMessages (s : Session) : Session := { s with messageFeeds := s.messageFeeds ++ [{}] }

def readStatus (i : Nat) (s : Session) : List (LimitedFeed.Item Connection) × Session :=
  match s.statusFeeds[i]? with
  | some f => (f.drain.1, { s with statusFeeds := s.statusFeeds.set i f.drain.2 })
  | none => ([], s)

def readMessages (i : Nat) (s : Session) : List String × Session :=
  match s.messageFeeds[i]? with
  | some f => (f.drain.1, { s with messageFeeds := s.messageFeeds.set i f.drain.2 })
  | none => ([], s)

def leaveMessages (i : Nat) (s : Session) : Session :=
  { s with messageFeeds := s.messageFeeds.modify i (·.leave) }

def dropCurrent (epoch : Nat) (s : Session) : Session :=
  { s with current := s.current.filter (· ≠ epoch) }

def handleCurrent (epoch : Nat) (s : Session) : LinkEvent → Outcome
  | .opened =>
    if s.state.epoch = epoch then
      (announce .opened (s.write ({ · with connection := .opened, error := none })), [.publish])
    else (s, [])
  | .message raw =>
    if s.state.epoch = epoch then
      let clean := Text.plain raw
      if clean.isEmpty then (s.forward raw, [])
      else
        (forward raw
          (s.write fun t => { t with transcript := t.transcript ++ clean, awaiting := false }),
          [.publish])
    else (s, [])
  | .closed code reason =>
    if s.state.epoch = epoch then
      let c := Connection.closed code reason
      (announce c
        (dropCurrent epoch (s.write ({ · with connection := c, awaiting := false }))), [.publish])
    else (s, [])
  | .failed text =>
    if s.state.epoch = epoch then
      let c := Connection.failed text
      (announce c
        (dropCurrent epoch
          (s.write ({ · with connection := c, error := some text, awaiting := false }))),
        [.publish])
    else (s, [])

/-- Takes in what a link of another epoch reports: one that opens only now is closed, and one that
ends is forgotten. -/
def handleStale (epoch : Nat) (s : Session) : LinkEvent → Outcome
  | .opened =>
    if epoch ∈ s.retired then
      ({ s with retired := s.retired.filter (· ≠ epoch) },
        [.close epoch normalClosure "superseded"])
    else (s, [])
  | .closed _ _ | .failed _ => ({ s with retired := s.retired.filter (· ≠ epoch) }, [])
  | .message _ => (s, [])

def handle (epoch : Nat) (e : LinkEvent) (s : Session) : Outcome :=
  if s.epoch = epoch then handleCurrent epoch s e else handleStale epoch s e

inductive Input where
  | reconnect (url : Url)
  | send (text : String)
  | submit (line : String)
  | interrupt
  | backspace
  | close
  | subscribeStatus
  | subscribeMessages
  | readStatus (subscriber : Nat)
  | readMessages (subscriber : Nat)
  | leaveMessages (subscriber : Nat)
  | event (epoch : Nat) (event : LinkEvent)

inductive Answer where
  | none
  | written (done : Bool)
  | submitted (s : Submission)
  | statuses (items : List (LimitedFeed.Item Connection))
  | messages (texts : List String)
  deriving DecidableEq, Repr

def step (accepts : Nat → Bool) (s : Session) : Input → Answer × Outcome
  | .reconnect url => (.none, s.reconnect url)
  | .send text => let (b, acts) := s.send accepts text; (.written b, s, acts)
  | .submit line => let (r, o) := s.submit accepts line; (.submitted r, o)
  | .interrupt => let (b, acts) := s.send accepts interruptText; (.written b, s, acts)
  | .backspace => let (b, acts) := s.send accepts backspaceText; (.written b, s, acts)
  | .close => (.none, s.close)
  | .subscribeStatus => (.none, s.subscribeStatus, [])
  | .subscribeMessages => (.none, s.subscribeMessages, [])
  | .readStatus i => let (r, s) := s.readStatus i; (.statuses r, s, [])
  | .readMessages i => let (r, s) := s.readMessages i; (.messages r, s, [])
  | .leaveMessages i => (.none, s.leaveMessages i, [])
  | .event epoch e => (.none, s.handle epoch e)

end Session

end HostWatch
