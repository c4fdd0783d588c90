import HostWatch.Shell.Event
import HostWatch.Text.Utf8

namespace HostWatch

/-- What goes over a connection that is made. A close may come with a code and a reason. -/
inductive Frame where
  | text (text : String)
  | binary (bytes : List UInt8)
  | ping
  | pong
  | close (cause : Option (UInt16 × String))
  deriving DecidableEq, Repr

inductive Arrival where
  | frame (frame : Frame)
  | fault (message : String)
  | ended
  deriving DecidableEq, Repr

inductive LinkCommand where
  | text (text : String)
  | close (code : UInt16) (reason : String)
  deriving DecidableEq, Repr

/-- Where the task is. While the connection is open it holds back bytes that begin a character. -/
inductive LinkPhase where
  | connecting
  | opened (decoder : Text.Utf8.Stream)
  | ended
  deriving DecidableEq, Repr

structure Link where
  phase : LinkPhase := .connecting
  accepts : Bool := false
  isHeld : Bool := true
  queue : List LinkCommand := []
  deriving DecidableEq, Repr

inductive LinkAct where
  | emit (event : LinkEvent)
  | write (frame : Frame)
  deriving DecidableEq, Repr

namespace Link

def noCode : UInt16 := 1005

def abnormalClosure : UInt16 := 1006

abbrev Outcome := Link × List LinkAct

def decoded (text : List Char) : List LinkAct :=
  if text.isEmpty then [] else [.emit (.message (String.ofList text))]

/-- The message that the bytes held back make when no more bytes will complete them. -/
def flushed (decoder : Text.Utf8.Stream) : List LinkAct := decoded decoder.flush.1

def finished (l : Link) : Link := { l with phase := .ended, accepts := false, queue := [] }

def finish (acts : List LinkAct) (e : LinkEvent) (l : Link) : Outcome :=
  (l.finished, acts ++ [.emit e])

def send (text : String) (l : Link) : Bool × Link :=
  if l.isHeld && l.accepts then (true, { l with queue := l.queue ++ [.text text] }) else (false, l)

def close (code : UInt16) (reason : String) (l : Link) : Link :=
  if l.isHeld ∧ l.phase ≠ .ended then
    { l with accepts := false, queue := l.queue ++ [.close code reason] }
  else l

def drop (l : Link) : Link := { l with isHeld := false }

def connected (result : Except String Unit) (l : Link) : Outcome :=
  match l.phase, result with
  | .connecting, .ok () => ({ l with phase := .opened {}, accepts := true }, [.emit .opened])
  | .connecting, .error m => l.finish [] (.failed m)
  | _, _ => (l, [])

def receive (a : Arrival) (l : Link) : Outcome :=
  match l.phase with
  | .opened decoder =>
    match a with
    | .frame (.text text) =>
      ({ l with phase := .opened decoder.flush.2 }, flushed decoder ++ [.emit (.message text)])
    | .frame (.binary bytes) =>
      let (text, decoder) := decoder.push bytes
      ({ l with phase := .opened decoder }, decoded text)
    | .frame .ping | .frame .pong => (l, [])
    | .frame (.close none) => l.finish (flushed decoder) (.closed noCode "")
    | .frame (.close (some (code, reason))) => l.finish (flushed decoder) (.closed code reason)
    | .fault m => l.finish (flushed decoder) (.failed m)
    | .ended => l.finish (flushed decoder) (.closed abnormalClosure "connection dropped")
  | _ => (l, [])

def written (result : Except String Unit) (f : Frame) : List LinkAct :=
  match result with
  | .ok () => [.write f]
  | .error _ => []

/-- Carries out the next command, or notes that there will be none; the result is that of writing
its frame. While the connection is being made text is passed over and a close gives it up. -/
def obey (result : Except String Unit) (l : Link) : Outcome :=
  match l.phase, l.queue with
  | .connecting, .text _ :: queue => ({ l with queue }, [])
  | .connecting, .close code reason :: _ => l.finish [] (.closed code reason)
  | .connecting, [] => if l.isHeld then (l, []) else (l.finished, [])
  | .opened _, .text text :: queue =>
    match result with
    | .ok () => ({ l with queue }, [.write (.text text)])
    | .error m => l.finish [] (.failed m)
  | .opened decoder, .close code reason :: _ =>
    l.finish (flushed decoder ++ written result (.close (some (code, reason))))
      (.closed code reason)
  | .opened _, [] => if l.isHeld then (l, []) else (l.finished, written result (.close none))
  | .ended, _ => (l, [])

def ping (result : Except String Unit) (l : Link) : Outcome :=
  match l.phase, result with
  | .opened _, .ok () => (l, [.write .ping])
  | .opened _, .error m => l.finish [] (.failed m)
  | _, _ => (l, [])

inductive Input where
  | send (text : String)
  | close (code : UInt16) (reason : String)
  | drop
  | connected (result : Except String Unit)
  | receive (arrival : Arrival)
  | obey (result : Except String Unit)
  | ping (result : Except String Unit)

def step (l : Link) : Input → Bool × Outcome
  | .send text => let (b, l) := l.send text; (b, l, [])
  | .close code reason => (true, l.close code reason, [])
  | .drop => (true, l.drop, [])
  | .connected result => (true, l.connected result)
  | .receive a => (true, l.receive a)
  | .obey result => (true, l.obey result)
  | .ping result => (true, l.ping result)

end Link

end HostWatch
