import HostWatch.Exchange.Network
import HostWatch.Exchange.Phrase
import HostWatch.Shell.Wire

namespace HostWatch

/-- A link and its host; the journal has the last act first. -/
structure Trial where
  network : Network
  isListening : Bool := true
  link : Link := {}
  wire : Wire := {}
  journal : List LinkAct := []
  deriving DecidableEq, Repr

namespace Trial

def happen (i : Link.Input) (t : Trial) : Bool × Trial :=
  let (done, link, acts) := t.link.step i
  (done, { t with link, journal := acts.reverse ++ t.journal })

def after (i : Link.Input) (t : Trial) : Trial := (t.happen i).2

def isConnecting (t : Trial) : Bool := t.link.phase = .connecting

def isOpen (t : Trial) : Bool := t.link.phase ≠ .connecting && t.link.phase ≠ .ended

/-- Lets the link find out that the connection cannot be made, if that is so. -/
def meetObstacle (t : Trial) : Trial :=
  match t.network.obstacle? t.isListening with
  | some m => t.after (.connected (.error m))
  | none => t

def send (text : String) (t : Trial) : Bool × Trial :=
  let (accepted, t) := t.happen (.send text)
  (accepted, t.after (.obey (.ok ())))

/-- Asks for a close through the handle. A connection that cannot be made has failed by then. -/
def close (code : UInt16) (reason : String) (t : Trial) : Trial :=
  (t.meetObstacle.after (.close code reason)).after (.obey (.ok ()))

/-- Gives up the handle, which a task that is still connecting notices first. -/
def drop (t : Trial) : Trial := (t.after .drop).after (.obey (.ok ()))

def waitEnd (t : Trial) : Option Trial :=
  let t := t.meetObstacle
  if t.link.phase = .ended then some t else none

def answerHandshake (result : Except String Unit) (t : Trial) : Option Trial :=
  if t.isConnecting && (t.network.obstacle? t.isListening).isNone then
    some (t.after (.connected result))
  else none

def accept (t : Trial) : Option Trial := t.answerHandshake (.ok ())

def reject (status : Nat) (t : Trial) : Option Trial :=
  t.answerHandshake (.error ("HTTP error: " ++ Phrase.text status))

def arrive (a : Arrival) (t : Trial) : Option Trial :=
  if t.isOpen then some (t.after (.receive a)) else none

def hostCloses (cause : Option (UInt16 × String)) (t : Trial) : Option Trial :=
  t.arrive (.frame (.close (cause.map fun c => Wire.taken c.1 c.2)))

def hangUp (t : Trial) : Option Trial := t.arrive (.fault WireFault.reset.message)

def arriveBytes (bs : List UInt8) (t : Trial) : Option Trial :=
  if t.isOpen then
    let (arrivals, wire) := t.wire.push bs
    some (arrivals.foldl (fun t a => t.after (.receive a)) { t with wire })
  else none

def awaitPings (n : Nat) (t : Trial) : Option Trial :=
  match n with
  | 0 => some t
  | n => if t.isOpen then some (n.repeat (after (.ping (.ok ()))) t) else none

/-- What the link did since the journal was last read, and the trial with an empty journal. -/
def readJournal (t : Trial) : List LinkAct × Trial := (t.journal.reverse, { t with journal := [] })

end Trial

end HostWatch
