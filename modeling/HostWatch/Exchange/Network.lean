import HostWatch.Exchange.Reply

namespace HostWatch

/-- Whether there is a way to the hosts at all. -/
inductive Network where
  | reachable
  | unreachable
  deriving DecidableEq, Repr

/-- What a host does when a request comes. It may announce another length than that of the body. -/
inductive HostConduct where
  | answers (status : Nat) (body : List UInt8) (announced : Option Nat)
  | closes
  | hangs
  | absent
  deriving DecidableEq, Repr

namespace Network

def isBodiless (status : Nat) : Bool := status = 204 || status = 304

/-- An answer as it arrives: what is sent past the announced length is not read. -/
def arrived (status : Nat) (body : List UInt8) (announced : Option Nat) : Reply :=
  if isBodiless status then .answer status [] true
  else
    match announced with
    | none => .answer status body true
    | some n => .answer status (body.take n) (n ≤ body.length)

def carry (n : Network) (c : HostConduct) : Bool × Reply :=
  match n, c with
  | .unreachable, _ => (false, .brokenOff false)
  | .reachable, .answers status body announced => (true, arrived status body announced)
  | .reachable, .closes => (true, .brokenOff false)
  | .reachable, .hangs => (true, .brokenOff true)
  | .reachable, .absent => (false, .brokenOff false)

def obstacle? (n : Network) (isListening : Bool) : Option String :=
  match n with
  | .unreachable => some "IO error: Network is unreachable (os error 101)"
  | .reachable => if isListening then none else some "IO error: Connection refused (os error 111)"

end Network

end HostWatch
