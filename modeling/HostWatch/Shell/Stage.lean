import HostWatch.Shell.Session

namespace HostWatch

/-- A session among scripted links. Reports wait in their order; the journal has the last act first.
-/
structure Stage where
  session : Session := {}
  echo : Bool
  reportsClose : Bool
  links : List Nat := []
  refusing : List Nat := []
  pending : List (Nat × LinkEvent) := []
  journal : List SessionAct := []

namespace Stage

def react (g : Stage) (act : SessionAct) : Stage :=
  let g := { g with journal := act :: g.journal }
  match act with
  | .publish => g
  | .open epoch _ => { g with links := g.links ++ [epoch] }
  | .write epoch text =>
    if g.echo then
      { g with pending := g.pending ++ [(epoch, .message (Text.trim text ++ ": ok\r\n"))] }
    else g
  | .close epoch code reason =>
    if g.reportsClose then { g with pending := g.pending ++ [(epoch, .closed code reason)] } else g

def call (input : Session.Input) (g : Stage) : Session.Answer × Stage :=
  let (answer, s, acts) := g.session.step (fun e => !g.refusing.contains e) input
  (answer, acts.foldl react { g with session := s })

def epoch? (g : Stage) (link : Nat) : Option Nat := g.links[link]?

def number (g : Stage) (epoch : Nat) : Nat := g.links.idxOf epoch

def emit (epoch : Nat) (e : LinkEvent) (g : Stage) : Stage :=
  { g with pending := g.pending ++ [(epoch, e)] }

def setAccepts (epoch : Nat) (on : Bool) (g : Stage) : Stage :=
  { g with refusing := if on then g.refusing.filter (· ≠ epoch) else epoch :: g.refusing }

def takeIn : Nat → Stage → Stage
  | 0, g => g
  | fuel + 1, g =>
    match g.pending with
    | [] => g
    | (epoch, e) :: rest => takeIn fuel (call (.event epoch e) { g with pending := rest }).2

/-- Lets the session take in all reports. Only a retired link that is closed adds one, and it is
retired no more. -/
def settle (g : Stage) : Stage := takeIn (g.pending.length + g.session.retired.length) g

/-- What the session did since the journal was last read, and the stage with an empty journal. -/
def readJournal (g : Stage) : List SessionAct × Stage :=
  (g.journal.reverse, { g with journal := [] })

end Stage

end HostWatch
