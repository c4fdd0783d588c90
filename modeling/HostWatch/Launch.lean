import HostWatch.Address.Target
import HostWatch.Console.Arguments
import HostWatch.Console.Screen
import HostWatch.Hosts.File
import HostWatch.Settings

namespace HostWatch

inductive Mode where
  | demo
  | monitor (target : Target)
  | terminal (target : Target)
  deriving DecidableEq, Repr

/-- What has come about: the known hosts and their file, what was printed, and what is left to do
unless the program has ended. -/
structure Launch where
  place : HostsPlace
  hosts : KnownHosts := {}
  screen : Screen := {}
  mode : Option Mode := none
  deriving DecidableEq, Repr

namespace Launch

def fail (doing : Option String) (e : Error) (l : Launch) : Launch :=
  { l with screen := l.screen.fail doing e }

def finish (l : Launch) : Launch := { l with screen := l.screen.finish }

def print (s : String) (l : Launch) : Launch := { l with screen := l.screen.printLine s }

def complain (s : String) (l : Launch) : Launch := { l with screen := l.screen.complainLine s }

def persist (l : Launch) : Launch := { l with place := l.place.keep l.hosts }

def select (i : Nat) (l : Launch) : Launch := { l with hosts := (l.hosts.select? i).getD l.hosts }

def invalidHost (address : String) : Option String := some ("invalid host '" ++ address ++ "'")

def dryRun (index : Nat) (target : Target) (l : Launch) : Launch :=
  let l := l.print ("target " ++ toString index ++ ": " ++ target.text)
  match target.base with
  | .error e => l.fail none e
  | .ok base =>
    let l := l.print ("http: " ++ base.text)
    match target.terminal with
    | .error e => l.fail none e
    | .ok url => (l.print ("terminal: " ++ url.text)).finish

def openHost (a : Arguments) (s : Settings) (index : Nat) (address : String) (l : Launch) :
    Launch :=
  match Target.parse address s.defaultPort with
  | .error e => l.fail (invalidHost address) e
  | .ok target =>
    if a.dryRun then l.dryRun index target
    else { l with mode := some (if a.terminal then .terminal target else .monitor target) }

/-- Chooses a host. One that is given by its address becomes known and selected. -/
def choose (a : Arguments) (s : Settings) (l : Launch) : Launch :=
  match HostRequest.resolve ⟨a.address, a.target⟩ l.hosts with
  | .direct address =>
    match Target.parse address s.defaultPort with
    | .error e => l.fail (invalidHost address) e
    | .ok _ =>
      let (i, hosts) := l.hosts.add address
      openHost a s i address ({ l with hosts }.select i).persist
  | .known i address =>
    openHost a s i address (if l.hosts.selected.toNat = i then l else (l.select i).persist)
  | .outOfRange i =>
    (l.complain
      ("No target " ++ toString i ++ "; " ++ toString l.hosts.addresses.length ++ " known.")).finish
  | .noHost =>
    (l.complain ("No host given and no saved targets. Usage: pimon " ++ usageTail)).finish

def addAndChoose (a : Arguments) (s : Settings) (l : Launch) : Launch :=
  match a.add with
  | none => choose a s l
  | some address =>
    match Target.parse address s.defaultPort with
    | .error e => l.fail (invalidHost address) e
    | .ok _ =>
      let (i, hosts) := l.hosts.add address
      let l := { l with hosts }.persist
      choose a s (l.complain ("target " ++ toString i ++ ": " ++ Text.trim address))

def settings (environment : String → Option String) (a : Arguments) : Settings :=
  let s := Settings.ofEnvironment environment
  match a.interval with
  | some seconds => { s with refreshSeconds := max 1 seconds }
  | none => s

def ofCommandLine (environment : String → Option String) (place : HostsPlace)
    (line : List String) : Launch :=
  match Arguments.parse line with
  | .error p => (complain p.message { place }).finish
  | .ok a =>
    if a.demo then { place, mode := some .demo }
    else addAndChoose a (settings environment a) { place, hosts := place.load }

end Launch

end HostWatch
