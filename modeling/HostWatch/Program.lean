import HostWatch.Console.MonitorRun
import HostWatch.Console.TerminalRun
import HostWatch.Launch
import HostWatch.Watch.Demo
import HostWatch.Watch.Network

namespace HostWatch

/-- What the program finds around it: hosts that it can watch, and shells behind the same network.
-/
structure World where
  network : Network
  hosts : HostsAt := []
  hasShell : Bool := true

/-- The program as it runs, or as it has ended. -/
inductive Program where
  | ended (place : HostsPlace) (screen : Screen)
  | demo (run : MonitorRun DemoHost)
  | monitor (run : MonitorRun HostsAt)
  | terminal (place : HostsPlace) (run : TerminalRun)

namespace Program

def interval (s : Settings) : Interval := .ofMillis (s.refreshSeconds * 1000)

def demoTarget : Target := ⟨"demo.local", 0⟩

def ofLaunch (w : World) (s : Settings) (l : Launch) : Program :=
  match l.mode with
  | none => .ended l.place l.screen
  | some .demo =>
    .demo <| .start ⟨{}, l.place, s.defaultPort, false, ""⟩
      { source := DemoHost.source, interval := interval s, host := .initial } l.screen demoTarget
  | some (.monitor target) =>
    .monitor <| .start ⟨l.hosts, l.place, s.defaultPort, true, ""⟩
      { source := w.network.source, interval := interval s, host := w.hosts } l.screen target
  | some (.terminal target) =>
    match target.terminal with
    | .ok url => .terminal l.place (.start w.network w.hasShell target url l.screen)
    | .error e => .ended l.place (l.screen.fail none e)

def ofCommandLine (w : World) (environment : String → Option String) (place : HostsPlace)
    (line : List String) : Program :=
  let settings :=
    match Arguments.parse line with
    | .ok a => Launch.settings environment a
    | .error _ => Settings.ofEnvironment environment
  ofLaunch w settings (Launch.ofCommandLine environment place line)

def screen : Program → Screen
  | ended _ screen => screen
  | demo r => r.screen
  | monitor r => r.screen
  | terminal _ r => r.screen

def withScreen (screen : Screen) : Program → Program
  | ended place _ => ended place screen
  | demo r => demo { r with screen }
  | monitor r => monitor { r with screen }
  | terminal place r => terminal place { r with screen }

def place : Program → HostsPlace
  | ended place _ => place
  | demo r => r.monitor.place
  | monitor r => r.monitor.place
  | terminal place _ => place

def type (text : String) : Program → Program
  | ended place screen => ended place screen
  | demo r => demo (r.type text)
  | monitor r => monitor (r.type text)
  | terminal place r => terminal place (r.type text)

def endInput : Program → Program
  | ended place screen => ended place screen
  | demo r => demo r.endInput
  | monitor r => monitor r.endInput
  | terminal place r => terminal place r.endInput

def interrupt : Program → Program
  | ended place screen => ended place screen
  | demo r => demo r.interrupt
  | monitor r => monitor r.interrupt
  | terminal place r => terminal place r.interrupt

/-- Lets time pass until a condition holds of the screen, a number of milliseconds at most. -/
def wait (p : Screen → Bool) (patience : Nat) : Program → Program
  | ended place screen => ended place screen
  | demo r => demo (r.wait p patience)
  | monitor r => monitor (r.wait p patience)
  | terminal place r => terminal place r

def pass (millis : Nat) : Program → Program
  | ended place screen => ended place screen
  | demo r => demo (r.pass millis)
  | monitor r => monitor (r.pass millis)
  | terminal place r => terminal place r

def accept : Program → Option Program
  | terminal place r => r.accept.map (terminal place)
  | _ => none

/-- The host of the shell does something on the connection that it took last. -/
def onShell (change : Trial → Option Trial) : Program → Option Program
  | terminal place r => (r.onTaken change).map (terminal place)
  | _ => none

def hostReads? (n : Nat) : Program → Option (List Frame × Program)
  | terminal place r => (r.hostReads? n).map fun p => (p.1, terminal place p.2)
  | p => if n = 0 then some ([], p) else none

/-- Lets time pass until something can be read from the screen, and reads it. -/
def readWithin? (patience : Nat) (read : Screen → Option (α × Screen)) (p : Program) :
    Option (α × Program) :=
  let p := p.wait (fun c => (read c).isSome) patience
  (read p.screen).map fun r => (r.1, p.withScreen r.2)

end Program

end HostWatch
