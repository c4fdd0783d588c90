import HostWatch.Console.Command
import HostWatch.Console.ProcessTable
import HostWatch.Console.Summary
import HostWatch.Hosts.File
import HostWatch.Watch.Engine

namespace HostWatch

structure Monitor where
  hosts : KnownHosts := {}
  place : HostsPlace
  defaultPort : UInt16
  canSwitch : Bool
  lastLine : String := ""
  deriving DecidableEq, Repr

inductive MonitorAct where
  | print (text : String)
  | complain (text : String)
  | kill (pid : UInt32)
  | watch (target : Target)
  | quit
  deriving DecidableEq, Repr

namespace Monitor

def greeting : String := "commands: kill <pid> | target <n> | procs | quit"

def line? (t : Telemetry) (m : Monitor) : Option String :=
  let line := Summary.line t
  if line = m.lastLine then none else some line

def announce (t : Telemetry) (m : Monitor) : Monitor × List MonitorAct :=
  match m.line? t with
  | some line => ({ m with lastLine := line }, [.print (line ++ "\n")])
  | none => (m, [])

def outcomeLine : KillOutcome → String
  | .accepted pid => "kill " ++ toString pid.toNat ++ ": accepted"
  | .failed pid message => "kill " ++ toString pid.toNat ++ ": failed (" ++ message ++ ")"

/-- Selects the known host at an index and keeps the selection, then reads its address. -/
def switchTo (i : Nat) (m : Monitor) : Except String Target × Monitor :=
  match m.hosts.select? i, m.hosts.address? i with
  | some hosts, some address =>
    ((Target.parse address m.defaultPort).mapError Error.message,
      { m with hosts, place := m.place.keep hosts })
  | _, _ =>
    (.error
      ("no target " ++ toString i ++ "; " ++ toString m.hosts.addresses.length ++ " known"), m)

def obey (t : Telemetry) (c : Command) (m : Monitor) : Monitor × List MonitorAct :=
  match c with
  | .quit => (m, [.quit])
  | .kill pid => (m, [.kill pid])
  | .processes => (m, [.print (ProcessTable.text t)])
  | .target i =>
    if m.canSwitch then
      match m.switchTo i with
      | (.ok target, m) => (m, [.watch target])
      | (.error message, m) => (m, [.complain (message ++ "\n")])
    else (m, [.complain "demo mode has a single target\n"])
  | .unknown line => (m, [.complain ("unknown command: " ++ line ++ "\n")])

def take (t : Telemetry) (line : String) (m : Monitor) : Monitor × List MonitorAct :=
  match Command.ofLine? line with
  | some c => m.obey t c
  | none => (m, [])

end Monitor

end HostWatch
