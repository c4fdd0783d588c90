import HostWatch.Report.Size
import HostWatch.Text.Blank
import HostWatch.Watch.Telemetry

namespace HostWatch.ProcessTable

open Text (padLeft padRight truncateMiddle)

def columns (name state user resident virtual threads : String) : String :=
  String.intercalate " "
    [padRight 20 name, padRight 12 state, padRight 8 user, padLeft 9 resident, padLeft 9 virtual,
      padLeft 4 threads]

def heading : String := padLeft 7 "PID" ++ " " ++ columns "NAME" "STATE" "USER" "RSS" "VIRT" "THR"

/-- The text of a size given in units of 1024 bytes; one past the greatest counter shows as that. -/
def size (units : UInt64) : String := Size.text (min (units.toNat * 1024) Number.maxWord64)

def row (killing : List UInt32) (p : HostProcess) : String :=
  padLeft 6 (toString p.pid.toNat) ++ (if p.pid ∈ killing then "*" else " ") ++ " " ++
    columns (truncateMiddle p.name 20) (truncateMiddle p.stateDescription 12)
      (truncateMiddle p.user 8) (size p.resident) (size p.virtual) (toString p.threads.toNat)

def lines (t : Telemetry) : List String :=
  match t.processes.value? with
  | some ps => heading :: ps.map (row t.killing)
  | none => ["processes unavailable"]

def text (t : Telemetry) : String := String.join ((lines t).map (· ++ "\n"))

end HostWatch.ProcessTable
