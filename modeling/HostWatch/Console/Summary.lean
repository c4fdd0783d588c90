import HostWatch.Number.Decimal
import HostWatch.Watch.Telemetry

namespace HostWatch.Summary

open Number (Single)

def places (n : Nat) (x : Single) : String := x.value.fixed n

def cpuPart (t : Telemetry) : String :=
  match t.cpuPercent, t.cpuTemperature with
  | some p, some c => "cpu " ++ places 1 p ++ "% " ++ places 1 c ++ "°C"
  | some p, none => "cpu " ++ places 1 p ++ "%"
  | none, _ => "cpu --"

def memoryPart (t : Telemetry) : String :=
  match t.memoryPercent, t.memoryUse with
  | some p, some (used, total) =>
    "ram " ++ places 1 p ++ "% (" ++ places 2 used ++ "/" ++ places 2 total ++ " GB)"
  | _, _ => "ram --"

def outsidePart (t : Telemetry) : String :=
  match t.outsideTemperature with
  | some c => "ext " ++ places 1 c ++ "°C"
  | none => "ext --"

def processesPart (t : Telemetry) : String :=
  match t.processes.value? with
  | some ps => "procs " ++ toString ps.length
  | none => "procs --"

def note? (topic : Topic) : Facet α → Option String
  | .loading => some (topic.name ++ ": loading")
  | .failed message => some (topic.name ++ ": " ++ message)
  | .success _ => none

def notes (t : Telemetry) : List String :=
  [note? .cpu t.cpu, note? .memory t.memory, note? .processes t.processes,
    note? .outside t.outside].filterMap id

def line (t : Telemetry) : String :=
  let target := (t.target.map Target.text).getD "-"
  let figures := String.intercalate " | " [cpuPart t, memoryPart t, outsidePart t, processesPart t]
  let notes := notes t
  target ++ "  " ++ figures ++
    (if notes.isEmpty then "" else "  [" ++ String.intercalate "; " notes ++ "]")

end HostWatch.Summary
