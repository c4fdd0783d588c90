import HostWatch.Address.Target
import HostWatch.Error
import HostWatch.Report.Share
import HostWatch.Watch.Facet
import HostWatch.Watch.Topic

namespace HostWatch

open Number (Single)

/-- What is known about a host; the processes being killed stand in ascending order. -/
structure Telemetry where
  generation : Nat := 0
  target : Option Target := none
  cpu : Facet CpuReport := .loading
  memory : Facet MemoryReport := .loading
  processes : Facet ProcessList := .loading
  outside : Facet Single := .loading
  killing : List UInt32 := []
  cpuPercent : Option Single := none
  cpuTemperature : Option Single := none
  outsideTemperature : Option Single := none
  memoryPercent : Option Single := none
  memoryUse : Option (Single × Single) := none
  lastCounters : Option Counters := none
  deriving DecidableEq, Repr, Inhabited

def insertAscending (n : UInt32) : List UInt32 → List UInt32
  | [] => [n]
  | m :: ms =>
    if n < m then n :: m :: ms
    else if n = m then m :: ms
    else m :: insertAscending n ms

namespace Telemetry

def fresh (generation : Nat) (target : Target) : Telemetry := { generation, target := some target }

def isLoading (t : Telemetry) : Bool :=
  t.cpu.isLoading || t.memory.isLoading || t.processes.isLoading || t.outside.isLoading

def isFailed (t : Telemetry) : Bool :=
  t.cpu.isFailed || t.memory.isFailed || t.processes.isFailed || t.outside.isFailed

def failure (e : Error) : Facet α := .failed ("Error: " ++ e.message)

def await (t : Telemetry) : Topic → Telemetry
  | .cpu => { t with cpu := .loading }
  | .memory => { t with memory := .loading }
  | .processes => { t with processes := .loading }
  | .outside => { t with outside := .loading }

def takeCpu (t : Telemetry) : Except Error CpuReport → Telemetry
  | .ok r =>
    { t with
      cpuPercent := some (r.full.load t.lastCounters)
      cpuTemperature := r.temperature
      lastCounters := some r.full
      cpu := .success r }
  | .error e => { t with cpu := failure e }

def withMemory (r : MemoryReport) : Except Error MemoryReport :=
  if r.total = 0 then .error (.malformed "memory total is zero") else .ok r

def takeMemory (t : Telemetry) (reply : Except Error MemoryReport) : Telemetry :=
  match reply.bind withMemory with
  | .ok r =>
    { t with
      memoryPercent := some r.usedShare.percent
      memoryUse := some r.usedAndTotal
      memory := .success r }
  | .error e => { t with memory := failure e }

def takeProcesses (t : Telemetry) : Except Error ProcessList → Telemetry
  | .ok ps => { t with killing := t.killing.filter ps.lists, processes := .success ps }
  | .error e => { t with processes := failure e }

def takeOutside (t : Telemetry) : Except Error Single → Telemetry
  | .ok v => { t with outsideTemperature := some v, outside := .success v }
  | .error e => { t with outside := failure e }

def take (t : Telemetry) : (topic : Topic) → Except Error topic.Report → Telemetry
  | .cpu, r => t.takeCpu r
  | .memory, r => t.takeMemory r
  | .processes, r => t.takeProcesses r
  | .outside, r => t.takeOutside r

def takeKill (t : Telemetry) (pid : UInt32) : Telemetry :=
  { t with killing := insertAscending pid t.killing }

end Telemetry

end HostWatch
