import HostWatch.Watch.Source

namespace HostWatch

open Number (Single)

structure DemoHost where
  tick : Nat
  counters : Counters
  processes : ProcessList
  deriving DecidableEq, Repr

namespace DemoHost

def totalMemory : Nat := 3882924

def usedMemory : Nat := 1500000

def processNames : List String :=
  ["systemd", "kworker/0:1", "irq/51", "node", "sshd", "pimon-agent"]

def initialProcess (i : Nat) (name : String) : HostProcess where
  pid := UInt32.ofNat (i + 1)
  name := name
  stateCode := "S"
  stateDescription := "sleeping"
  user := "1000"
  group := "1000"
  resident := UInt64.ofNat (80000 + i * 13000)
  virtual := UInt64.ofNat (200000 + i * 17000)
  threads := UInt32.ofNat (1 + i % 6)

def initial : DemoHost where
  tick := 0
  counters := { userNorm := 100, kernel := 200, idle := 3000 }
  processes := processNames.mapIdx initialProcess

def grow (c : Counters) (t : Nat) : Counters :=
  { c with
    userNorm := c.userNorm + UInt64.ofNat (1 + t * 7 % 5)
    kernel := c.kernel + UInt64.ofNat (2 + t * 3 % 5)
    idle := c.idle + UInt64.ofNat (8 + t * 11 % 13) }

def cpu (h : DemoHost) : CpuReport × DemoHost :=
  let t := h.tick + 1
  let c := grow h.counters t
  (⟨some (.ofNat (20 + t * 12 % 68)), c, [⟨0, c⟩]⟩, { h with tick := t, counters := c })

def memory (h : DemoHost) : MemoryReport :=
  let used := min (usedMemory + h.tick * 37000 % 600000) totalMemory
  let available := totalMemory - used
  ⟨UInt64.ofNat totalMemory, UInt64.ofNat available, UInt64.ofNat (available / 2)⟩

def list (h : DemoHost) : ProcessList × DemoHost :=
  let ps := h.processes.mapIdx fun i p =>
    { p with time := p.time + UInt64.ofNat (h.tick % (i + 2)) }
  (ps, { h with processes := ps })

def outside (h : DemoHost) : Single := .ofRatio (43 + h.tick % 7) 2

def kill (pid : UInt32) (h : DemoHost) : Except Error Unit × DemoHost :=
  if h.processes.lists pid then
    (.ok (), { h with processes := h.processes.filter (·.pid ≠ pid) })
  else (.error (.status 404 ("no process " ++ toString pid.toNat)), h)

def answer : (topic : Topic) → DemoHost → topic.Report × DemoHost
  | .cpu, h => h.cpu
  | .memory, h => (h.memory, h)
  | .processes, h => h.list
  | .outside, h => (h.outside, h)

def delay : Topic → Nat
  | .cpu => 150
  | _ => 0

def source : Source DemoHost where
  ask topic _ h := (⟨delay topic, fun h => let (r, h) := answer topic h; (.ok r, h)⟩, h)
  kill pid _ h := (⟨0, kill pid⟩, h)

end DemoHost

end HostWatch
