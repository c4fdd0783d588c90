import HostWatch.Number.Binary

namespace HostWatch

open Number (Single)

/-- Processor time since the host started, in clock ticks. -/
structure Counters where
  userNorm : UInt64 := 0
  userNice : UInt64 := 0
  kernel : UInt64 := 0
  idle : UInt64 := 0
  ioWait : UInt64 := 0
  irq : UInt64 := 0
  softIrq : UInt64 := 0
  deriving DecidableEq, Repr, Inhabited

namespace Counters

def sum (c : Counters) : Nat :=
  c.userNorm.toNat + c.userNice.toNat + c.kernel.toNat + c.idle.toNat + c.ioWait.toNat +
    c.irq.toNat + c.softIrq.toNat

/-- The sum of all counters, or the greatest counter value where the sum is past it. -/
def total (c : Counters) : Nat := min c.sum (UInt64.size - 1)

theorem idle_le_total (c : Counters) : c.idle.toNat ≤ c.total := by
  have := c.idle.toNat_lt
  unfold total sum UInt64.size
  omega

end Counters

structure CoreCounters where
  id : UInt32
  counters : Counters
  deriving DecidableEq, Repr, Inhabited

structure CpuReport where
  temperature : Option Single
  full : Counters
  cores : List CoreCounters
  deriving DecidableEq, Repr, Inhabited

structure MemoryReport where
  total : UInt64 := 0
  available : UInt64 := 0
  free : UInt64 := 0
  deriving DecidableEq, Repr, Inhabited

namespace MemoryReport

def used (m : MemoryReport) : Nat := m.total.toNat - m.available.toNat

end MemoryReport

/-- One process; memory in units of 1024 bytes, time in clock ticks. -/
structure HostProcess where
  pid : UInt32 := 0
  name : String := ""
  stateCode : String := ""
  stateDescription : String := ""
  user : String := ""
  group : String := ""
  resident : UInt64 := 0
  virtual : UInt64 := 0
  swap : UInt64 := 0
  threads : UInt32 := 0
  time : UInt64 := 0
  deriving DecidableEq, Repr, Inhabited

abbrev ProcessList := List HostProcess

namespace ProcessList

def lists (ps : ProcessList) (pid : UInt32) : Bool := ps.any (·.pid = pid)

end ProcessList

end HostWatch
