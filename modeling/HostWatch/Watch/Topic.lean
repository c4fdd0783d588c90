import HostWatch.Report.Basic

namespace HostWatch

inductive Topic where
  | cpu
  | memory
  | processes
  | outside
  deriving DecidableEq, Repr

namespace Topic

def all : List Topic := [.cpu, .memory, .processes, .outside]

def name : Topic → String
  | .cpu => "cpu"
  | .memory => "memory"
  | .processes => "processes"
  | .outside => "ext_temp"

abbrev Report : Topic → Type
  | .cpu => CpuReport
  | .memory => MemoryReport
  | .processes => ProcessList
  | .outside => Number.Single

end Topic

end HostWatch
