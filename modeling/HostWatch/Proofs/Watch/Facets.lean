import HostWatch.Proofs.Watch.Twins

namespace HostWatch

namespace Telemetry

def awaits (t : Telemetry) : Topic → Bool
  | .cpu => t.cpu.isLoading
  | .memory => t.memory.isLoading
  | .processes => t.processes.isLoading
  | .outside => t.outside.isLoading

end Telemetry

namespace System

end System

namespace Timeline

variable {σ : Type}

end Timeline

end HostWatch
