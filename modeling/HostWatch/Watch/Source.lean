import HostWatch.Address.Url
import HostWatch.Error
import HostWatch.Watch.Topic

namespace HostWatch

/-- A question that has been put: after how many milliseconds the answer arrives, and what it is
then and what becomes of the host. -/
structure Call (σ α : Type) where
  delay : Nat
  answer : σ → Except Error α × σ

def Call.fixed (delay : Nat) (answer : Except Error α) : Call σ α := ⟨delay, fun s => (answer, s)⟩

/-- A host that can be asked, by its state. -/
structure Source (σ : Type) where
  ask : (topic : Topic) → Address.Url → σ → Call σ topic.Report × σ
  kill : UInt32 → Address.Url → σ → Call σ Unit × σ

end HostWatch
