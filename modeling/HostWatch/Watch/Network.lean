import HostWatch.Exchange.Network
import HostWatch.Watch.Script

namespace HostWatch

abbrev HostsAt := List (Address.Url × Script)

namespace Network

def lost (base : Address.Url) (q : Question) : Call σ α :=
  .fixed 0 (.error (.exchange (q.url base).text false))

/-- Puts a question to the host at an address, `put` to the script that it answers by. -/
def question (n : Network) (base : Address.Url) (q : Question)
    (put : Script → Call Script α × Script) (hosts : HostsAt) : Call HostsAt α × HostsAt :=
  match n, hosts.findIdx? (·.1 = base) with
  | .reachable, some i =>
    match hosts[i]? with
    | some (_, script) =>
      let (call, script) := put script
      (.fixed call.delay (call.answer script).1, hosts.set i (base, script))
    | none => (lost base q, hosts)
  | _, _ => (lost base q, hosts)

def source (n : Network) : Source HostsAt where
  ask topic base hosts := n.question base (.report topic) (Script.ask topic) hosts
  kill pid base hosts := n.question base (.kill pid) (Script.source.kill pid base) hosts

end Network

end HostWatch
