import HostWatch.Report.Decode
import HostWatch.Watch.Source

namespace HostWatch

inductive ScriptedOutcome where
  | fails (error : Error)
  | body (bytes : List UInt8)
  deriving DecidableEq, Repr

structure ScriptedReply where
  delay : Nat := 0
  outcome : ScriptedOutcome
  deriving DecidableEq, Repr

structure Script where
  cpu : List ScriptedReply := []
  memory : List ScriptedReply := []
  processes : List ScriptedReply := []
  outside : List ScriptedReply := []
  kill : List ScriptedReply := []
  deriving DecidableEq, Repr

namespace Script

def next : List ScriptedReply → ScriptedReply × List ScriptedReply
  | [] => (⟨0, .fails (.malformed "no reply scripted")⟩, [])
  | [r] => (r, [r])
  | r :: rs => (r, rs)

def call (decode : List UInt8 → Except Json.Fault α) (r : ScriptedReply) : Call σ α :=
  .fixed r.delay <|
    match r.outcome with
    | .fails e => .error e
    | .body bytes => (decode bytes).mapError .decode

def ask : (topic : Topic) → Script → Call Script topic.Report × Script
  | .cpu, s => let (r, rs) := next s.cpu; (call Report.cpu? r, { s with cpu := rs })
  | .memory, s => let (r, rs) := next s.memory; (call Report.memory? r, { s with memory := rs })
  | .processes, s =>
    let (r, rs) := next s.processes
    (call Report.processes? r, { s with processes := rs })
  | .outside, s =>
    let (r, rs) := next s.outside
    (call Report.outside? r, { s with outside := rs })

def source : Source Script where
  ask topic _ s := ask topic s
  kill _ _ s := let (r, rs) := next s.kill; (call (fun _ => .ok ()) r, { s with kill := rs })

end Script

end HostWatch
