import HostWatch.Error
import HostWatch.Exchange.Request
import HostWatch.Report.Decode

namespace HostWatch

/-- An answer, whose body may have been cut off, or the end of the connection before there was one.
-/
inductive Reply where
  | answer (status : Nat) (body : List UInt8) (isWhole : Bool)
  | brokenOff (timedOut : Bool)
  deriving DecidableEq, Repr

def Topic.decode : (topic : Topic) → List UInt8 → Except Json.Fault topic.Report
  | .cpu => Report.cpu?
  | .memory => Report.memory?
  | .processes => Report.processes?
  | .outside => Report.outside?

namespace Reply

def isSuccess (status : Nat) : Bool := 200 ≤ status && status < 300

/-- The body of an answer of success and whether it is whole. Of any other answer the body is told,
or nothing if it was cut off. -/
def success (url : Address.Url) : Reply → Except Error (List UInt8 × Bool)
  | brokenOff timedOut => .error (.exchange url.text timedOut)
  | answer status body isWhole =>
    if isSuccess status then .ok (body, isWhole)
    else .error (.status status (if isWhole then Text.Utf8.lossyText body else ""))

def report (topic : Topic) (url : Address.Url) (r : Reply) : Except Error topic.Report := do
  let (body, isWhole) ← r.success url
  if isWhole then (topic.decode body).mapError .decode else .error (.exchange url.text false)

def agreement (url : Address.Url) (r : Reply) : Except Error Unit := do
  let _ ← r.success url

end Reply

end HostWatch
