import HostWatch.Address.Url
import HostWatch.Watch.Topic

namespace HostWatch

inductive Question where
  | report (topic : Topic)
  | kill (pid : UInt32)
  deriving DecidableEq, Repr

inductive Method where
  | get
  | post
  deriving DecidableEq, Repr

def Method.name : Method → String
  | .get => "GET"
  | .post => "POST"

structure Request where
  method : Method
  url : Address.Url
  body : String := ""
  contentType : Option String := none
  agent : String := "pimon/0.1.0"
  deriving DecidableEq, Repr

namespace Question

/-- The address at which a question is answered: beside the last part of the path of the base. -/
def url (base : Address.Url) : Question → Address.Url
  | report topic => base.sibling topic.name
  | kill _ => base.sibling "control/process/kill"

def request (base : Address.Url) (q : Question) : Request :=
  match q with
  | report _ => { method := .get, url := q.url base }
  | kill pid =>
    { method := .post
      url := q.url base
      body := "\x7b\"pid\":" ++ toString pid.toNat ++ "\x7d"
      contentType := some "application/json" }

end Question

end HostWatch
