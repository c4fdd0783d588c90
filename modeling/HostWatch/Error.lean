import HostWatch.Address.Fault
import HostWatch.Json.Fault

namespace HostWatch

inductive Error where
  | exchange (url : String) (timedOut : Bool)
  | status (code : Nat) (body : String)
  | decode (fault : Json.Fault)
  | malformed (text : String)
  | address (fault : Address.Fault)
  | directoryBlocked
  | noTarget
  deriving DecidableEq, Repr

def Error.message : Error → String
  | .exchange url _ => "request failed: error sending request for url (" ++ url ++ ")"
  | .status code body => "host answered " ++ toString code ++ ": " ++ body
  | .decode fault => "invalid payload: " ++ fault.message
  | .malformed text => "malformed reply: " ++ text
  | .address fault => "invalid address: " ++ fault.message
  | .directoryBlocked => "File exists (os error 17)"
  | .noTarget => "no target selected"

end HostWatch
