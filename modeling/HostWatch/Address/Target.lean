import HostWatch.Address.Url
import HostWatch.Error
import HostWatch.Text.Blank
import HostWatch.Text.Search

namespace HostWatch

structure Target where
  host : String
  port : UInt16
  deriving DecidableEq, Repr, Inhabited

namespace Target

open Address (Url)

def text (t : Target) : String := t.host ++ ":" ++ toString t.port.toNat

/-- Reads a host, a host and a port, or an address with a scheme; of an address only host and port
matter. -/
def parse (s : String) (defaultPort : UInt16) : Except Error Target :=
  let s := Text.trim s
  if s.isEmpty then .error (.malformed "empty host")
  else
    let address := if Text.occursIn "://".toList s.toList then s else "http://" ++ s
    match Url.parse address with
    | .error fault => .error (.address fault)
    | .ok url =>
      match url.host? with
      | none => .error (.malformed ("no host in '" ++ s ++ "'"))
      | some host => .ok ⟨host.text, url.port?.getD defaultPort⟩

def base (t : Target) : Except Error Url :=
  (Url.parse ("http://" ++ t.text ++ "/")).mapError .address

def terminal (t : Target) : Except Error Url :=
  (Url.parse ("ws://" ++ t.text ++ "/terminal/ws")).mapError .address

end Target

end HostWatch
