import HostWatch.Address.Fault
import HostWatch.Address.Ipv6
import HostWatch.Address.Name

namespace HostWatch.Address

inductive Host where
  | name (written : String)
  | ipv4 (address : UInt32)
  | ipv6 (pieces : List UInt16)
  deriving DecidableEq, Repr

namespace Host

def text : Host → String
  | .name written => written
  | .ipv4 address => Ipv4.text address
  | .ipv6 pieces => "[" ++ Ipv6.text pieces ++ "]"

def isEmpty (h : Host) : Bool := h = .name ""

def isForbidden (c : Char) : Bool :=
  c ∈ ['\x00', '\t', '\n', '\r', ' ', '#', '/', ':', '<', '>', '?', '@', '[', '\\', ']', '^', '|']

def bracketed (cs : List Char) : Except Fault Host :=
  if cs.getLast? = some ']' then
    match Ipv6.ofText? cs.dropLast with
    | some pieces => .ok (.ipv6 pieces)
    | none => .error .badIpv6
  else .error .badIpv6

def ofWritten (written : List Char) : Except Fault Host :=
  if written.isEmpty then .error .emptyHost
  else if Ipv4.endsInNumber written then
    match Ipv4.ofName? written with
    | some address => .ok (.ipv4 address)
    | none => .error .badIpv4
  else .ok (.name (String.ofList written))

def special : List Char → Except Fault Host
  | '[' :: cs => bracketed cs
  | cs =>
    match Name.ofBytes? (Percent.decode cs) with
    | some written => ofWritten written
    | none => .error .badName

def other : List Char → Except Fault Host
  | '[' :: cs => bracketed cs
  | cs =>
    if cs.any isForbidden then .error .badCharacter
    else .ok (.name (String.ofList (Percent.encode Percent.isControl cs)))

end Host

end HostWatch.Address
