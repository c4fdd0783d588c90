namespace HostWatch.Address

inductive Fault where
  | emptyHost
  | badPort
  | badIpv4
  | badIpv6
  | badName
  | badCharacter
  | noScheme
  deriving DecidableEq, Repr

def Fault.message : Fault → String
  | .emptyHost => "empty host"
  | .badPort => "invalid port number"
  | .badIpv4 => "invalid IPv4 address"
  | .badIpv6 => "invalid IPv6 address"
  | .badName => "invalid international domain name"
  | .badCharacter => "invalid domain character"
  | .noScheme => "relative URL without a base"

end HostWatch.Address
