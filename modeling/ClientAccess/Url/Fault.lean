/-! Why a text is no URL. -/
namespace ClientAccess.Url

inductive Fault where
  | relative
  | emptyHost
  | badPort
  | badIpv4
  | badIpv6
  | badDomain
  | badHostCharacter
  deriving DecidableEq, Repr

def Fault.message : Fault → String
  | relative => "relative URL without a base"
  | emptyHost => "empty host"
  | badPort => "invalid port number"
  | badIpv4 => "invalid IPv4 address"
  | badIpv6 => "invalid IPv6 address"
  | badDomain => "invalid international domain name"
  | badHostCharacter => "invalid domain character"

end ClientAccess.Url
