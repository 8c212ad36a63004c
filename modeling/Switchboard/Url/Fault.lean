/-
  Why a text is not a URL.
-/
namespace Switchboard.Url

/-- The causes for which a text is refused. -/
inductive Fault
  | relative
  | emptyHost
  | invalidName
  | invalidPort
  | invalidIpv4
  | invalidIpv6
  | invalidCharacter
  deriving DecidableEq, Repr

/-- The text of a cause. -/
def Fault.message : Fault → String
  | .relative => "relative URL without a base"
  | .emptyHost => "empty host"
  | .invalidName => "invalid international domain name"
  | .invalidPort => "invalid port number"
  | .invalidIpv4 => "invalid IPv4 address"
  | .invalidIpv6 => "invalid IPv6 address"
  | .invalidCharacter => "invalid domain character"

end Switchboard.Url
