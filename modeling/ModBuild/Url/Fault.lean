/-!
# `ModBuild.Url.Fault`: why a text is no address
-/

set_option autoImplicit false

namespace ModBuild.Url

/-- Why a text is no address. -/
inductive Fault where
  | emptyHost
  | idna
  | invalidPort
  | invalidIpv4
  | invalidIpv6
  | invalidDomainCharacter
  | relative
  deriving DecidableEq

/-- The text of a fault. -/
def Fault.message : Fault → String
  | emptyHost => "empty host"
  | idna => "invalid international domain name"
  | invalidPort => "invalid port number"
  | invalidIpv4 => "invalid IPv4 address"
  | invalidIpv6 => "invalid IPv6 address"
  | invalidDomainCharacter => "invalid domain character"
  | relative => "relative URL without a base"

end ModBuild.Url
