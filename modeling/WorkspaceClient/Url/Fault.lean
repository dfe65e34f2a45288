/-
  This file defines the reasons why a text is not a URL.

  Key definitions include:
    * `Url.Fault`
    * `Url.Fault.message`
-/

namespace WorkspaceClient
namespace Url

------------------------------------------------------------
-- Faults
------------------------------------------------------------

/- The reasons why a text is not the URL of a web server. -/
inductive Fault where
  | noScheme
  | foreignScheme
  | emptyHost
  | badPort
  | badIpv4
  | badIpv6
  | badDomain
  | badDomainCharacter
  deriving DecidableEq, Repr

/- The text of a fault. -/
def Fault.message : Fault → String
  | noScheme =>
      "relative URL without a base"
  | foreignScheme =>
      "must start with http:// or https://"
  | emptyHost =>
      "empty host"
  | badPort =>
      "invalid port number"
  | badIpv4 =>
      "invalid IPv4 address"
  | badIpv6 =>
      "invalid IPv6 address"
  | badDomain =>
      "invalid international domain name"
  | badDomainCharacter =>
      "invalid domain character"

end Url
end WorkspaceClient
