/-!
# URLs

A URL as its parts, each in its written form. Behind the scheme stands an authority, if there is one, and
then the path. A path without an authority that does not begin with a slash is opaque: it has no
segments.
-/

namespace OperatorConfig

inductive UrlFault where
  | noScheme
  | emptyHost
  | badPort
  | badIpv4
  | badIpv6
  | badHostCharacter
  | badDomainName
deriving DecidableEq

def UrlFault.message : UrlFault → String
  | .noScheme => "relative URL without a base"
  | .emptyHost => "empty host"
  | .badPort => "invalid port number"
  | .badIpv4 => "invalid IPv4 address"
  | .badIpv6 => "invalid IPv6 address"
  | .badHostCharacter => "invalid domain character"
  | .badDomainName => "invalid international domain name"

/-- How a URL of a scheme is read. -/
inductive Url.Kind where
  | web (defaultPort : Nat)
  | file
  | other
deriving DecidableEq

namespace Url.Kind

def ofScheme (scheme : String) : Kind :=
  match scheme with
  | "http" => .web 80
  | "ws" => .web 80
  | "https" => .web 443
  | "wss" => .web 443
  | "ftp" => .web 21
  | "file" => .file
  | _ => .other

/-- Whether a backslash separates like a slash. -/
def isSpecial : Kind → Bool
  | .other => false
  | _ => true

/-- The port that need not be written. -/
def defaultPort? : Kind → Option Nat
  | .web port => some port
  | _ => none

end Url.Kind

/-- What stands between two slashes and the path. -/
structure Url.Authority where
  user : String := ""
  /-- A password that is not empty. -/
  password : Option String := none
  /-- A name or an address; empty where there is no host. -/
  host : String := ""
  port : Option Nat := none
deriving DecidableEq

structure Url where
  scheme : String
  authority : Option Url.Authority
  /-- Whether `/.` stands before the path, so that its slashes are not taken for an authority. -/
  guarded : Bool := false
  path : String
  query : Option String
  fragment : Option String
deriving DecidableEq

namespace Url

def Authority.text (authority : Authority) : String :=
  let password := (authority.password.map (":" ++ ·)).getD ""
  let credentials := authority.user ++ password
  let port := (authority.port.map fun port => ":" ++ toString port).getD ""
  (if credentials = "" then "" else credentials ++ "@") ++ authority.host ++ port

def text (url : Url) : String :=
  url.scheme ++ ":"
    ++ (url.authority.map fun authority => "//" ++ authority.text).getD ""
    ++ (if url.guarded then "/." else "")
    ++ url.path
    ++ (url.query.map ("?" ++ ·)).getD ""
    ++ (url.fragment.map ("#" ++ ·)).getD ""

/-- Whether the path has no segments. -/
def isOpaque (url : Url) : Bool :=
  url.authority.isNone && !url.guarded && !url.path.startsWith "/"

end Url

end OperatorConfig
