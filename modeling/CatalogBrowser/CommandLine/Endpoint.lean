import CatalogBrowser.Configuration

/-!
# Endpoints

Where metrics are sent to: a host and a port behind a colon. Hosts are given as addresses, or as the
local host. Other names cannot be looked up.
-/

namespace CatalogBrowser

/-- Why metrics cannot be sent. -/
inductive EndpointError where
  | noPort
  | badPort
  | unnamedHost
  | unknownHost
deriving DecidableEq, Repr

def EndpointError.message : EndpointError → String
  | .noPort => "invalid socket address"
  | .badPort => "invalid port value"
  | .unnamedHost => "failed to lookup address information: Name or service not known"
  | .unknownHost => "failed to lookup address information: Temporary failure in name resolution"

namespace Endpoint

def isPort (chars : List Char) : Bool :=
  let digits := match chars with
    | '+' :: digits => digits
    | digits => digits
  (Literal.digits? 10 digits).any (· < Nat.pow 2 16)

def isOctet (text : String) : Bool :=
  (Literal.digits? 10 text.toList).any (· < Nat.pow 2 8)

/-- Whether a text looks like an address: four octets, or digits with colons between them, which may
stand in brackets. -/
def isAddress (host : String) : Bool :=
  let octets := host.splitOn "."
  let bare := host.toList.filter fun c => c ≠ '[' && c ≠ ']'
  (octets.length = 4 && octets.all isOctet) ||
    (':' ∈ bare && bare.all fun c => (Literal.digit? c).isSome || c = ':' || c = '.')

def check (endpoint : String) : Except EndpointError Unit :=
  let reversed := endpoint.toList.reverse
  if ':' ∉ reversed then .error .noPort
  else
    let port := (reversed.takeWhile (· ≠ ':')).reverse
    let host := String.ofList ((reversed.dropWhile (· ≠ ':')).drop 1).reverse
    if !isPort port then .error .badPort
    else if host.isEmpty then .error .unnamedHost
    else if host = "localhost" || isAddress host then .ok ()
    else .error .unknownHost

end Endpoint

/-- Checks that metrics can be reported, if they are to be. -/
def Reporting.check (reporting : Reporting) : Except EndpointError Unit :=
  match reporting.statsd with
  | some endpoint => Endpoint.check endpoint
  | none => .ok ()

end CatalogBrowser
