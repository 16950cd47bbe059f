import OrdersContract.Address.Ipv4
import OrdersContract.Address.Ipv6

set_option autoImplicit false

namespace OrdersContract

inductive Host where
  | name (text : String)
  | ipv4 (value : Nat)
  | ipv6 (numbers : List Nat)
deriving DecidableEq

structure Authority where
  username : String
  password : Option String
  host : Option Host
  port : Option Nat
deriving DecidableEq

structure Address where
  scheme : String
  authority : Option Authority
  path : String
  query : Option String
  fragment : Option String
deriving DecidableEq

inductive AddressFault where
  | emptyHost
  | domainName
  | port
  | ipv4
  | ipv6
  | hostCharacter
  | noScheme
deriving DecidableEq

def AddressFault.message : AddressFault → String
  | emptyHost => "empty host"
  | domainName => "invalid international domain name"
  | port => "invalid port number"
  | ipv4 => "invalid IPv4 address"
  | ipv6 => "invalid IPv6 address"
  | hostCharacter => "invalid domain character"
  | noScheme => "relative URL without a base"

def Host.text : Host → String
  | name text => text
  | ipv4 value => .ofList (Address.Ipv4.chars value)
  | ipv6 numbers => .ofList (Address.Ipv6.chars numbers)

namespace Authority

def userinfo (authority : Authority) : String :=
  match authority.password with
  | some password => authority.username ++ ":" ++ password ++ "@"
  | none => if authority.username.isEmpty then "" else authority.username ++ "@"

def text (authority : Authority) : String :=
  authority.userinfo ++ (authority.host.map Host.text).getD "" ++
    (match authority.port with
    | some port => ":" ++ Text.decimalText port
    | none => "")

end Authority

namespace Address

def host? (address : Address) : Option Host := address.authority.bind Authority.host

def hasHost (address : Address) : Bool := address.host?.isSome

/-- What stands between the scheme and the path. A path that would read as an authority is set off
by a dot. -/
def beforePath (address : Address) : String :=
  match address.authority with
  | some authority => "//" ++ authority.text
  | none => if ['/', '/'].isPrefixOf address.path.toList then "/." else ""

def text (address : Address) : String :=
  address.scheme ++ ":" ++ address.beforePath ++ address.path ++
    (match address.query with
    | some query => "?" ++ query
    | none => "") ++
    (match address.fragment with
    | some fragment => "#" ++ fragment
    | none => "")

end Address

end OrdersContract
