import GatewayFeed.Url.Address

/-!
URLs as their parts. User names, paths, queries and fragments are kept as they are written,
percent-encoded; a port that is the usual one of its scheme is not kept.
-/

namespace GatewayFeed

inductive Host where
  | domain (name : List Char)
  | ipv4 (n : Nat)
  | ipv6 (groups : List Nat)
  deriving DecidableEq, Repr

/-- The path of a URL like `mailto:x` is opaque, all others are segments behind slashes. -/
inductive Url.Path where
  | opaquePath (text : List Char)
  | segments (ss : List (List Char))
  deriving DecidableEq, Repr

structure Url where
  scheme : List Char
  username : List Char := []
  password : List Char := []
  host : Option Host := none
  port : Option Nat := none
  path : Url.Path
  query : Option (List Char) := none
  fragment : Option (List Char) := none
  deriving DecidableEq, Repr

inductive Url.Error where
  | relativeWithoutBase
  | relativeToOpaque
  | emptyHost
  | invalidPort
  | invalidIpv4
  | invalidIpv6
  | invalidDomain
  | invalidHostCharacter
  deriving DecidableEq, Repr

def Url.Error.message : Url.Error → String
  | .relativeWithoutBase => "relative URL without a base"
  | .relativeToOpaque => "relative URL with a cannot-be-a-base base"
  | .emptyHost => "empty host"
  | .invalidPort => "invalid port number"
  | .invalidIpv4 => "invalid IPv4 address"
  | .invalidIpv6 => "invalid IPv6 address"
  | .invalidDomain => "invalid international domain name"
  | .invalidHostCharacter => "invalid domain character"

namespace Host

def chars : Host → List Char
  | domain name => name
  | ipv4 n => Url.ipv4Chars n
  | ipv6 gs => '[' :: Url.ipv6Chars gs ++ [']']

end Host

namespace Url

/-- Schemes with a host, a path and a usual port. -/
def usualPort? (scheme : List Char) : Option Nat :=
  if scheme = "http".toList || scheme = "ws".toList then some 80
  else if scheme = "https".toList || scheme = "wss".toList then some 443
  else if scheme = "ftp".toList then some 21
  else none

def isFile (scheme : List Char) : Bool := scheme = "file".toList

def isSpecial (scheme : List Char) : Bool := (usualPort? scheme).isSome || isFile scheme

def portOrUsual (u : Url) : Option Nat := u.port.orElse fun _ => usualPort? u.scheme

namespace Path

def chars : Path → List Char
  | opaquePath text => text
  | segments ss => ss.flatMap ('/' :: ·)

end Path

def userChars (u : Url) : List Char :=
  let password := if u.password.isEmpty then [] else ':' :: u.password
  if u.username.isEmpty && u.password.isEmpty then [] else u.username ++ password ++ ['@']

def authorityChars (u : Url) : List Char :=
  match u.host with
  | none => if isFile u.scheme then ['/', '/'] else []
  | some h =>
    ['/', '/'] ++ userChars u ++ h.chars
      ++ (match u.port with | some p => ':' :: Nat.toDigits 10 p | none => [])

def queryChars (u : Url) : List Char :=
  match u.query with
  | some q => '?' :: q
  | none => []

def fragmentChars (u : Url) : List Char :=
  match u.fragment with
  | some f => '#' :: f
  | none => []

def text (u : Url) : String :=
  String.ofList (u.scheme ++ ':' :: authorityChars u ++ u.path.chars ++ queryChars u
    ++ fragmentChars u)

/-- What a request asks its server for. -/
def target (u : Url) : String := String.ofList (u.path.chars ++ queryChars u)

/-- Adds pairs at the end of the query. -/
def appendQuery (u : Url) (pairs : List (String × String)) : Url :=
  let q := Form.append (u.query.getD []) pairs
  { u with query := if q.isEmpty then none else some q }

end Url

end GatewayFeed
