import GatewayFeed.Url.Address

/-!
Addresses to listen on: an IP address and a port. An IPv6 address stands in brackets and may have
a scope; names of hosts are no addresses.
-/

namespace GatewayFeed

inductive SocketAddress where
  | ipv4 (groups : List Nat) (port : Nat)
  | ipv6 (groups : List Nat) (scope port : Nat)
  deriving DecidableEq, Repr

namespace SocketAddress

/-- A decimal number of any length below a bound, and what follows it. -/
def number? (bound : Nat) (cs : List Char) : Option (Nat × List Char) :=
  let ds := cs.takeWhile Char.isDigit
  if ds.isEmpty then none
  else
    match Url.digitsIn 10 ds with
    | some n => if n < bound then some (n, cs.dropWhile Char.isDigit) else none
    | none => none

/-- One to four hexadecimal digits. -/
def group? (cs : List Char) : Option (Nat × List Char) :=
  let isHex (c : Char) : Bool := (Url.hexValue? c).isSome
  let ds := cs.takeWhile isHex
  if ds.isEmpty || 4 < ds.length then none
  else (Url.digitsIn 16 ds).map fun n => (n, cs.dropWhile isHex)

/-- What comes after a colon, except for the first group. -/
def afterColon (first : Bool) (cs : List Char) : Option (List Char) :=
  if first then some cs
  else
    match cs with
    | ':' :: rest => some rest
    | _ => none

/-- At most `room` groups, the last two of them perhaps as four octets; the flag tells so. -/
def groups : Nat → Bool → List Char → List Nat × Bool × List Char
  | 0, _, cs => ([], false, cs)
  | room + 1, first, cs =>
    match afterColon first cs with
    | none => ([], false, cs)
    | some rest =>
      match if 0 < room then Url.octets? rest else none with
      | some (gs, rest) => (gs, true, rest)
      | none =>
        match group? rest with
        | none => ([], false, cs)
        | some (g, rest) =>
          let (gs, dotted, rest) := groups room false rest
          (g :: gs, dotted, rest)

def ipv6? (cs : List Char) : Option (List Nat × List Char) :=
  let (front, dotted, rest) := groups 8 true cs
  if front.length = 8 then some (front, rest)
  else if dotted then none
  else
    match rest with
    | ':' :: ':' :: rest =>
      let (back, _, rest) := groups (7 - front.length) true rest
      some (front ++ List.replicate (8 - front.length - back.length) 0 ++ back, rest)
    | _ => none

/-- A colon and a port up to the end. -/
def port? : List Char → Option Nat
  | ':' :: rest =>
    match number? 0x10000 rest with
    | some (n, []) => some n
    | _ => none
  | _ => none

def bracketed? (cs : List Char) : Option SocketAddress := do
  let (gs, rest) ← ipv6? cs
  let (scope, rest) ←
    match rest with
    | '%' :: rest => number? 0x100000000 rest
    | rest => some (0, rest)
  match rest with
  | ']' :: rest => (port? rest).map (ipv6 gs scope)
  | _ => none

def parse? (s : String) : Option SocketAddress :=
  match s.toList with
  | '[' :: rest => bracketed? rest
  | cs =>
    match Url.octets? cs with
    | some (gs, rest) => (port? rest).map (ipv4 gs)
    | none => none

def port : SocketAddress → Nat
  | ipv4 _ p => p
  | ipv6 _ _ p => p

/-- Whether it stands for every address of the host. -/
def isWildcard : SocketAddress → Bool
  | ipv4 gs _ => gs.all (· = 0)
  | ipv6 gs _ _ => gs.all (· = 0)

/-- Whether `a` takes all addresses of the family of `b`. The wildcard of IPv6 takes both. -/
def covers : SocketAddress → SocketAddress → Bool
  | ipv4 gs p, ipv4 gs' _ => gs = gs' || (ipv4 gs p).isWildcard
  | ipv4 _ _, ipv6 _ _ _ => false
  | ipv6 gs s p, ipv4 _ _ => (ipv6 gs s p).isWildcard
  | ipv6 gs s p, ipv6 gs' _ _ => gs = gs' || (ipv6 gs s p).isWildcard

/-- Whether two listeners cannot have these addresses at a time. Port 0 is any free one. -/
def clashes (a b : SocketAddress) : Bool :=
  a.port ≠ 0 && a.port = b.port && (a.covers b || b.covers a)

end SocketAddress

end GatewayFeed
