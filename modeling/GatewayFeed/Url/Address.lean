import GatewayFeed.Url.Percent
import GatewayFeed.Url.Form

/-!
Numeric hosts in URLs. IPv4 parts may be decimal, octal or hexadecimal and the last one fills what
the others leave; IPv6 is eight groups of four hexadecimal digits, with `::` for a run of zeros.
-/

namespace GatewayFeed.Url

/-- A number beyond 32 bits is a number, but no part of an address. -/
inductive Part where
  | notNumber
  | tooLarge
  | number (n : Nat)
  deriving DecidableEq, Repr

def digitsIn (base : Nat) (cs : List Char) : Option Nat :=
  cs.foldlM (fun n c => do
    let d ← hexValue? c
    if d < base then some (n * base + d) else none) 0

def part (cs : List Char) : Part :=
  let (base, ds) :=
    match cs with
    | '0' :: 'x' :: rest => (16, rest)
    | '0' :: 'X' :: rest => (16, rest)
    | '0' :: d :: rest => (8, d :: rest)
    | _ => (10, cs)
  if cs.isEmpty then .notNumber
  else
    match digitsIn base ds with
    | none => .notNumber
    | some n => if n < 0x100000000 then .number n else .tooLarge

/-- The parts of a host; a dot at its end starts no part. -/
def hostParts (host : List Char) : List (List Char) :=
  let parts := Form.splitAt '.' host
  if parts.getLast? = some [] then parts.dropLast else parts

/-- A host whose last part is a number must be an IPv4 address. -/
def endsInNumber (host : List Char) : Bool :=
  match (hostParts host).getLast? with
  | none => false
  | some last =>
    (!last.isEmpty && last.all Char.isDigit) || (if part last = .notNumber then false else true)

def ipv4? (host : List Char) : Option Nat := do
  let parts := hostParts host
  if 4 < parts.length then none
  let ns ← parts.mapM fun p =>
    match part p with
    | .number n => some n
    | _ => none
  let last ← ns.getLast?
  let init := ns.dropLast
  if Nat.pow 256 (4 - init.length) ≤ last || init.any (255 < ·) then none
  some (init.zipIdx.foldl (fun n x => n + x.1 * Nat.pow 256 (3 - x.2)) last)

def ipv4Chars (n : Nat) : List Char :=
  let byte (i : Nat) : List Char := Nat.toDigits 10 (n / Nat.pow 256 i % 256)
  byte 3 ++ '.' :: byte 2 ++ '.' :: byte 1 ++ '.' :: byte 0

/-- A decimal number up to 255 without needless zeros, and what follows it. -/
def octet? (cs : List Char) : Option (Nat × List Char) :=
  let ds := cs.takeWhile Char.isDigit
  let rest := cs.dropWhile Char.isDigit
  if ds.isEmpty || (1 < ds.length && ds.head? = some '0') then none
  else
    match digitsIn 10 ds with
    | some n => if n ≤ 255 then some (n, rest) else none
    | none => none

/-- Four octets with dots between them, as two groups, and what follows them. -/
def octets? (cs : List Char) : Option (List Nat × List Char) := do
  let (a, r) ← octet? cs
  let ('.' :: r) := r | none
  let (b, r) ← octet? r
  let ('.' :: r) := r | none
  let (c, r) ← octet? r
  let ('.' :: r) := r | none
  let (d, r) ← octet? r
  some ([a * 256 + b, c * 256 + d], r)

/-- Four octets and nothing after them. -/
def dotted? (cs : List Char) : Option (List Nat) :=
  match octets? cs with
  | some (gs, []) => some gs
  | _ => none

/-- Groups up to the end or up to `::`, and what follows `::`. -/
def groups : Nat → List Char → Option (List Nat × Option (List Char))
  | 0, _ => none
  | fuel + 1, cs =>
    match dotted? cs with
    | some gs => some (gs, none)
    | none => do
      let ds := (cs.takeWhile fun c => (hexValue? c).isSome)
      if ds.isEmpty || 4 < ds.length then none
      let n ← digitsIn 16 ds
      match cs.drop ds.length with
      | [] => some ([n], none)
      | ':' :: ':' :: rest => some ([n], some rest)
      | ':' :: rest => do
        let (gs, tail) ← groups fuel rest
        some (n :: gs, tail)
      | _ => none

/-- Exactly eight groups, or fewer and one `::` that stands for at least one. -/
def ipv6? (cs : List Char) : Option (List Nat) := do
  let (front, tail) ←
    match cs with
    | ':' :: ':' :: rest => some ([], some rest)
    | _ => groups 9 cs
  match tail with
  | none => if front.length = 8 then some front else none
  | some rest =>
    let back ←
      if rest.isEmpty then some []
      else
        match groups 9 rest with
        | some (gs, none) => some gs
        | _ => none
    if front.length + back.length < 8 then
      some (front ++ List.replicate (8 - front.length - back.length) 0 ++ back)
    else none

/-- Start and length of the first longest run of zeros, if it has two at least. -/
def zeroRun (gs : List Nat) : Option (Nat × Nat) :=
  let run (i : Nat) : Nat := ((gs.drop i).takeWhile (· = 0)).length
  let best := (List.range gs.length).foldl (fun b i => if run b < run i then i else b) 0
  if 2 ≤ run best then some (best, run best) else none

def colonSeparated (gs : List Nat) : List Char :=
  (gs.map fun g => Nat.toDigits 16 g).intersperse [':'] |>.flatten

def ipv6Chars (gs : List Nat) : List Char :=
  match zeroRun gs with
  | none => colonSeparated gs
  | some (i, n) => colonSeparated (gs.take i) ++ [':', ':'] ++ colonSeparated (gs.drop (i + n))

end GatewayFeed.Url
