/-!
Punycode: a label with characters outside ASCII as letters, digits and hyphens. The ASCII
characters come first; the others follow as differences of code points and positions, in a
variable-length notation whose thresholds adapt to the differences seen before.
-/

namespace GatewayFeed.Url.Punycode

def digit (n : Nat) : Char :=
  if n < 26 then Char.ofNat ('a'.toNat + n) else Char.ofNat ('0'.toNat + (n - 26))

def digitValue? (c : Char) : Option Nat :=
  if 'a' ≤ c && c ≤ 'z' then some (c.toNat - 'a'.toNat)
  else if 'A' ≤ c && c ≤ 'Z' then some (c.toNat - 'A'.toNat)
  else if '0' ≤ c && c ≤ '9' then some (c.toNat - '0'.toNat + 26)
  else none

def threshold (k bias : Nat) : Nat := if k ≤ bias then 1 else min 26 (k - bias)

/-- Divides by 35 until the quotient is small; the number of divisions counts. -/
def shrink (delta steps : Nat) : Nat :=
  if 455 < delta then shrink (delta / 35) (steps + 36)
  else steps + 36 * delta / (delta + 38)
termination_by delta
decreasing_by omega

/-- The bias after a difference, with `count` characters in place. -/
def adapt (delta count : Nat) (first : Bool) : Nat :=
  let delta := if first then delta / 700 else delta / 2
  shrink (delta + delta / count) 0

/-- The largest number of the notation. -/
def limit : Nat := 0x100000000

/-- A number of variable length: its value and what follows it. -/
def readNumber (bias : Nat) : Nat → Nat → Nat → List Char → Option (Nat × List Char)
  | _, _, _, [] => none
  | value, weight, k, c :: rest => do
    let d ← digitValue? c
    let value := value + d * weight
    if limit ≤ value then none
    let t := threshold k bias
    if d < t then some (value, rest)
    else
      let weight := weight * (36 - t)
      if limit ≤ weight then none else readNumber bias value weight (k + 36) rest

/-- Puts in one character after the other; `i` is the last place and `n` the last code point. -/
def insertAll : Nat → Nat → Nat → Nat → List Char → List Char → Option (List Char)
  | 0, _, _, _, _, _ => none
  | _, _, _, _, out, [] => some out
  | fuel + 1, n, i, bias, out, cs => do
    let (delta, rest) ← readNumber bias 0 1 36 cs
    let count := out.length + 1
    let n := n + (i + delta) / count
    let place := (i + delta) % count
    if 0x10FFFF < n || (0xD800 ≤ n && n < 0xE000) then none
    insertAll fuel n (place + 1) (adapt delta count (i = 0))
      (out.take place ++ Char.ofNat n :: out.drop place) rest

/-- ASCII characters stand before the last hyphen. -/
def decode? (cs : List Char) : Option (List Char) :=
  let reversed := cs.reverse
  let after := (reversed.takeWhile (· ≠ '-')).reverse
  let before := ((reversed.dropWhile (· ≠ '-')).drop 1).reverse
  insertAll (cs.length + 1) 128 0 72 before after

def writeNumber (bias : Nat) : Nat → Nat → Nat → List Char
  | 0, _, _ => []
  | fuel + 1, q, k =>
    let t := threshold k bias
    if q < t then [digit q]
    else digit (t + (q - t) % (36 - t)) :: writeNumber bias fuel ((q - t) / (36 - t)) (k + 36)

structure Encoder where
  delta : Nat
  bias : Nat
  handled : Nat
  first : Bool
  out : List Char

/-- Passes the characters of the text once, at the code point `n`. -/
def encodePoint (n : Nat) (st : Encoder) (cs : List Char) : Encoder :=
  let st := cs.foldl (fun (st : Encoder) c =>
    if c.toNat < n then { st with delta := st.delta + 1 }
    else if c.toNat = n then
      { delta := 0, bias := adapt st.delta (st.handled + 1) st.first, handled := st.handled + 1,
        first := false, out := st.out ++ writeNumber st.bias (st.delta + 1) st.delta 36 }
    else st) st
  { st with delta := st.delta + 1 }

/-- The code points from `n` on in ascending order, each with one pass. -/
def encodePoints (cs : List Char) : Nat → Nat → Encoder → Encoder
  | 0, _, st => st
  | fuel + 1, n, st =>
    match (cs.filter (n ≤ ·.toNat)).map Char.toNat |>.min? with
    | none => st
    | some m =>
      let st := { st with delta := st.delta + (m - n) * (st.handled + 1) }
      encodePoints cs fuel (m + 1) (encodePoint m st cs)

def encode (cs : List Char) : List Char :=
  let basic := cs.filter (·.toNat < 0x80)
  let start : Encoder := ⟨0, 72, basic.length, true, []⟩
  basic ++ (if basic.isEmpty then [] else ['-']) ++ (encodePoints cs cs.length 128 start).out

end GatewayFeed.Url.Punycode
