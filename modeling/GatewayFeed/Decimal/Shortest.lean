/-!
The shortest decimal that reads back as a given binary number: of the decimals with the fewest
digits that round to the number, the one nearest to it, and of two equally near the even one.
-/

namespace GatewayFeed.Decimal

/-- A positive number `mantissa · 2 ^ exponent`. `narrow` says that the next smaller number of
its format is only half as far away as the next larger one. -/
structure Dyadic where
  mantissa : Nat
  exponent : Int
  narrow : Bool
  deriving DecidableEq, Repr

/-- The magnitude in the bits of a finite double; zero has mantissa 0. -/
def Dyadic.ofBits (bits : UInt64) : Dyadic :=
  let fraction : Nat := bits.toNat % 0x10000000000000
  let biased : Nat := bits.toNat / 0x10000000000000 % 0x800
  if biased = 0 then ⟨fraction, -1074, false⟩
  else ⟨0x10000000000000 + fraction, (biased : Int) - 1075, fraction = 0 && biased ≠ 1⟩

/-- `digits · 10 ^ exponent`. -/
structure Scientific where
  digits : Nat
  exponent : Int
  deriving DecidableEq, Repr

/-- Number of decimal digits. -/
def width (n : Nat) : Nat := (Nat.toDigits 10 n).length

/-- The greatest `e` with `10 ^ e ≤ num / den`, for positive `num` and `den`. -/
def floorLog (num den : Nat) : Int :=
  let e : Int := width num - width den
  if den * Nat.pow 10 e.toNat ≤ num * Nat.pow 10 (-e).toNat then e else e - 1

/-- A number as a fraction with four units to the mantissa's last place. -/
structure Quarter where
  value : Nat
  low : Nat
  high : Nat
  up : Nat
  down : Nat
  closed : Bool

def Dyadic.quarter (d : Dyadic) : Quarter where
  value := 4 * d.mantissa
  low := 4 * d.mantissa - (if d.narrow then 1 else 2)
  high := 4 * d.mantissa + 2
  up := Nat.pow 2 (d.exponent - 2).toNat
  down := Nat.pow 2 (2 - d.exponent).toNat
  closed := d.mantissa % 2 = 0

/-- Whether `c · num / den` rounds to the number. -/
def Quarter.covers (q : Quarter) (c num den : Nat) : Bool :=
  let point := c * num * q.down
  let low := q.low * q.up * den
  let high := q.high * q.up * den
  if q.closed then low ≤ point && point ≤ high else low < point && point < high

/-- The point of the grid of multiples of `num / den` that rounds to the number, if there is one. -/
def Quarter.pick (q : Quarter) (num den : Nat) : Option Nat :=
  let k := q.value * q.up * den / (q.down * num)
  let twice := 2 * q.value * q.up * den
  let middle := (2 * k + 1) * num * q.down
  match q.covers k num den, q.covers (k + 1) num den with
  | true, true => some (if twice < middle || (twice = middle && k % 2 = 0) then k else k + 1)
  | true, false => some k
  | false, true => some (k + 1)
  | false, false => none

/-- Tries grids of `size`, `size + 1`, … digits, `more` of them. -/
def Quarter.search (q : Quarter) (top : Int) : Nat → Nat → Scientific
  | 0, _ => ⟨0, 0⟩
  | more + 1, size =>
    let e := top - size + 1
    match q.pick (Nat.pow 10 e.toNat) (Nat.pow 10 (-e).toNat) with
    | some c => ⟨c, e⟩
    | none => q.search top more (size + 1)

def Dyadic.shortest (d : Dyadic) : Scientific :=
  let q := d.quarter
  q.search (floorLog (q.value * q.up) q.down) 17 1

end GatewayFeed.Decimal
