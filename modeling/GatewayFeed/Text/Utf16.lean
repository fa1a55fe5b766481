/-!
UTF-16 in either byte order. Every code unit that is no character and no half of a pair, and a last
byte that is no unit, is read as U+FFFD.
-/

namespace GatewayFeed.Utf16

inductive Order where
  | littleEndian
  | bigEndian
  deriving DecidableEq, Repr

def unit (order : Order) (a b : UInt8) : Nat :=
  match order with
  | .littleEndian => b.toNat * 256 + a.toNat
  | .bigEndian => a.toNat * 256 + b.toNat

/-- The code units, and whether a byte is left. -/
def units (order : Order) : List UInt8 → List Nat × Bool
  | [] => ([], false)
  | [_] => ([], true)
  | a :: b :: rest => ((unit order a b :: (units order rest).1), (units order rest).2)

def isLeading (n : Nat) : Bool := 0xD800 ≤ n && n < 0xDC00

def isTrailing (n : Nat) : Bool := 0xDC00 ≤ n && n < 0xE000

def pair (lead trail : Nat) : Char :=
  Char.ofNat (0x10000 + (lead - 0xD800) * 0x400 + (trail - 0xDC00))

def broken : Char := Char.ofNat 0xFFFD

/-- With `odd`, a byte is left after the units. It belongs to what a last leading unit breaks
off. -/
def chars (odd : Bool) : List Nat → List Char
  | [] => if odd then [broken] else []
  | [n] =>
    if isLeading n then [broken]
    else (if isTrailing n then broken else Char.ofNat n) :: if odd then [broken] else []
  | n :: m :: rest =>
    if isLeading n then
      if isTrailing m then pair n m :: chars odd rest else broken :: chars odd (m :: rest)
    else (if isTrailing n then broken else Char.ofNat n) :: chars odd (m :: rest)
termination_by ns => ns.length

def decodeLossy (order : Order) (bytes : List UInt8) : String :=
  String.ofList (chars (units order bytes).2 (units order bytes).1)

end GatewayFeed.Utf16
