/-!
Spans of time in nanoseconds. Sums and products stop at the longest span, and a span is written
in the largest unit that it fills.
-/

namespace GatewayFeed

structure Duration where
  nanos : Nat
  deriving DecidableEq, Repr

namespace Duration

/-- The longest span has the greatest number of seconds of 64 bits. -/
def longest : Duration := ⟨0xFFFFFFFFFFFFFFFF * 1000000000 + 999999999⟩

def zero : Duration := ⟨0⟩

def ofSecs (n : Nat) : Duration := ⟨n * 1000000000⟩

def ofMillis (n : Nat) : Duration := ⟨n * 1000000⟩

def ofNanos (n : Nat) : Duration := ⟨n⟩

/-- Whole milliseconds. -/
def millis (d : Duration) : Nat := d.nanos / 1000000

def cap (d : Duration) : Duration := ⟨min d.nanos longest.nanos⟩

def add (a b : Duration) : Duration := cap ⟨a.nanos + b.nanos⟩

def times (d : Duration) (n : Nat) : Duration := cap ⟨d.nanos * n⟩

def least (a b : Duration) : Duration := ⟨min a.nanos b.nanos⟩

/-- Digits of `rest / 10 ^ places` after the point, without zeros at the end. -/
def fractionChars (rest places : Nat) : List Char :=
  let ds := Nat.toDigits 10 rest
  let padded := List.replicate (places - ds.length) '0' ++ ds
  let kept := (padded.reverse.dropWhile (· = '0')).reverse
  if kept.isEmpty then [] else '.' :: kept

def inUnit (nanos places : Nat) (symbol : String) : String :=
  String.ofList (Nat.toDigits 10 (nanos / Nat.pow 10 places)
    ++ fractionChars (nanos % Nat.pow 10 places) places)
    ++ symbol

def text (d : Duration) : String :=
  if 1000000000 ≤ d.nanos then inUnit d.nanos 9 "s"
  else if 1000000 ≤ d.nanos then inUnit d.nanos 6 "ms"
  else if 1000 ≤ d.nanos then inUnit d.nanos 3 "µs"
  else inUnit d.nanos 0 "ns"

end Duration

end GatewayFeed
