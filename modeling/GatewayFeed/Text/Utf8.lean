/-!
UTF-8. `encode` writes a text as bytes. `chars` splits bytes into characters, with `none` for
each longest start of a character that breaks off; `decode?` accepts bytes without such breaks
and `decodeLossy` puts U+FFFD in their place.
-/

namespace GatewayFeed.Utf8

/-- Continuation byte that carries the low six bits of `n`. -/
def tail (n : Nat) : UInt8 := UInt8.ofNat (0x80 + n % 64)

def encodeChar (c : Char) : List UInt8 :=
  let n := c.toNat
  if n < 0x80 then [UInt8.ofNat n]
  else if n < 0x800 then [UInt8.ofNat (0xC0 + n / 64), tail n]
  else if n < 0x10000 then [UInt8.ofNat (0xE0 + n / 4096), tail (n / 64), tail n]
  else [UInt8.ofNat (0xF0 + n / 262144), tail (n / 4096), tail (n / 64), tail n]

def encodeChars (cs : List Char) : List UInt8 := cs.flatMap encodeChar

def encode (s : String) : List UInt8 := encodeChars s.toList

def isTail (b : UInt8) : Bool := 0x80 ≤ b && b < 0xC0

/-- Bounds of the second byte after the first byte `a` of a long character. -/
def second (a : UInt8) : UInt8 × UInt8 :=
  if a = 0xE0 then (0xA0, 0xC0)
  else if a = 0xED then (0x80, 0xA0)
  else if a = 0xF0 then (0x90, 0xC0)
  else if a = 0xF4 then (0x80, 0x90)
  else (0x80, 0xC0)

def isSecond (a b : UInt8) : Bool := (second a).1 ≤ b && b < (second a).2

/-- The character that `a` starts and the number of bytes of `rest` it takes; without a
character, the number of bytes of `rest` that could still have belonged to one. -/
def step (a : UInt8) (rest : List UInt8) : Option Char × Nat :=
  if a < 0x80 then (some (Char.ofNat a.toNat), 0)
  else if a < 0xC2 then (none, 0)
  else if a < 0xE0 then
    match rest with
    | b :: _ =>
      if isTail b then (some (Char.ofNat ((a.toNat - 0xC0) * 64 + (b.toNat - 0x80))), 1)
      else (none, 0)
    | [] => (none, 0)
  else if a < 0xF0 then
    match rest with
    | b :: rest =>
      if isSecond a b then
        match rest with
        | c :: _ =>
          if isTail c then
            (some (Char.ofNat
              ((a.toNat - 0xE0) * 4096 + (b.toNat - 0x80) * 64 + (c.toNat - 0x80))), 2)
          else (none, 1)
        | [] => (none, 1)
      else (none, 0)
    | [] => (none, 0)
  else if a < 0xF5 then
    match rest with
    | b :: rest =>
      if isSecond a b then
        match rest with
        | c :: rest =>
          if isTail c then
            match rest with
            | d :: _ =>
              if isTail d then
                (some (Char.ofNat ((a.toNat - 0xF0) * 262144 + (b.toNat - 0x80) * 4096
                  + (c.toNat - 0x80) * 64 + (d.toNat - 0x80))), 3)
              else (none, 2)
            | [] => (none, 2)
          else (none, 1)
        | [] => (none, 1)
      else (none, 0)
    | [] => (none, 0)
  else (none, 0)

/-- Passes over `skip` bytes first. -/
def charsFrom : Nat → List UInt8 → List (Option Char)
  | _, [] => []
  | skip + 1, _ :: rest => charsFrom skip rest
  | 0, a :: rest => (step a rest).1 :: charsFrom (step a rest).2 rest

def chars (bytes : List UInt8) : List (Option Char) := charsFrom 0 bytes

def decode? (bytes : List UInt8) : Option String :=
  ((chars bytes).mapM id).map String.ofList

def decodeLossy (bytes : List UInt8) : String :=
  String.ofList ((chars bytes).map (·.getD (Char.ofNat 0xFFFD)))

end GatewayFeed.Utf8
