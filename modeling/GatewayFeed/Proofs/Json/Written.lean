import GatewayFeed.Json.Number
import GatewayFeed.Proofs.Text.Utf8

/-! JSON as it is written. A `Written` value stands for one text of the JSON grammar, with the
blanks around its tokens, the spelling of every number and the escapes of every string; its bytes
are that text. Strings may hold any bytes and any code units, so a string need not denote a text. -/

namespace GatewayFeed.Json

inductive Blank where
  | space
  | tab
  | lineFeed
  | carriageReturn
  deriving DecidableEq, Repr

def Blank.byte : Blank → UInt8
  | space => 0x20
  | tab => 0x09
  | lineFeed => 0x0A
  | carriageReturn => 0x0D

abbrev Blanks := List Blank

def Blanks.bytes (bs : Blanks) : List UInt8 := bs.map Blank.byte

/-- A hexadecimal digit, in either case. -/
structure HexDigit where
  value : Fin 16
  upper : Bool
  deriving DecidableEq, Repr

def HexDigit.byte (d : HexDigit) : UInt8 :=
  if d.value < 10 then UInt8.ofNat (0x30 + d.value)
  else UInt8.ofNat ((if d.upper then 0x41 else 0x61) + (d.value - 10))

/-- The escapes of one letter. -/
inductive Escape where
  | quote
  | backslash
  | slash
  | backspace
  | formFeed
  | lineFeed
  | carriageReturn
  | tab
  deriving DecidableEq, Repr

namespace Escape

def letter : Escape → UInt8
  | quote => 0x22
  | backslash => 0x5C
  | slash => 0x2F
  | backspace => 0x62
  | formFeed => 0x66
  | lineFeed => 0x6E
  | carriageReturn => 0x72
  | tab => 0x74

def char : Escape → Char
  | quote => '"'
  | backslash => '\\'
  | slash => '/'
  | backspace => '\x08'
  | formFeed => '\x0c'
  | lineFeed => '\n'
  | carriageReturn => '\r'
  | tab => '\t'

end Escape

/-- A part of a string: a byte that stands for itself, an escape, or a code unit in hexadecimal. -/
inductive Piece where
  | plain (b : UInt8) (h : 0x20 ≤ b ∧ b ≠ 0x22 ∧ b ≠ 0x5C)
  | short (e : Escape)
  | unit (a b c d : HexDigit)
  deriving DecidableEq, Repr

namespace Piece

def bytes : Piece → List UInt8
  | plain b _ => [b]
  | short e => [0x5C, e.letter]
  | unit a b c d => [0x5C, 0x75, a.byte, b.byte, c.byte, d.byte]

def codeUnit (a b c d : HexDigit) : Nat := ((a.value * 16 + b.value) * 16 + c.value) * 16 + d.value

end Piece

/-- The pieces of a string. -/
abbrev Spelling := List Piece

namespace Spelling

/-- A string up to and with its closing quote. -/
def bytes : Spelling → List UInt8
  | [] => [0x22]
  | p :: ps => p.bytes ++ bytes ps

def isHighSurrogate (n : Nat) : Bool := 0xD800 ≤ n && n ≤ 0xDBFF

def isLowSurrogate (n : Nat) : Bool := 0xDC00 ≤ n && n ≤ 0xDFFF

/-- The character of a surrogate pair. -/
def paired (high low : Nat) : Char := Char.ofNat (0x10000 + (high - 0xD800) * 0x400 + (low - 0xDC00))

/-- UTF-8 of what is spelled. Surrogates count in pairs only. -/
def plainBytes? : Spelling → Option (List UInt8)
  | [] => some []
  | .plain b _ :: ps => (plainBytes? ps).map (b :: ·)
  | .short e :: ps => (plainBytes? ps).map (Utf8.encodeChar e.char ++ ·)
  | .unit a b c d :: .unit a' b' c' d' :: ps =>
    let n := Piece.codeUnit a b c d
    let m := Piece.codeUnit a' b' c' d'
    if isLowSurrogate n then none
    else if isHighSurrogate n then
      if isLowSurrogate m then (plainBytes? ps).map (Utf8.encodeChar (paired n m) ++ ·) else none
    else (plainBytes? (.unit a' b' c' d' :: ps)).map (Utf8.encodeChar (Char.ofNat n) ++ ·)
  | .unit a b c d :: ps =>
    let n := Piece.codeUnit a b c d
    if isLowSurrogate n || isHighSurrogate n then none
    else (plainBytes? ps).map (Utf8.encodeChar (Char.ofNat n) ++ ·)

/-- The text that a string denotes, if it denotes one. -/
def text? (ps : Spelling) : Option String := (plainBytes? ps).bind Utf8.decode?

end Spelling

/-- Decimal digits. -/
abbrev Digits := List (Fin 10)

namespace Digits

def byte (d : Fin 10) : UInt8 := UInt8.ofNat (0x30 + d)

def bytes (ds : Digits) : List UInt8 := ds.map byte

def values (ds : Digits) : List Nat := ds.map Fin.val

end Digits

/-- Digits of a whole number, without a leading zero. -/
inductive Whole where
  | zero
  | positive (first : Fin 10) (h : first ≠ 0) (rest : Digits)
  deriving DecidableEq, Repr

def Whole.digits : Whole → Digits
  | zero => [0]
  | positive d _ ds => d :: ds

def Whole.value (w : Whole) : Nat := ofDigits (Digits.values w.digits)

inductive Sign where
  | plus
  | minus
  deriving DecidableEq, Repr

def Sign.byte : Sign → UInt8
  | plus => 0x2B
  | minus => 0x2D

structure Exponent where
  upper : Bool
  sign : Option Sign
  first : Fin 10
  rest : Digits
  deriving DecidableEq, Repr

def Exponent.bytes (e : Exponent) : List UInt8 :=
  (if e.upper then 0x45 else 0x65) :: (e.sign.map Sign.byte).toList ++ Digits.bytes (e.first :: e.rest)

structure Numeral where
  negative : Bool
  whole : Whole
  fraction : Option (Fin 10 × Digits)
  exponent : Option Exponent
  deriving DecidableEq, Repr

namespace Numeral

/-- A number after its minus sign. -/
def magnitudeBytes (n : Numeral) : List UInt8 :=
  Digits.bytes n.whole.digits
    ++ ((n.fraction.map fun f => 0x2E :: Digits.bytes (f.1 :: f.2)).getD []
    ++ (n.exponent.map Exponent.bytes).getD [])

def bytes (n : Numeral) : List UInt8 :=
  if n.negative then 0x2D :: n.magnitudeBytes else n.magnitudeBytes

/-- The integer that a number without a fraction and an exponent is. Minus zero is none. -/
def int? (n : Numeral) : Option Int :=
  if n.fraction.isSome || n.exponent.isSome then none
  else if n.negative then if n.whole = .zero then none else some (-n.whole.value)
  else some n.whole.value

end Numeral

/-- Something with blanks around it. -/
structure Padded (α : Type) where
  before : Blanks
  value : α
  after : Blanks

structure Member (α : Type) where
  before : Blanks
  key : Spelling
  afterKey : Blanks
  value : Padded α

/-- The blanks before the closing bracket come after those of the last item. -/
inductive Written where
  | null
  | flag (b : Bool)
  | number (n : Numeral)
  | text (ps : Spelling)
  | array (items : List (Padded Written)) (closing : Blanks)
  | object (members : List (Member Written)) (closing : Blanks)

namespace Written

/-- A comma stands before every item but the first. -/
def comma (first : Bool) : List UInt8 := if first then [] else [0x2C]

mutual

def bytes : Written → List UInt8
  | null => [0x6E, 0x75, 0x6C, 0x6C]
  | flag true => [0x74, 0x72, 0x75, 0x65]
  | flag false => [0x66, 0x61, 0x6C, 0x73, 0x65]
  | number n => n.bytes
  | text ps => 0x22 :: Spelling.bytes ps
  | array items closing => 0x5B :: itemsBytes true items ++ (closing.bytes ++ [0x5D])
  | object members closing => 0x7B :: membersBytes true members ++ (closing.bytes ++ [0x7D])

def itemsBytes (first : Bool) : List (Padded Written) → List UInt8
  | [] => []
  | ⟨before, v, after⟩ :: items =>
    comma first ++ (before.bytes ++ (bytes v ++ (after.bytes ++ itemsBytes false items)))

def membersBytes (first : Bool) : List (Member Written) → List UInt8
  | [] => []
  | ⟨before, key, afterKey, ⟨beforeValue, v, after⟩⟩ :: members =>
    comma first ++ (before.bytes ++ (0x22 :: Spelling.bytes key ++ (afterKey.bytes ++ (0x3A ::
      (beforeValue.bytes ++ (bytes v ++ (after.bytes ++ membersBytes false members)))))))

end

end Written

end GatewayFeed.Json
