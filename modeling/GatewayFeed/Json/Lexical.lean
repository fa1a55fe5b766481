import GatewayFeed.Text.Utf8
import GatewayFeed.Json.Fault

/-!
The smallest readers of JSON text: blanks, words, the punctuation of lists and objects, and
strings. A reader takes bytes from the front of the input and leaves the rest.
-/

namespace GatewayFeed.Json

abbrev Reader := StateT (List UInt8) (Except Fault)

namespace Reader

variable {α : Type}

def unfinished (u : Unfinished) : Reader α := throw (.unfinished u)

def malformed (m : Malformed) : Reader α := throw (.malformed m)

def mismatch (m : Mismatch) : Reader α := throw (.mismatch m)

def isBlank (b : UInt8) : Bool := b = 0x20 || b = 0x0A || b = 0x09 || b = 0x0D

/-- The next byte, which stays in the input. -/
def peek : Reader (Option UInt8) := fun bs => .ok (bs.head?, bs)

/-- The next byte that is not blank, which stays in the input; the blanks before it do not. -/
def peekToken : Reader (Option UInt8) := fun bs =>
  let rest := bs.dropWhile isBlank
  .ok (rest.head?, rest)

def next : Reader (Option UInt8) := fun bs => .ok (bs.head?, bs.tail)

def skip : Reader Unit := fun bs => .ok ((), bs.tail)

/-- Number of bytes left, which bounds every loop over them. -/
def remaining : Reader Nat := fun bs => .ok (bs.length, bs)

/-- The rest of `null`, `true` or `false` after its first letter. -/
def word : List Char → Reader Unit
  | [] => pure ()
  | c :: cs => do
    match ← next with
    | none => unfinished .value
    | some b => if b = c.toUInt8 then word cs else malformed .expectedIdentifier

/-- Whether a list goes on with an item; then the input is at the item, otherwise at `]`. -/
def moreItems (first : Bool) : Reader Bool := do
  match ← peekToken with
  | none => unfinished .list
  | some b =>
    if b = ']'.toUInt8 then return false
    else if first then return true
    else if b = ','.toUInt8 then
      skip
      match ← peekToken with
      | none => unfinished .value
      | some b => if b = ']'.toUInt8 then malformed .trailingComma else return true
    else malformed .expectedCommaInList

/-- The end of a list of which no more items are wanted. -/
def endList : Reader Unit := do
  match ← peekToken with
  | none => unfinished .list
  | some b =>
    if b = ']'.toUInt8 then skip
    else if b = ','.toUInt8 then
      skip
      match ← peekToken with
      | some b =>
        if b = ']'.toUInt8 then malformed .trailingComma else malformed .trailingCharacters
      | none => malformed .trailingCharacters
    else malformed .trailingCharacters

/-- Whether an object goes on with a member; then the input is after the key's opening quote,
otherwise after the closing brace. -/
def moreMembers (first : Bool) : Reader Bool := do
  match ← peekToken with
  | none => unfinished .object
  | some b =>
    if b = 0x7D then
      skip
      return false
    else if first then
      if b = '"'.toUInt8 then
        skip
        return true
      else malformed .keyIsNoString
    else if b = ','.toUInt8 then
      skip
      match ← peekToken with
      | none => unfinished .value
      | some b =>
        if b = '"'.toUInt8 then
          skip
          return true
        else if b = 0x7D then malformed .trailingComma
        else malformed .keyIsNoString
    else malformed .expectedCommaInObject

def colon : Reader Unit := do
  match ← peekToken with
  | none => unfinished .object
  | some b => if b = ':'.toUInt8 then skip else malformed .expectedColon

/-- Nothing but blanks may follow a document. -/
def endOfInput : Reader Unit := do
  match ← peekToken with
  | none => pure ()
  | some _ => malformed .trailingCharacters

def hexDigit? (b : UInt8) : Option Nat :=
  if '0'.toUInt8 ≤ b && b ≤ '9'.toUInt8 then some (b.toNat - '0'.toNat)
  else if 'a'.toUInt8 ≤ b && b ≤ 'f'.toUInt8 then some (b.toNat - 'a'.toNat + 10)
  else if 'A'.toUInt8 ≤ b && b ≤ 'F'.toUInt8 then some (b.toNat - 'A'.toNat + 10)
  else none

/-- Four hexadecimal digits. Fewer than four bytes end the string early, whatever they are. -/
def hexEscape : Reader Nat := fun bs =>
  match bs with
  | a :: b :: c :: d :: rest =>
    match hexDigit? a, hexDigit? b, hexDigit? c, hexDigit? d with
    | some a, some b, some c, some d => .ok (((a * 16 + b) * 16 + c) * 16 + d, rest)
    | _, _, _, _ => .error (.malformed .invalidEscape)
  | _ => .error (.unfinished .string)

/-- The character that stands for itself or for a control after a backslash. -/
def shortEscape? (b : UInt8) : Option Char :=
  if b = '"'.toUInt8 then some '"'
  else if b = '\\'.toUInt8 then some '\\'
  else if b = '/'.toUInt8 then some '/'
  else if b = 'b'.toUInt8 then some '\x08'
  else if b = 'f'.toUInt8 then some '\x0c'
  else if b = 'n'.toUInt8 then some '\n'
  else if b = 'r'.toUInt8 then some '\r'
  else if b = 't'.toUInt8 then some '\t'
  else none

/-- The byte `b` inside a string, where the input may not end. -/
def surrogateMark (b : UInt8) : Reader Unit := do
  match ← next with
  | none => unfinished .string
  | some c => if c = b then pure () else malformed .unpairedSurrogate

/-- A code unit in hexadecimal, or two of them that are a surrogate pair. -/
def unicodeEscape : Reader Char := do
  let n ← hexEscape
  if 0xDC00 ≤ n ∧ n ≤ 0xDFFF then malformed .loneSurrogate
  else if 0xD800 ≤ n ∧ n ≤ 0xDBFF then
    surrogateMark '\\'.toUInt8
    surrogateMark 'u'.toUInt8
    let m ← hexEscape
    if 0xDC00 ≤ m ∧ m ≤ 0xDFFF then
      return Char.ofNat (0x10000 + (n - 0xD800) * 0x400 + (m - 0xDC00))
    else malformed .loneSurrogate
  else return Char.ofNat n

/-- What follows a backslash. -/
def escape : Reader Char := do
  match ← next with
  | none => unfinished .string
  | some b =>
    match shortEscape? b with
    | some c => return c
    | none => if b = 'u'.toUInt8 then unicodeEscape else malformed .invalidEscape

/-- The bytes of a string up to its closing quote, escapes replaced by what they stand for. -/
def stringBytes : Nat → List UInt8 → Reader (List UInt8)
  | 0, _ => unfinished .string
  | fuel + 1, seen => do
    match ← next with
    | none => unfinished .string
    | some b =>
      if b = '"'.toUInt8 then return seen.reverse
      else if b = '\\'.toUInt8 then
        let c ← escape
        stringBytes fuel ((Utf8.encodeChar c).reverse ++ seen)
      else if b < 0x20 then malformed .controlCharacter
      else stringBytes fuel (b :: seen)

/-- A string after its opening quote. -/
def string : Reader String := do
  let bytes ← stringBytes ((← remaining) + 1) []
  match Utf8.decode? bytes with
  | some s => return s
  | none => malformed .invalidCodePoint

end Reader

end GatewayFeed.Json
