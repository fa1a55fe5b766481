import GatewayFeed.Json.Number

/-!
Passing over a value that nobody asked for. It must be well formed, but its numbers may have any
size, its strings may hold any bytes and unpaired surrogates, and it may nest to any depth.
-/

namespace GatewayFeed.Json

/-- A list or an object that has been opened and not yet closed. -/
inductive Frame where
  | list
  | object
  deriving DecidableEq, Repr

def Frame.closing : Frame → UInt8
  | .list => 0x5D
  | .object => 0x7D

def Frame.unfinished : Frame → Unfinished
  | .list => .list
  | .object => .object

def Frame.missingComma : Frame → Malformed
  | .list => .expectedCommaInList
  | .object => .expectedCommaInObject

/-- What comes next: a value, the content of a container just opened, or what follows a value. -/
inductive Awaited where
  | value
  | content
  | rest
  deriving DecidableEq, Repr

namespace Reader

def skipEscape : Reader Unit := do
  match ← next with
  | none => unfinished .string
  | some b =>
    match shortEscape? b with
    | some _ => pure ()
    | none =>
      if b = 'u'.toUInt8 then
        let _ ← hexEscape
      else malformed .invalidEscape

/-- The rest of a string after its opening quote. -/
def skipString : Nat → Reader Unit
  | 0 => unfinished .string
  | fuel + 1 => do
    match ← next with
    | none => unfinished .string
    | some b =>
      if b = '"'.toUInt8 then pure ()
      else if b = '\\'.toUInt8 then
        skipEscape
        skipString fuel
      else if b < 0x20 then malformed .controlCharacter
      else skipString fuel

def skipDigits : Reader Unit := do
  match ← digits with
  | [] => malformed .invalidNumber
  | _ => pure ()

/-- Here the end of the input is as wrong as any other character. -/
def skipNumber : Reader Unit := do
  match ← digits with
  | [] => malformed .invalidNumber
  | 0 :: _ :: _ => malformed .invalidNumber
  | _ => pure ()
  if (← peek) = some '.'.toUInt8 then
    skip
    skipDigits
  let b ← peek
  if b = some 'e'.toUInt8 || b = some 'E'.toUInt8 then
    skip
    let sign ← peek
    if sign = some '+'.toUInt8 || sign = some '-'.toUInt8 then skip
    skipDigits

/-- A value that is no container, or the opening of a container. -/
def skipToken : Reader (Option Frame) := do
  match ← peekToken with
  | none => unfinished .value
  | some b =>
    if b = 'n'.toUInt8 then
      skip
      word ['u', 'l', 'l']
      return none
    else if b = 't'.toUInt8 then
      skip
      word ['r', 'u', 'e']
      return none
    else if b = 'f'.toUInt8 then
      skip
      word ['a', 'l', 's', 'e']
      return none
    else if b = '-'.toUInt8 then
      skip
      skipNumber
      return none
    else if isDigit b then
      skipNumber
      return none
    else if b = '"'.toUInt8 then
      skip
      skipString ((← remaining) + 1)
      return none
    else if b = '['.toUInt8 then
      skip
      return some .list
    else if b = 0x7B then
      skip
      return some .object
    else malformed .expectedValue

/-- The key of a member and its colon; the items of a list have none. -/
def skipKey : Frame → Reader Unit
  | .list => pure ()
  | .object => do
    match ← peekToken with
    | none => unfinished .object
    | some b =>
      if b = '"'.toUInt8 then
        skip
        skipString ((← remaining) + 1)
        colon
      else malformed .keyIsNoString

/-- One step inside the open frames, the innermost first; `none` when the value is complete. -/
def skipStep : List Frame → Awaited → Reader (Option (List Frame × Awaited))
  | frames, .value => do
    match ← skipToken with
    | some f => return some (f :: frames, .content)
    | none => return if frames.isEmpty then none else some (frames, .rest)
  | [], _ => return none
  | f :: frames, awaited => do
    match ← peekToken with
    | none => unfinished f.unfinished
    | some b =>
      if b = f.closing then
        skip
        return if frames.isEmpty then none else some (frames, .rest)
      else if awaited = .content then
        skipKey f
        return some (f :: frames, .value)
      else if b = ','.toUInt8 then
        skip
        skipKey f
        return some (f :: frames, .value)
      else malformed f.missingComma

def skipSteps : Nat → List Frame → Awaited → Reader Unit
  | 0, _, _ => unfinished .value
  | fuel + 1, frames, awaited => do
    match ← skipStep frames awaited with
    | none => pure ()
    | some (frames, awaited) => skipSteps fuel frames awaited

/-- Two steps at most go by without a byte being taken. -/
def skipValue : Reader Unit := do
  skipSteps (2 * (← remaining) + 2) [] .value

end Reader

end GatewayFeed.Json
