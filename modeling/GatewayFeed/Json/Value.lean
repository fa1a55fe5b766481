import GatewayFeed.Json.Record

/-!
Reading any JSON document. Containers nest to a fixed depth at most; of several members with one
key the last one counts.
-/

namespace GatewayFeed.Json

namespace Reader

/-- A value that is no container. -/
def scalar : Reader Json := do
  let b ← valueStart
  if b = 'n'.toUInt8 then
    skip
    word ['u', 'l', 'l']
    return .null
  else if b = 't'.toUInt8 || b = 'f'.toUInt8 then return .flag (← flag)
  else if b = '"'.toUInt8 then return .text (← text)
  else if b = '-'.toUInt8 || isDigit b then return .number (← number)
  else malformed .expectedValue

/-- A value of at most `depth` levels of containers. -/
def value : Nat → Reader Json
  | 0 => do
    let b ← valueStart
    if b = '['.toUInt8 || b = 0x7B then malformed .tooDeep else scalar
  | depth + 1 => do
    let b ← valueStart
    if b = '['.toUInt8 then return .array (← list (value depth))
    else if b = 0x7B then return ofMembers (← map (value depth))
    else scalar

end Reader

/-- Levels of containers in a document. -/
def maxDepth : Nat := 127

def parse (text : String) : Except Fault Json :=
  Reader.document (Reader.value maxDepth) (Utf8.encode text)

end GatewayFeed.Json
