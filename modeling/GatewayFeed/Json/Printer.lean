import GatewayFeed.Json.Number

/-!
JSON text of a value, compact or with an indent of two blanks. Text is escaped no more than JSON
asks for.
-/

namespace GatewayFeed.Json

def controlEscape (c : Char) : List Char :=
  ['\\', 'u', '0', '0'] ++ [Nat.digitChar (c.toNat / 16), Nat.digitChar (c.toNat % 16)]

def escapedChar (c : Char) : List Char :=
  if c = '"' then ['\\', '"']
  else if c = '\\' then ['\\', '\\']
  else if c = '\x08' then ['\\', 'b']
  else if c = '\x0c' then ['\\', 'f']
  else if c = '\n' then ['\\', 'n']
  else if c = '\r' then ['\\', 'r']
  else if c = '\t' then ['\\', 't']
  else if c.toNat < 0x20 then controlEscape c
  else [c]

def textChars (s : String) : List Char := '"' :: s.toList.flatMap escapedChar ++ ['"']

def integerChars : Int → List Char
  | .ofNat n => Nat.toDigits 10 n
  | .negSucc n => '-' :: Nat.toDigits 10 (n + 1)

def Number.chars : Number → List Char
  | .integer n => integerChars n
  | .real x => (realLayout.write x).toList

def flagChars (b : Bool) : List Char := if b then "true".toList else "false".toList

mutual

def compactChars : Json → List Char
  | .null => "null".toList
  | .flag b => flagChars b
  | .number n => n.chars
  | .text s => textChars s
  | .array items => '[' :: compactItems items ++ [']']
  | .object members => '\x7b' :: compactMembers members ++ ['\x7d']

def compactItems : List Json → List Char
  | [] => []
  | [x] => compactChars x
  | x :: xs => compactChars x ++ ',' :: compactItems xs

def compactMembers : List (String × Json) → List Char
  | [] => []
  | [(k, v)] => textChars k ++ ':' :: compactChars v
  | (k, v) :: ms => textChars k ++ ':' :: compactChars v ++ ',' :: compactMembers ms

end

def compact (v : Json) : String := String.ofList (compactChars v)

def newLine (indent : Nat) : List Char := '\n' :: List.replicate (2 * indent) ' '

mutual

/-- Lines after the first start `indent` steps to the right. -/
def prettyChars (indent : Nat) : Json → List Char
  | .null => "null".toList
  | .flag b => flagChars b
  | .number n => n.chars
  | .text s => textChars s
  | .array [] => "[]".toList
  | .array items => '[' :: prettyItems (indent + 1) items ++ newLine indent ++ [']']
  | .object [] => ['\x7b', '\x7d']
  | .object members =>
    '\x7b' :: prettyMembers (indent + 1) members ++ newLine indent ++ ['\x7d']

def prettyItems (indent : Nat) : List Json → List Char
  | [] => []
  | [x] => newLine indent ++ prettyChars indent x
  | x :: xs => newLine indent ++ prettyChars indent x ++ ',' :: prettyItems indent xs

def prettyMembers (indent : Nat) : List (String × Json) → List Char
  | [] => []
  | [(k, v)] => newLine indent ++ textChars k ++ ':' :: ' ' :: prettyChars indent v
  | (k, v) :: ms =>
    newLine indent ++ textChars k ++ ':' :: ' ' :: prettyChars indent v
      ++ ',' :: prettyMembers indent ms

end

def pretty (v : Json) : String := String.ofList (prettyChars 0 v)

end GatewayFeed.Json
