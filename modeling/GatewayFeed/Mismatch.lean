import GatewayFeed.Text.Quoted

/-!
Disagreements between a value that was found in a document and the type that was expected there,
and the words that report them.
-/

namespace GatewayFeed

inductive Expected where
  | int64
  | int32
  | natural64
  | natural32
  | text
  | flag
  | sequence
  | map
  | record (name : String)
  deriving DecidableEq, Repr

def Expected.words : Expected → String
  | .int64 => "i64"
  | .int32 => "i32"
  | .natural64 => "u64"
  | .natural32 => "u32"
  | .text => "a string"
  | .flag => "a boolean"
  | .sequence => "a sequence"
  | .map => "a map"
  | .record name => "struct " ++ name

/-- What a value is; a number with a fraction comes as it is written. -/
inductive Found where
  | null
  | flag (b : Bool)
  | integer (n : Int)
  | real (text : String)
  | text (s : String)
  | sequence
  | map
  deriving DecidableEq, Repr

def Found.words : Found → String
  | .null => "null"
  | .flag b => "boolean `" ++ (if b then "true" else "false") ++ "`"
  | .integer n => "integer `" ++ toString n ++ "`"
  | .real t => "floating point `" ++ t ++ "`"
  | .text s => "string " ++ Text.quoted s
  | .sequence => "sequence"
  | .map => "map"

inductive Mismatch where
  | wrongType (found : Found) (expected : Expected)
  /-- An integer outside the range of the expected type. -/
  | wrongValue (n : Int) (expected : Expected)
  /-- A sequence of `length` values for a record of `fields`. -/
  | wrongLength (length : Nat) (record : String) (fields : Nat)
  | missingField (key : String)
  | duplicateField (key : String)
  deriving DecidableEq, Repr

def Mismatch.message : Mismatch → String
  | .wrongType f e => "invalid type: " ++ f.words ++ ", expected " ++ e.words
  | .wrongValue n e => "invalid value: " ++ (Found.integer n).words ++ ", expected " ++ e.words
  | .wrongLength n r k =>
    "invalid length " ++ toString n ++ ", expected struct " ++ r ++ " with " ++ toString k
      ++ (if k = 1 then " element" else " elements")
  | .missingField k => "missing field `" ++ k ++ "`"
  | .duplicateField k => "duplicate field `" ++ k ++ "`"

end GatewayFeed
