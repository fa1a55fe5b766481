import GatewayFeed.Proofs.Json.Meaning
import GatewayFeed.Proofs.Json.PrintedNumber
import GatewayFeed.Proofs.Json.PrintedText

/-! The compact text of a value, as it is written: no blanks, every text and every integer as it is
printed. Reals are left out. -/

namespace GatewayFeed.Json

mutual

def written : Json → Written
  | .null => .null
  | .flag b => .flag b
  | .number (.integer n) => .number (.ofInt n)
  | .number (.real _) => .null
  | .text s => .text (.ofText s)
  | .array items => .array (writtenItems items) []
  | .object members => .object (writtenMembers members) []

def writtenItems : List Json → List (Padded Written)
  | [] => []
  | x :: xs => ⟨[], written x, []⟩ :: writtenItems xs

def writtenMembers : List (String × Json) → List (Member Written)
  | [] => []
  | (k, v) :: ms => ⟨[], .ofText k, [], ⟨[], written v, []⟩⟩ :: writtenMembers ms

end

mutual

/-- Whether a value has no reals. -/
def isExact : Json → Bool
  | .number (.real _) => false
  | .array items => areExact items
  | .object members => membersExact members
  | _ => true

def areExact : List Json → Bool
  | [] => true
  | x :: xs => isExact x && areExact xs

def membersExact : List (String × Json) → Bool
  | [] => true
  | (_, v) :: ms => isExact v && membersExact ms

end

theorem areExact_iff (xs : List Json) : areExact xs = true ↔ ∀ x ∈ xs, x.isExact = true := by
  induction xs with
  | nil => simp [areExact]
  | cons x xs ih => rw [areExact, Bool.and_eq_true, ih, List.forall_mem_cons]

theorem membersExact_iff (ms : List (String × Json)) :
    membersExact ms = true ↔ ∀ m ∈ ms, m.2.isExact = true := by
  induction ms with
  | nil => simp [membersExact]
  | cons m ms ih => rw [membersExact, Bool.and_eq_true, ih, List.forall_mem_cons]

open Written (itemsBytes membersBytes)

theorem encodeChar_punctuation : Utf8.encodeChar '[' = [0x5B] ∧ Utf8.encodeChar ']' = [0x5D] ∧
    Utf8.encodeChar '\x7b' = [0x7B] ∧ Utf8.encodeChar '\x7d' = [0x7D] ∧ Utf8.encodeChar ',' = [0x2C] ∧
    Utf8.encodeChar ':' = [0x3A] := by decide

mutual

/-- The compact text of a value is what `written` stands for. -/
theorem bytes_written : (v : Json) → v.isExact = true →
    (written v).bytes = Utf8.encodeChars (compactChars v)
  | .null, _ => by decide
  | .flag b, _ => by cases b <;> decide
  | .number (.integer n), _ => Numeral.bytes_ofInt n
  | .number (.real _), h => by cases h
  | .text s, _ => Spelling.bytes_ofText s
  | .array items, h => by
    obtain ⟨hopen, hclose, -⟩ := encodeChar_punctuation
    have hitems := bytes_writtenItems items h
    simp [written, Written.bytes, compactChars, hitems, hopen, hclose, Utf8.encodeChars]
  | .object members, h => by
    obtain ⟨-, -, hopen, hclose, -⟩ := encodeChar_punctuation
    have hmembers := bytes_writtenMembers members h
    simp [written, Written.bytes, compactChars, hmembers, hopen, hclose, Utf8.encodeChars]

theorem bytes_writtenItems : (xs : List Json) → areExact xs = true →
    itemsBytes true (writtenItems xs) = Utf8.encodeChars (compactItems xs)
  | [], _ => rfl
  | [x], h => by
    have hx := bytes_written x (by simpa [areExact] using h)
    simp [writtenItems, itemsBytes, Written.comma, compactItems, hx]
  | x :: y :: xs, h => by
    obtain ⟨hx, hxs⟩ := Bool.and_eq_true_iff.1 h
    obtain ⟨-, -, -, -, hcomma, -⟩ := encodeChar_punctuation
    have hrest : itemsBytes false (writtenItems (y :: xs)) =
        0x2C :: itemsBytes true (writtenItems (y :: xs)) := rfl
    rw [writtenItems, itemsBytes, hrest, bytes_written x hx, bytes_writtenItems (y :: xs) hxs]
    simp [Written.comma, compactItems, Utf8.encodeChars_append, Utf8.encodeChars_cons, hcomma]

theorem bytes_writtenMembers : (ms : List (String × Json)) → membersExact ms = true →
    membersBytes true (writtenMembers ms) = Utf8.encodeChars (compactMembers ms)
  | [], _ => rfl
  | [(k, v)], h => by
    obtain ⟨-, -, -, -, -, hcolon⟩ := encodeChar_punctuation
    have hv := bytes_written v (by simpa [membersExact] using h)
    have hk := Spelling.bytes_ofText k
    simp [writtenMembers, membersBytes, Written.comma, compactMembers, hv, hcolon, Utf8.encodeChars_append,
      Utf8.encodeChars_cons, ← hk]
  | (k, v) :: m :: ms, h => by
    obtain ⟨hv, hms⟩ := Bool.and_eq_true_iff.1 h
    obtain ⟨-, -, -, -, hcomma, hcolon⟩ := encodeChar_punctuation
    have hk := Spelling.bytes_ofText k
    have hrest : membersBytes false (writtenMembers (m :: ms)) =
        0x2C :: membersBytes true (writtenMembers (m :: ms)) := rfl
    rw [writtenMembers, membersBytes, hrest, bytes_written v hv, bytes_writtenMembers (m :: ms) hms]
    simp [Written.comma, compactMembers, hcomma, hcolon, Utf8.encodeChars_append, Utf8.encodeChars_cons, ← hk]

end

end GatewayFeed.Json
