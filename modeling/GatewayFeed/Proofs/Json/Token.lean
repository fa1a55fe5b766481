import GatewayFeed.Json.Record
import GatewayFeed.Proofs.Json.Written

/-! What the smallest readers make of JSON text. `Reader.read?` forgets why an input is refused, so
that the readers compose as partial functions on the input. -/

namespace GatewayFeed.Json

/-- Whether a number could go on with this byte. -/
def continuesNumber (b : UInt8) : Bool := isDigit b || b = 0x2E || b = 0x65 || b = 0x45

/-- A number before this input ends there. -/
def Stops (rest : List UInt8) : Prop := ∀ b ∈ rest.head?, continuesNumber b = false

@[simp] theorem stops_nil : Stops [] := by simp [Stops]

@[simp] theorem stops_cons (b : UInt8) (rest : List UInt8) :
    Stops (b :: rest) ↔ continuesNumber b = false := by simp [Stops]

theorem Blank.continuesNumber_byte (b : Blank) : continuesNumber b.byte = false := by
  cases b <;> decide

theorem Blanks.stops_append (bs : Blanks) {rest : List UInt8} (h : Stops rest) :
    Stops (bs.bytes ++ rest) := by
  cases bs with
  | nil => exact h
  | cons b bs => simp [Blanks.bytes, b.continuesNumber_byte]

namespace Reader

variable {α β τ : Type}

/-- What a reader makes of an input, and what it leaves of it. -/
def read? (p : Reader α) (bs : List UInt8) : Option (α × List UInt8) := (p bs).toOption

@[simp] theorem read?_pure (x : α) (bs : List UInt8) : read? (pure x) bs = some (x, bs) := rfl

@[simp] theorem read?_bind (p : Reader α) (q : α → Reader β) (bs : List UInt8) :
    read? (p >>= q) bs = (read? p bs).bind fun x => read? (q x.1) x.2 := by
  change ((p bs).bind fun x => q x.1 x.2).toOption = _
  unfold read?
  cases p bs <;> rfl

@[simp] theorem read?_map (f : α → β) (p : Reader α) (bs : List UInt8) :
    read? (f <$> p) bs = (read? p bs).map fun x => (f x.1, x.2) := by
  change ((p bs).bind fun x => .ok (f x.1, x.2)).toOption = _
  unfold read?
  cases p bs <;> rfl

@[simp] theorem read?_unfinished (u : Unfinished) (bs : List UInt8) :
    read? (unfinished u : Reader α) bs = none := rfl

@[simp] theorem read?_malformed (m : Malformed) (bs : List UInt8) :
    read? (malformed m : Reader α) bs = none := rfl

@[simp] theorem read?_mismatch (m : Mismatch) (bs : List UInt8) :
    read? (mismatch m : Reader α) bs = none := rfl

@[simp] theorem read?_peek (bs : List UInt8) : read? peek bs = some (bs.head?, bs) := rfl

@[simp] theorem read?_next (bs : List UInt8) : read? next bs = some (bs.head?, bs.tail) := rfl

@[simp] theorem read?_skip (bs : List UInt8) : read? skip bs = some ((), bs.tail) := rfl

@[simp] theorem read?_remaining (bs : List UInt8) : read? remaining bs = some (bs.length, bs) := rfl

@[simp] theorem read?_ite (c : Prop) [Decidable c] (p q : Reader α) (bs : List UInt8) :
    read? (if c then p else q) bs = if c then read? p bs else read? q bs := by split <;> rfl

/-- Whatever stands in the input, it is not what was expected. -/
@[simp] theorem read?_wrongType (e : Expected) (bs : List UInt8) :
    read? (wrongType e : Reader α) bs = none := by simp [wrongType]

theorem isBlank_byte (b : Blank) : isBlank b.byte = true := by cases b <;> decide

theorem dropWhile_blanks (bs : Blanks) (rest : List UInt8) :
    (bs.bytes ++ rest).dropWhile isBlank = rest.dropWhile isBlank := by
  refine List.dropWhile_append_of_pos fun b hb => ?_
  obtain ⟨c, -, rfl⟩ := List.mem_map.1 hb
  exact isBlank_byte c

/-- A token is found behind any blanks. -/
theorem read?_peekToken (bs : Blanks) {c : UInt8} (hc : isBlank c = false) (rest : List UInt8) :
    read? peekToken (bs.bytes ++ c :: rest) = some (some c, c :: rest) := by
  unfold read? peekToken
  rw [dropWhile_blanks, List.dropWhile_cons_of_neg (by simp [hc])]
  rfl

theorem read?_peekToken_nil (bs : Blanks) : read? peekToken bs.bytes = some (none, []) := by
  have h := dropWhile_blanks bs []
  rw [List.append_nil] at h
  unfold read? peekToken
  rw [h]
  rfl

theorem read?_valueStart (bs : Blanks) {c : UInt8} (hc : isBlank c = false) (rest : List UInt8) :
    read? valueStart (bs.bytes ++ c :: rest) = some (c, c :: rest) := by
  simp [valueStart, read?_peekToken bs hc]

theorem read?_word (cs : List Char) (rest : List UInt8) :
    read? (word cs) (cs.map Char.toUInt8 ++ rest) = some ((), rest) := by
  induction cs with
  | nil => rfl
  | cons c cs ih => simp [word, ih]

theorem read?_endOfInput (bs : Blanks) : read? endOfInput bs.bytes = some ((), []) := by
  simp [endOfInput, read?_peekToken_nil]

theorem read?_colon (bs : Blanks) (rest : List UInt8) :
    read? colon (bs.bytes ++ 0x3A :: rest) = some ((), rest) := by
  simp [colon, Char.toUInt8, read?_peekToken bs (show isBlank 0x3A = false by decide)]

end Reader

end GatewayFeed.Json
