import GatewayFeed.Proofs.Json.Token

/-! Strings are read as they are spelled. A string that is read must denote a text; one that is
passed over need not. -/

namespace GatewayFeed.Json.Reader

open Spelling (isHighSurrogate isLowSurrogate paired plainBytes?)

variable {α : Type}

theorem hexDigit?_byte (d : HexDigit) : hexDigit? d.byte = some d.value.val := by
  obtain ⟨v, u⟩ := d
  revert v u
  decide

theorem read?_hexEscape (a b c d : HexDigit) (rest : List UInt8) :
    read? hexEscape (a.byte :: b.byte :: c.byte :: d.byte :: rest) =
      some (Piece.codeUnit a b c d, rest) := by
  simp only [read?, hexEscape, hexDigit?_byte]
  rfl

theorem shortEscape?_letter (e : Escape) : shortEscape? e.letter = some e.char := by
  cases e <;> decide

theorem shortEscape?_unit : shortEscape? 0x75 = none := by decide

theorem read?_surrogateMark (b c : UInt8) (rest : List UInt8) :
    read? (surrogateMark b) (c :: rest) = if c = b then some ((), rest) else none := by
  simp [surrogateMark]

theorem letter_ne_unit (e : Escape) : e.letter ≠ 0x75 := by cases e <;> decide

theorem isLowSurrogate_iff (n : Nat) : isLowSurrogate n = true ↔ 0xDC00 ≤ n ∧ n ≤ 0xDFFF := by
  simp [isLowSurrogate]

theorem isHighSurrogate_iff (n : Nat) : isHighSurrogate n = true ↔ 0xD800 ≤ n ∧ n ≤ 0xDBFF := by
  simp [isHighSurrogate]

/-- What a code unit is read as, before the pieces `ps`, and the pieces that are left. -/
def unitChar? (n : Nat) (ps : Spelling) : Option (Char × Spelling) :=
  if isLowSurrogate n then none
  else if isHighSurrogate n then
    match ps with
    | .unit a b c d :: ps =>
      if isLowSurrogate (Piece.codeUnit a b c d) then some (paired n (Piece.codeUnit a b c d), ps)
      else none
    | _ => none
  else some (Char.ofNat n, ps)

theorem read?_unicodeEscape (a b c d : HexDigit) (ps : Spelling) (rest : List UInt8) :
    read? unicodeEscape (a.byte :: b.byte :: c.byte :: d.byte :: (Spelling.bytes ps ++ rest)) =
      (unitChar? (Piece.codeUnit a b c d) ps).map fun x => (x.1, Spelling.bytes x.2 ++ rest) := by
  simp only [unicodeEscape, read?_bind, read?_hexEscape, Option.bind_some, read?_ite, read?_malformed,
    read?_pure, unitChar?, ← isLowSurrogate_iff, ← isHighSurrogate_iff]
  generalize Piece.codeUnit a b c d = n
  split
  · rfl
  split
  · match ps with
    | [] => simp [Spelling.bytes, read?_surrogateMark, Char.toUInt8]
    | .plain x hx :: ps => simp [Spelling.bytes, Piece.bytes, read?_surrogateMark, Char.toUInt8, hx.2.2]
    | .short e :: ps =>
      simp [Spelling.bytes, Piece.bytes, read?_surrogateMark, Char.toUInt8, letter_ne_unit]
    | .unit a' b' c' d' :: ps =>
      simp only [Spelling.bytes, Piece.bytes, List.cons_append, List.nil_append]
      simp [Char.toUInt8, read?_surrogateMark, read?_hexEscape]
      split <;> simp [paired]
  · rfl

theorem read?_escape_short (e : Escape) (rest : List UInt8) :
    read? escape (e.letter :: rest) = some (e.char, rest) := by
  simp [escape, shortEscape?_letter]

theorem read?_escape_unit (a b c d : HexDigit) (ps : Spelling) (rest : List UInt8) :
    read? escape (0x75 :: a.byte :: b.byte :: c.byte :: d.byte :: (Spelling.bytes ps ++ rest)) =
      (unitChar? (Piece.codeUnit a b c d) ps).map fun x => (x.1, Spelling.bytes x.2 ++ rest) := by
  simp [escape, shortEscape?_unit, Char.toUInt8, read?_unicodeEscape]

/-- What is spelled, by what the first code unit is read as. -/
theorem plainBytes?_unit (a b c d : HexDigit) (ps : Spelling) :
    plainBytes? (.unit a b c d :: ps) = (unitChar? (Piece.codeUnit a b c d) ps).bind fun x =>
      (plainBytes? x.2).map (Utf8.encodeChar x.1 ++ ·) := by
  by_cases hl : isLowSurrogate (Piece.codeUnit a b c d) = true
  · match ps with
    | [] | .plain _ _ :: _ | .short _ :: _ | .unit _ _ _ _ :: _ => simp [plainBytes?, unitChar?, hl]
  by_cases hh : isHighSurrogate (Piece.codeUnit a b c d) = true
  · match ps with
    | [] | .plain _ _ :: _ | .short _ :: _ => simp [plainBytes?, unitChar?, hl, hh]
    | .unit a' b' c' d' :: ps =>
      cases hm : isLowSurrogate (Piece.codeUnit a' b' c' d') <;> simp [plainBytes?, unitChar?, hl, hh, hm]
  · match ps with
    | [] | .plain _ _ :: _ | .short _ :: _ | .unit _ _ _ _ :: _ => simp [plainBytes?, unitChar?, hl, hh]

theorem length_of_unitChar? {n : Nat} {ps : Spelling} {x : Char × Spelling} (h : unitChar? n ps = some x) :
    x.2.length ≤ ps.length := by
  unfold unitChar? at h
  split at h
  · cases h
  split at h
  · split at h
    · split at h
      · obtain rfl := Option.some.inj h
        exact Nat.le_succ _
      · cases h
    · cases h
  · obtain rfl := Option.some.inj h
    exact Nat.le_refl ps.length

theorem read?_stringBytes {fuel : Nat} {ps : Spelling} (h : ps.length < fuel) (seen rest : List UInt8) :
    read? (stringBytes fuel seen) (Spelling.bytes ps ++ rest) =
      (plainBytes? ps).map fun t => (seen.reverse ++ t, rest) := by
  induction fuel generalizing ps seen with
  | zero => exact absurd h (Nat.not_lt_zero _)
  | succ fuel ih =>
    match ps with
    | [] => simp [stringBytes, Spelling.bytes, plainBytes?, Char.toUInt8]
    | .plain x hx :: ps =>
      have hps : ps.length < fuel := Nat.lt_of_succ_lt_succ h
      have hctl : ¬ x < 0x20 := UInt8.not_lt.2 hx.1
      simp [stringBytes, Spelling.bytes, Piece.bytes, plainBytes?, Char.toUInt8, hx.2.1, hx.2.2, hctl,
        ih hps, Function.comp_def]
    | .short e :: ps =>
      have hps : ps.length < fuel := Nat.lt_of_succ_lt_succ h
      simp [stringBytes, Spelling.bytes, Piece.bytes, plainBytes?, Char.toUInt8, read?_escape_short,
        ih hps, Function.comp_def]
    | .unit a b c d :: ps =>
      rw [plainBytes?_unit]
      simp [stringBytes, Spelling.bytes, Piece.bytes, Char.toUInt8, read?_escape_unit]
      cases hx : unitChar? (Piece.codeUnit a b c d) ps with
      | none => rfl
      | some x =>
        have hps : x.2.length < fuel :=
          Nat.lt_of_le_of_lt (length_of_unitChar? hx) (Nat.lt_of_succ_lt_succ h)
        simp [ih hps, Function.comp_def]

theorem length_bytes (ps : Spelling) : ps.length < (Spelling.bytes ps).length := by
  induction ps with
  | nil => simp [Spelling.bytes]
  | cons p ps ih =>
    have hp : 1 ≤ p.bytes.length := by cases p <;> simp [Piece.bytes]
    simp only [Spelling.bytes, List.length_cons, List.length_append]
    omega

/-- A string is read as the text that it denotes, and refused if it denotes none. -/
theorem read?_string (ps : Spelling) (rest : List UInt8) :
    read? string (Spelling.bytes ps ++ rest) = ps.text?.map fun s => (s, rest) := by
  have hfuel : ps.length < (Spelling.bytes ps ++ rest).length + 1 := by
    have := length_bytes ps
    rw [List.length_append]
    omega
  simp only [string, read?_bind, read?_remaining, Option.bind_some, read?_stringBytes hfuel, Spelling.text?]
  cases plainBytes? ps with
  | none => rfl
  | some t =>
    simp only [Option.map_some, Option.bind_some, List.reverse_nil, List.nil_append]
    cases Utf8.decode? t <;> rfl

theorem read?_skipString {fuel : Nat} {ps : Spelling} (h : ps.length < fuel) (rest : List UInt8) :
    read? (skipString fuel) (Spelling.bytes ps ++ rest) = some ((), rest) := by
  induction fuel generalizing ps with
  | zero => exact absurd h (Nat.not_lt_zero _)
  | succ fuel ih =>
    match ps with
    | [] => simp [skipString, Spelling.bytes, Char.toUInt8]
    | .plain x hx :: ps =>
      have hps : ps.length < fuel := Nat.lt_of_succ_lt_succ h
      have hctl : ¬ x < 0x20 := UInt8.not_lt.2 hx.1
      simp [skipString, Spelling.bytes, Piece.bytes, Char.toUInt8, hx.2.1, hx.2.2, hctl, ih hps]
    | .short e :: ps =>
      have hps : ps.length < fuel := Nat.lt_of_succ_lt_succ h
      simp [skipString, skipEscape, Spelling.bytes, Piece.bytes, Char.toUInt8, shortEscape?_letter, ih hps]
    | .unit a b c d :: ps =>
      have hps : ps.length < fuel := Nat.lt_of_succ_lt_succ h
      simp [skipString, skipEscape, Spelling.bytes, Piece.bytes, Char.toUInt8, shortEscape?_unit,
        read?_hexEscape, ih hps]

end GatewayFeed.Json.Reader
