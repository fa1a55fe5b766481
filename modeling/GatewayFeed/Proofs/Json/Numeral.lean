import GatewayFeed.Proofs.Json.Token

/-! Numbers are read as they are written: the digits of their parts, and as an integer if there is no
fraction and no exponent. -/

namespace GatewayFeed.Json

theorem isDigit_byte (d : Fin 10) : isDigit (Digits.byte d) = true := by
  revert d
  decide

theorem isBlank_digit (d : Fin 10) : Reader.isBlank (Digits.byte d) = false := by
  revert d
  decide

theorem toNat_byte_sub (d : Fin 10) : (Digits.byte d).toNat - 48 = d.val := by
  revert d
  decide

theorem byte_ne_sign (d : Fin 10) : Digits.byte d ≠ 0x2B ∧ Digits.byte d ≠ 0x2D := by
  revert d
  decide

/-- No other value starts like a number. -/
theorem digit_ne (d : Fin 10) : Digits.byte d ≠ 0x6E ∧ Digits.byte d ≠ 0x74 ∧ Digits.byte d ≠ 0x66 ∧
    Digits.byte d ≠ 0x22 ∧ Digits.byte d ≠ 0x5B ∧ Digits.byte d ≠ 0x7B ∧ Digits.byte d ≠ 0x2D := by
  revert d
  decide

theorem Stops.not_continues {rest : List UInt8} (h : Stops rest) :
    ∀ b ∈ rest.head?, isDigit b = false ∧ b ≠ 0x2E ∧ b ≠ 0x65 ∧ b ≠ 0x45 := by
  intro b hb
  simpa [continuesNumber, and_assoc] using h b hb

namespace Numeral

def fractionBytes (n : Numeral) : List UInt8 :=
  (n.fraction.map fun f => 0x2E :: Digits.bytes (f.1 :: f.2)).getD []

def exponentBytes (n : Numeral) : List UInt8 := (n.exponent.map Exponent.bytes).getD []

theorem magnitudeBytes_eq (n : Numeral) :
    n.magnitudeBytes = Digits.bytes n.whole.digits ++ (n.fractionBytes ++ n.exponentBytes) := rfl

theorem head_exponent (n : Numeral) {rest : List UInt8} (h : Stops rest) :
    ∀ b ∈ (n.exponentBytes ++ rest).head?, isDigit b = false ∧ b ≠ 0x2E := by
  unfold exponentBytes
  cases n.exponent with
  | none => exact fun b hb => ⟨(h.not_continues b hb).1, (h.not_continues b hb).2.1⟩
  | some e => cases hu : e.upper <;> simp [Exponent.bytes, hu] <;> decide

theorem head_fraction (n : Numeral) {rest : List UInt8} (h : Stops rest) :
    ∀ b ∈ (n.fractionBytes ++ (n.exponentBytes ++ rest)).head?, isDigit b = false := by
  unfold fractionBytes
  cases n.fraction with
  | none => exact fun b hb => (n.head_exponent h b hb).1
  | some f =>
    simp
    decide

/-- A number as its reader keeps it. -/
def literal (n : Numeral) : Literal where
  negative := n.negative
  whole := Digits.values n.whole.digits
  fraction := n.fraction.map fun f => Digits.values (f.1 :: f.2)
  exponent := n.exponent.map fun e => (e.sign = some .minus, Digits.values (e.first :: e.rest))

end Numeral

theorem le_foldl_digits (m : Nat) (ds : List Nat) : m ≤ ds.foldl (fun n d => n * 10 + d) m := by
  induction ds generalizing m with
  | nil => exact Nat.le_refl m
  | cons d ds ih => exact Nat.le_trans (by omega) (ih (m * 10 + d))

theorem Whole.value_pos {w : Whole} (h : w ≠ .zero) : 0 < w.value := by
  cases w with
  | zero => exact absurd rfl h
  | positive d hd ds =>
    have hd' : d.val ≠ 0 := fun he => hd (Fin.ext he)
    have hle := le_foldl_digits (0 * 10 + d.val) (Digits.values ds)
    change 0 < (Digits.values ds).foldl _ (0 * 10 + d.val)
    omega

/-- The integers that are kept exactly are those of 64 bits. -/
theorem Numeral.integer?_literal (n : Numeral) : n.literal.integer? =
    n.int?.filter fun i => -0x8000000000000000 ≤ i ∧ i < 0x10000000000000000 := by
  have hval : ofDigits n.literal.whole = n.whole.value := rfl
  unfold Literal.integer? Numeral.int?
  rw [hval]
  simp only [literal, Option.isSome_map]
  split
  · rfl
  by_cases hn : n.negative = true
  · by_cases hw : n.whole = .zero
    · simp [hn, hw, Whole.value, Whole.digits, Digits.values, ofDigits]
    · have hpos := Whole.value_pos hw
      simp only [hn, hw, if_true, if_false, Option.filter, Bool.and_eq_true, decide_eq_true_eq]
      congr 1
      simp only [eq_iff_iff]
      omega
  · simp only [hn, Bool.false_eq_true, if_false, Option.filter, decide_eq_true_eq, word64]
    congr 1
    simp only [eq_iff_iff]
    omega

namespace Reader

theorem takeWhile_digits (ds : Digits) {rest : List UInt8} (h : ∀ b ∈ rest.head?, isDigit b = false) :
    (Digits.bytes ds ++ rest).takeWhile isDigit = Digits.bytes ds ∧
      (Digits.bytes ds ++ rest).dropWhile isDigit = rest := by
  have hds : ∀ b ∈ Digits.bytes ds, isDigit b = true := by
    intro b hb
    obtain ⟨d, -, rfl⟩ := List.mem_map.1 hb
    exact isDigit_byte d
  rw [List.takeWhile_append_of_pos hds, List.dropWhile_append_of_pos hds]
  cases rest with
  | nil => simp
  | cons b rest =>
    have hb : isDigit b = false := h b rfl
    simp [hb]

theorem read?_digits (ds : Digits) {rest : List UInt8} (h : ∀ b ∈ rest.head?, isDigit b = false) :
    read? digits (Digits.bytes ds ++ rest) = some (Digits.values ds, rest) := by
  obtain ⟨ht, hd⟩ := takeWhile_digits ds h
  simp only [read?, digits, ht, hd]
  simp [Except.toOption, Digits.bytes, Digits.values, toNat_byte_sub]

theorem read?_someDigits (d : Fin 10) (ds : Digits) {rest : List UInt8}
    (h : ∀ b ∈ rest.head?, isDigit b = false) :
    read? someDigits (Digits.bytes (d :: ds) ++ rest) = some (Digits.values (d :: ds), rest) := by
  simp [someDigits, read?_digits (d :: ds) h]
  rfl

theorem read?_wholePart (w : Whole) {rest : List UInt8} (h : ∀ b ∈ rest.head?, isDigit b = false) :
    read? wholePart (Digits.bytes w.digits ++ rest) = some (Digits.values w.digits, rest) := by
  cases w with
  | zero =>
    simp [wholePart, Whole.digits, read?_someDigits 0 [] h]
    rfl
  | positive d hd ds =>
    have hd' : d.val ≠ 0 := fun he => hd (Fin.ext he)
    simp only [wholePart, Whole.digits, read?_bind, read?_someDigits d ds h, Option.bind_some]
    split
    · rename_i heq
      exact absurd (List.cons.inj heq).1 hd'
    · rfl

theorem read?_fractionPart (n : Numeral) {rest : List UInt8} (h : Stops rest) :
    read? fractionPart (n.fractionBytes ++ (n.exponentBytes ++ rest)) =
      some (n.literal.fraction, n.exponentBytes ++ rest) := by
  have hhead := n.head_exponent h
  cases hf : n.fraction with
  | none =>
    generalize n.exponentBytes ++ rest = rest at hhead ⊢
    have hdot : rest.head? ≠ some 0x2E := fun he => (hhead _ he).2 rfl
    simp [fractionPart, Numeral.fractionBytes, Numeral.literal, hf, Char.toUInt8, hdot]
  | some f =>
    have hd := read?_someDigits f.1 f.2 fun b hb => (hhead b hb).1
    simp [fractionPart, Numeral.fractionBytes, Numeral.literal, hf, Char.toUInt8, hd]

theorem read?_exponentPart (n : Numeral) {rest : List UInt8} (h : Stops rest) :
    read? exponentPart (n.exponentBytes ++ rest) = some (n.literal.exponent, rest) := by
  cases he : n.exponent with
  | none =>
    have hlow : rest.head? ≠ some 0x65 := fun he => (h.not_continues _ he).2.2.1 rfl
    have hup : rest.head? ≠ some 0x45 := fun he => (h.not_continues _ he).2.2.2 rfl
    simp [exponentPart, Numeral.exponentBytes, Numeral.literal, he, Char.toUInt8, hlow, hup]
  | some e =>
    obtain ⟨u, s, d, ds⟩ := e
    have hd := read?_someDigits d ds fun b hb => (h.not_continues b hb).1
    have hhead : (Digits.bytes (d :: ds) ++ rest)[0]? = some (Digits.byte d) := rfl
    generalize hds : Digits.bytes (d :: ds) ++ rest = bs at hd hhead
    rcases s with - | - | - <;> cases u <;>
      simp [exponentPart, Numeral.exponentBytes, Numeral.literal, he, Char.toUInt8, hds, hd, hhead,
        byte_ne_sign d, Exponent.bytes, Sign.byte]

theorem read?_literal (n : Numeral) {rest : List UInt8} (h : Stops rest) :
    read? (literal n.negative) (n.magnitudeBytes ++ rest) = some (n.literal, rest) := by
  rw [n.magnitudeBytes_eq, List.append_assoc, List.append_assoc]
  simp only [literal, read?_bind, read?_wholePart n.whole (n.head_fraction h), Option.bind_some,
    read?_fractionPart n h, read?_exponentPart n h, read?_pure]
  rfl

theorem head_magnitude (n : Numeral) (rest : List UInt8) :
    ∃ d, (n.magnitudeBytes ++ rest).head? = some (Digits.byte d) := by
  rw [n.magnitudeBytes_eq]
  cases n.whole with
  | zero => exact ⟨0, rfl⟩
  | positive d _ ds => exact ⟨d, rfl⟩

theorem read?_number (n : Numeral) {rest : List UInt8} (h : Stops rest) :
    read? number (n.bytes ++ rest) = n.literal.number?.map fun x => (x, rest) := by
  have hl := read?_literal n h
  obtain ⟨d, hd⟩ := head_magnitude n rest
  have hread : read? (literalNumber n.negative) (n.magnitudeBytes ++ rest) =
      n.literal.number?.map fun x => (x, rest) := by
    rw [literalNumber, read?_bind, hl]
    cases hn : n.literal.number? <;> simp [hn]
  cases hneg : n.negative with
  | true =>
    rw [hneg] at hread
    simp [number, Numeral.bytes, hneg, Char.toUInt8, hread]
  | false =>
    rw [hneg] at hread
    have hbytes : n.bytes = n.magnitudeBytes := by simp [Numeral.bytes, hneg]
    rw [hbytes]
    generalize n.magnitudeBytes ++ rest = bs at hd hread
    simp [number, Char.toUInt8, hd, (byte_ne_sign d).2, hread]

theorem read?_skipDigits (d : Fin 10) (ds : Digits) {rest : List UInt8}
    (h : ∀ b ∈ rest.head?, isDigit b = false) :
    read? skipDigits (Digits.bytes (d :: ds) ++ rest) = some ((), rest) := by
  simp [skipDigits, read?_digits (d :: ds) h]
  rfl

theorem bytes_numeral (n : Numeral) :
    ∃ c t, n.bytes = c :: t ∧ isBlank c = false ∧ (c = 0x2D ∨ isDigit c = true) := by
  obtain ⟨d, hd⟩ := head_magnitude n []
  rw [List.append_nil] at hd
  cases hneg : n.negative with
  | true => exact ⟨0x2D, n.magnitudeBytes, by simp [Numeral.bytes, hneg], by decide, .inl rfl⟩
  | false =>
    obtain ⟨t, ht⟩ := List.head?_eq_some_iff.1 hd
    exact ⟨Digits.byte d, t, by simp [Numeral.bytes, hneg, ht], isBlank_digit d, .inr (isDigit_byte d)⟩

/-- An integer between two bounds of 64 bits is read from its digits. -/
theorem read?_integer (e : Expected) {low high : Int} (hlow : -0x8000000000000000 ≤ low)
    (hhigh : high < 0x10000000000000000) (bs : Blanks) (n : Numeral) {rest : List UInt8}
    (h : Stops rest) :
    read? (integer e low high) (bs.bytes ++ (n.bytes ++ rest)) =
      (n.int?.filter fun i => low ≤ i ∧ i ≤ high).map fun i => (i, rest) := by
  have hnum := read?_number n h
  obtain ⟨c, t, hc, hblank, hstart⟩ := bytes_numeral n
  have hcond : (c = '-'.toUInt8 || isDigit c) = true := by
    rcases hstart with rfl | hd
    · rfl
    · simp [hd]
  rw [hc, List.cons_append] at hnum ⊢
  rw [integer, read?_bind, read?_valueStart bs hblank, Option.bind_some]
  simp only [hcond, if_true, read?_bind, hnum]
  have hint := n.integer?_literal
  cases hi : n.literal.integer? with
  | some i =>
    rw [hi] at hint
    obtain ⟨hi', -⟩ := Option.filter_eq_some_iff.1 hint.symm
    have hnumber : n.literal.number? = some (.integer i) := by simp [Literal.number?, hi]
    simp only [hnumber, hi', Option.map_some, Option.bind_some, read?_ite, Option.filter,
      decide_eq_true_eq]
    split <;> rfl
  | none =>
    have hnumber : n.literal.number? = n.literal.real?.map .real := by simp [Literal.number?, hi]
    have hnone : (n.int?.filter fun i => low ≤ i ∧ i ≤ high) = none := by
      rw [hi, eq_comm, Option.filter_eq_none_iff] at hint
      rw [Option.filter_eq_none_iff]
      intro i hn
      have := hint i hn
      simp only [decide_eq_true_eq] at this ⊢
      omega
    rw [hnumber, hnone]
    cases n.literal.real? <;> rfl

/-- What `skipNumber` does after the fraction. -/
def skipExponent : Reader Unit := do
  let b ← peek
  if b = some 'e'.toUInt8 || b = some 'E'.toUInt8 then
    skip
    let sign ← peek
    if sign = some '+'.toUInt8 || sign = some '-'.toUInt8 then skip
    skipDigits

theorem read?_skipExponent (n : Numeral) {rest : List UInt8} (h : Stops rest) :
    read? skipExponent (n.exponentBytes ++ rest) = some ((), rest) := by
  cases he : n.exponent with
  | none =>
    have hlow : rest.head? ≠ some 0x65 := fun he => (h.not_continues _ he).2.2.1 rfl
    have hup : rest.head? ≠ some 0x45 := fun he => (h.not_continues _ he).2.2.2 rfl
    simp [skipExponent, Numeral.exponentBytes, he, Char.toUInt8, hlow, hup]
  | some e =>
    obtain ⟨u, s, d, ds⟩ := e
    have hd := read?_skipDigits d ds fun b hb => (h.not_continues b hb).1
    have hhead : (Digits.bytes (d :: ds) ++ rest)[0]? = some (Digits.byte d) := rfl
    generalize hds : Digits.bytes (d :: ds) ++ rest = bs at hd hhead
    rcases s with - | - | - <;> cases u <;>
      simp [skipExponent, Numeral.exponentBytes, he, Char.toUInt8, hds, hd, hhead, byte_ne_sign d,
        Exponent.bytes, Sign.byte]

/-- What `skipNumber` does after the digits of the whole part. -/
def skipFraction : Reader Unit := do
  if (← peek) = some '.'.toUInt8 then
    skip
    skipDigits
  skipExponent

theorem read?_skipFraction (n : Numeral) {rest : List UInt8} (h : Stops rest) :
    read? skipFraction (n.fractionBytes ++ (n.exponentBytes ++ rest)) = some ((), rest) := by
  have hhead := n.head_exponent h
  have he := read?_skipExponent n h
  generalize n.exponentBytes ++ rest = bs at hhead he ⊢
  cases hf : n.fraction with
  | none =>
    have hdot : bs.head? ≠ some 0x2E := fun he => (hhead _ he).2 rfl
    simp [skipFraction, Numeral.fractionBytes, hf, Char.toUInt8, hdot, he]
  | some f =>
    have hd := read?_skipDigits f.1 f.2 fun b hb => (hhead b hb).1
    simp [skipFraction, Numeral.fractionBytes, hf, Char.toUInt8, hd, he]

theorem read?_skipNumber (n : Numeral) {rest : List UInt8} (h : Stops rest) :
    read? skipNumber (n.magnitudeBytes ++ rest) = some ((), rest) := by
  have hw := read?_digits n.whole.digits (n.head_fraction h)
  have hf := read?_skipFraction n h
  rw [n.magnitudeBytes_eq, List.append_assoc, List.append_assoc]
  rw [skipNumber, read?_bind, hw, Option.bind_some]
  cases hwhole : n.whole with
  | zero => exact hf
  | positive d hd ds =>
    have hd' : d.val ≠ 0 := fun he => hd (Fin.ext he)
    simp only [Whole.digits, Digits.values, List.map_cons]
    split
    · rename_i heq
      cases heq
    · rename_i heq
      exact absurd (List.cons.inj heq).1 hd'
    · exact hf

end Reader

end GatewayFeed.Json
