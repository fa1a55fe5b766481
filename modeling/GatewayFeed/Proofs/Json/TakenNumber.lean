import GatewayFeed.Proofs.Json.TakenText

/-! What the readers of numbers have taken: a numeral, in the order of its parts. -/

namespace GatewayFeed.Json.Reader

variable {bs rest : List UInt8}

theorem exists_digit {b : UInt8} (h : isDigit b = true) : ∃ d : Fin 10, Digits.byte d = b := by
  have hall : ∀ m : Fin 256, isDigit (UInt8.ofNat m) = true → ∃ d, Digits.byte d = UInt8.ofNat m := by
    decide +kernel
  obtain ⟨d, hd⟩ := hall ⟨b.toNat, b.toNat_lt⟩ (by simpa using h)
  exact ⟨d, by simpa using hd⟩

theorem exists_digits_eq (h : ∀ b ∈ bs, isDigit b = true) : ∃ ds : Digits, Digits.bytes ds = bs := by
  induction bs with
  | nil => exact ⟨[], rfl⟩
  | cons b bs ih =>
    obtain ⟨d, hd⟩ := exists_digit (h b List.mem_cons_self)
    obtain ⟨ds, hds⟩ := ih fun b hb => h b (List.mem_cons_of_mem _ hb)
    exact ⟨d :: ds, by rw [← hd, ← hds]; rfl⟩

theorem exists_of_digits {ns : List Nat} (h : read? digits bs = some (ns, rest)) :
    ∃ ds : Digits, bs = Digits.bytes ds ++ rest ∧ ns = Digits.values ds := by
  obtain ⟨ds, hds⟩ := exists_digits_eq fun b hb => List.mem_takeWhile_imp (p := isDigit) (l := bs) hb
  cases h
  refine ⟨ds, by rw [hds, List.takeWhile_append_dropWhile], ?_⟩
  rw [← hds, Digits.bytes, Digits.values, List.map_map]
  exact List.map_congr_left fun d _ => toNat_byte_sub d

theorem exists_of_someDigits {ns : List Nat} (h : read? someDigits bs = some (ns, rest)) :
    ∃ d ds, bs = Digits.bytes (d :: ds) ++ rest ∧ ns = Digits.values (d :: ds) := by
  obtain ⟨ms, t, hdigits, hms⟩ := exists_of_read?_bind h
  obtain ⟨ds, rfl, rfl⟩ := exists_of_digits hdigits
  cases ds with
  | nil =>
    cases t <;> cases hms
  | cons d ds =>
    cases hms
    exact ⟨d, ds, rfl, rfl⟩

theorem exists_of_skipDigits {u : Unit} (h : read? skipDigits bs = some (u, rest)) :
    ∃ d ds, bs = Digits.bytes (d :: ds) ++ rest := by
  obtain ⟨ms, t, hdigits, hms⟩ := exists_of_read?_bind h
  obtain ⟨ds, rfl, rfl⟩ := exists_of_digits hdigits
  cases ds with
  | nil => cases hms
  | cons d ds =>
    cases hms
    exact ⟨d, ds, rfl⟩

/-- Digits without a leading zero are those of a whole number. -/
theorem exists_whole {d : Fin 10} {ds : Digits} (h : d = 0 → ds = []) : ∃ w : Whole, w.digits = d :: ds := by
  by_cases hd : d = 0
  · exact ⟨.zero, by rw [h hd, hd]; rfl⟩
  · exact ⟨.positive d hd ds, rfl⟩

theorem exists_of_wholePart {ns : List Nat} (h : read? wholePart bs = some (ns, rest)) :
    ∃ w : Whole, bs = Digits.bytes w.digits ++ rest := by
  obtain ⟨ms, t, hdigits, hms⟩ := exists_of_read?_bind h
  obtain ⟨d, ds, rfl, rfl⟩ := exists_of_someDigits hdigits
  have hlead : d = 0 → ds = [] := by
    rintro rfl
    cases ds with
    | nil => rfl
    | cons e ds => cases hms
  obtain ⟨w, hw⟩ := exists_whole hlead
  refine ⟨w, ?_⟩
  rw [hw]
  split at hms
  · cases hms
  · cases hms
    rfl

/-- A point and digits, if there is a point. -/
theorem exists_of_fractionPart {ns : Option (List Nat)} (h : read? fractionPart bs = some (ns, rest)) :
    ∃ f : Option (Fin 10 × Digits), bs = (f.map fun f => 0x2E :: Digits.bytes (f.1 :: f.2)).getD [] ++ rest := by
  obtain ⟨b, t, hpeek, hb⟩ := exists_of_read?_bind h
  cases hpeek
  rw [read?_ite] at hb
  split at hb
  · rename_i hdot
    obtain ⟨t, rfl⟩ := List.head?_eq_some_iff.1 hdot
    rw [read?_skip_bind] at hb
    obtain ⟨ds, t', hdigits, hdone⟩ := exists_of_read?_bind hb
    cases hdone
    obtain ⟨d, ds, rfl, -⟩ := exists_of_someDigits hdigits
    exact ⟨some (d, ds), rfl⟩
  · cases hb
    exact ⟨none, rfl⟩

theorem exists_sign (h : (bs.head? = some '+'.toUInt8 || bs.head? = some '-'.toUInt8) = true) :
    ∃ (s : Sign) (t : List UInt8), bs = s.byte :: t := by
  rw [Bool.or_eq_true, decide_eq_true_eq, decide_eq_true_eq] at h
  rcases h with h | h
  · obtain ⟨t, rfl⟩ := List.head?_eq_some_iff.1 h
    exact ⟨.plus, t, rfl⟩
  · obtain ⟨t, rfl⟩ := List.head?_eq_some_iff.1 h
    exact ⟨.minus, t, rfl⟩

/-- The letter of an exponent, in either case. -/
theorem exists_exponentMark (h : (bs.head? = some 'e'.toUInt8 || bs.head? = some 'E'.toUInt8) = true) :
    ∃ (upper : Bool) (t : List UInt8), bs = (if upper then 0x45 else 0x65) :: t := by
  rw [Bool.or_eq_true, decide_eq_true_eq, decide_eq_true_eq] at h
  rcases h with h | h
  · obtain ⟨t, rfl⟩ := List.head?_eq_some_iff.1 h
    exact ⟨false, t, rfl⟩
  · obtain ⟨t, rfl⟩ := List.head?_eq_some_iff.1 h
    exact ⟨true, t, rfl⟩

/-- A sign, if there is one, and what is behind it. -/
theorem exists_of_sign {α : Type} {k : Option UInt8 → Reader α} {x : α × List UInt8}
    (h : read? (do
      let sign ← peek
      if sign = some '+'.toUInt8 || sign = some '-'.toUInt8 then skip
      k sign) bs = some x) :
    ∃ (s : Option Sign) (b : Option UInt8) (t : List UInt8),
      bs = (s.map Sign.byte).toList ++ t ∧ read? (k b) t = some x := by
  obtain ⟨b, t, hpeek, hb⟩ := exists_of_read?_bind h
  cases hpeek
  rw [read?_ite] at hb
  split at hb
  · rename_i hsign
    obtain ⟨s, t, rfl⟩ := exists_sign hsign
    exact ⟨some s, _, t, rfl, hb⟩
  · exact ⟨none, _, bs, rfl, hb⟩

theorem exists_of_exponentPart {x : Option (Bool × List Nat)} (h : read? exponentPart bs = some (x, rest)) :
    ∃ e : Option Exponent, bs = (e.map Exponent.bytes).getD [] ++ rest := by
  obtain ⟨b, t, hpeek, hb⟩ := exists_of_read?_bind h
  cases hpeek
  rw [read?_ite] at hb
  split at hb
  · rename_i hmark
    obtain ⟨upper, t, rfl⟩ := exists_exponentMark hmark
    rw [read?_skip_bind] at hb
    obtain ⟨s, b, t, rfl, hsign⟩ := exists_of_sign hb
    obtain ⟨ds, t', hdigits, hdone⟩ := exists_of_read?_bind hsign
    cases hdone
    obtain ⟨d, ds, rfl, -⟩ := exists_of_someDigits hdigits
    exact ⟨some ⟨upper, s, d, ds⟩, by simp [Exponent.bytes]⟩
  · cases hb
    exact ⟨none, rfl⟩

theorem exists_of_literal {negative : Bool} {l : Literal} (h : read? (literal negative) bs = some (l, rest)) :
    ∃ n : Numeral, n.negative = negative ∧ bs = n.magnitudeBytes ++ rest := by
  obtain ⟨ws, t, hwhole, hrest⟩ := exists_of_read?_bind h
  obtain ⟨fs, t', hfraction, hrest⟩ := exists_of_read?_bind hrest
  obtain ⟨es, t'', hexponent, hdone⟩ := exists_of_read?_bind hrest
  cases hdone
  obtain ⟨w, rfl⟩ := exists_of_wholePart hwhole
  obtain ⟨f, rfl⟩ := exists_of_fractionPart hfraction
  obtain ⟨e, rfl⟩ := exists_of_exponentPart hexponent
  refine ⟨⟨negative, w, f, e⟩, rfl, ?_⟩
  rw [Numeral.magnitudeBytes, List.append_assoc, List.append_assoc]

theorem exists_of_literalNumber {negative : Bool} {x : Number}
    (h : read? (literalNumber negative) bs = some (x, rest)) :
    ∃ n : Numeral, n.negative = negative ∧ bs = n.magnitudeBytes ++ rest := by
  obtain ⟨l, t, hliteral, hl⟩ := exists_of_read?_bind h
  obtain rfl : t = rest := by
    split at hl
    · cases hl
      rfl
    · cases hl
  exact exists_of_literal hliteral

theorem exists_of_number {x : Number} (h : read? number bs = some (x, rest)) :
    ∃ n : Numeral, bs = n.bytes ++ rest := by
  obtain ⟨b, t, hpeek, hb⟩ := exists_of_read?_bind h
  cases hpeek
  rw [read?_ite] at hb
  split at hb
  · rename_i hminus
    obtain ⟨t, rfl⟩ := List.head?_eq_some_iff.1 hminus
    obtain ⟨n, hn, ht⟩ := exists_of_literalNumber hb
    refine ⟨n, ?_⟩
    rw [Numeral.bytes, if_pos hn, List.cons_append, ← ht]
    rfl
  · obtain ⟨n, hn, rfl⟩ := exists_of_literalNumber hb
    exact ⟨n, by simp [Numeral.bytes, hn]⟩

theorem takes_integer (e : Expected) (low high : Int) : Takes (integer e low high) := by
  intro bs i rest h
  obtain ⟨before, c, t, rfl, hc⟩ := exists_of_valueStart h
  rw [read?_ite] at hc
  split at hc
  · obtain ⟨x, t', hnumber, hx⟩ := exists_of_read?_bind hc
    obtain ⟨n, hn⟩ := exists_of_number hnumber
    obtain rfl : t' = rest := by
      cases x with
      | integer i =>
        rw [read?_ite] at hx
        split at hx
        · cases hx
          rfl
        · cases hx
      | real x => cases hx
    exact ⟨before, .number n, by rw [hn]; rfl⟩
  · cases (read?_wrongType ..).symm.trans hc

theorem takes_int64 : Takes int64 := Takes.map (takes_integer _ _ _) Int64.ofInt

theorem takes_int32 : Takes int32 := Takes.map (takes_integer _ _ _) Int32.ofInt

theorem exists_of_skipExponent {u : Unit} (h : read? skipExponent bs = some (u, rest)) :
    ∃ e : Option Exponent, bs = (e.map Exponent.bytes).getD [] ++ rest := by
  obtain ⟨b, t, hpeek, hb⟩ := exists_of_read?_bind h
  cases hpeek
  rw [read?_ite] at hb
  split at hb
  · rename_i hmark
    obtain ⟨upper, t, rfl⟩ := exists_exponentMark hmark
    rw [read?_skip_bind] at hb
    obtain ⟨s, b, t, rfl, hdigits⟩ := exists_of_sign hb
    obtain ⟨d, ds, rfl⟩ := exists_of_skipDigits hdigits
    exact ⟨some ⟨upper, s, d, ds⟩, by simp [Exponent.bytes]⟩
  · cases hb
    exact ⟨none, rfl⟩

theorem exists_of_skipFraction {u : Unit} (h : read? skipFraction bs = some (u, rest)) :
    ∃ (f : Option (Fin 10 × Digits)) (e : Option Exponent),
      bs = (f.map fun f => 0x2E :: Digits.bytes (f.1 :: f.2)).getD []
        ++ ((e.map Exponent.bytes).getD [] ++ rest) := by
  obtain ⟨b, t, hpeek, hb⟩ := exists_of_read?_bind h
  cases hpeek
  rw [read?_ite] at hb
  split at hb
  · rename_i hdot
    obtain ⟨t, rfl⟩ := List.head?_eq_some_iff.1 hdot
    rw [read?_skip_bind] at hb
    obtain ⟨_, t', hdigits, hexponent⟩ := exists_of_read?_bind hb
    obtain ⟨d, ds, rfl⟩ := exists_of_skipDigits hdigits
    obtain ⟨e, rfl⟩ := exists_of_skipExponent hexponent
    exact ⟨some (d, ds), e, rfl⟩
  · obtain ⟨e, rfl⟩ := exists_of_skipExponent hb
    exact ⟨none, e, rfl⟩

theorem exists_of_skipNumber {u : Unit} (h : read? skipNumber bs = some (u, rest)) (negative : Bool) :
    ∃ n : Numeral, n.negative = negative ∧ bs = n.magnitudeBytes ++ rest := by
  obtain ⟨ms, t, hdigits, hms⟩ := exists_of_read?_bind h
  obtain ⟨ds, rfl, rfl⟩ := exists_of_digits hdigits
  obtain ⟨w, hw, hfraction⟩ : ∃ w : Whole, w.digits = ds ∧ read? skipFraction t = some (u, rest) := by
    cases ds with
    | nil => cases hms
    | cons d ds =>
      have hlead : d = 0 → ds = [] := by
        rintro rfl
        cases ds with
        | nil => rfl
        | cons e ds => cases hms
      obtain ⟨w, hw⟩ := exists_whole hlead
      refine ⟨w, hw, ?_⟩
      simp only [Digits.values, List.map_cons] at hms
      split at hms
      · cases hms
      · cases hms
      · exact hms
  obtain ⟨f, e, rfl⟩ := exists_of_skipFraction hfraction
  refine ⟨⟨negative, w, f, e⟩, rfl, ?_⟩
  rw [Numeral.magnitudeBytes, List.append_assoc, List.append_assoc, hw]

end GatewayFeed.Json.Reader
