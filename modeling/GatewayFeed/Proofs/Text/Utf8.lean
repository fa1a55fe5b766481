import GatewayFeed.Text.Utf8

/-! Decoding takes back what encoding wrote, character by character, whatever bytes follow. -/

namespace GatewayFeed.Utf8

/-- A character is no surrogate. -/
theorem toNat_lt (c : Char) : c.toNat < 0xD800 ∨ (0xDFFF < c.toNat ∧ c.toNat < 0x110000) := by
  have h := c.valid
  simp only [UInt32.isValidChar, Nat.isValidChar] at h
  exact h

theorem toNat_byte {n : Nat} (h : n < 256) : (UInt8.ofNat n).toNat = n := UInt8.toNat_ofNat_of_lt' h

theorem byte_lt_iff {n : Nat} (h : n < 256) (b : UInt8) : UInt8.ofNat n < b ↔ n < b.toNat := by
  rw [UInt8.lt_iff_toNat_lt, toNat_byte h]

theorem toNat_tail (n : Nat) : (tail n).toNat = 0x80 + n % 64 := toNat_byte (by omega)

theorem tail_lt_iff (n : Nat) (b : UInt8) : tail n < b ↔ 0x80 + n % 64 < b.toNat := by
  rw [UInt8.lt_iff_toNat_lt, toNat_tail]

theorem le_tail_iff (n : Nat) (b : UInt8) : b ≤ tail n ↔ b.toNat ≤ 0x80 + n % 64 := by
  rw [UInt8.le_iff_toNat_le, toNat_tail]

theorem isTail_tail (n : Nat) : isTail (tail n) = true := by
  have : n % 64 < 64 := Nat.mod_lt _ (by decide)
  simp only [isTail, Bool.and_eq_true, decide_eq_true_iff, le_tail_iff, tail_lt_iff, UInt8.reduceToNat]
  omega

/-- The second byte of a character of three bytes. -/
theorem isSecond_three {n : Nat} (h : 0x800 ≤ n) (h' : n < 0xD800 ∨ 0xDFFF < n) (hn : n < 0x10000) :
    isSecond (UInt8.ofNat (0xE0 + n / 4096)) (tail (n / 64)) = true := by
  have ha := toNat_byte (n := 0xE0 + n / 4096) (by omega)
  simp only [isSecond, second, ← UInt8.toNat_inj, ha, UInt8.reduceToNat, Bool.and_eq_true,
    decide_eq_true_iff, le_tail_iff, tail_lt_iff]
  split
  · simp only [UInt8.reduceToNat]; omega
  split
  · simp only [UInt8.reduceToNat]; omega
  split
  · omega
  split
  · omega
  · simp only [UInt8.reduceToNat]; omega

/-- The second byte of a character of four bytes. -/
theorem isSecond_four {n : Nat} (h : 0x10000 ≤ n) (hn : n < 0x110000) :
    isSecond (UInt8.ofNat (0xF0 + n / 262144)) (tail (n / 4096)) = true := by
  have ha := toNat_byte (n := 0xF0 + n / 262144) (by omega)
  simp only [isSecond, second, ← UInt8.toNat_inj, ha, UInt8.reduceToNat, Bool.and_eq_true,
    decide_eq_true_iff, le_tail_iff, tail_lt_iff]
  split
  · omega
  split
  · omega
  split
  · simp only [UInt8.reduceToNat]; omega
  split
  · simp only [UInt8.reduceToNat]; omega
  · simp only [UInt8.reduceToNat]; omega

/-- The first byte of a character tells it together with the bytes after it. -/
theorem step_encodeChar (c : Char) (rest : List UInt8) :
    ∃ a t, encodeChar c = a :: t ∧ step a (t ++ rest) = (some c, t.length) := by
  have hc := toNat_lt c
  unfold encodeChar
  simp only
  split
  · have ha := toNat_byte (n := c.toNat) (by omega)
    refine ⟨_, _, rfl, ?_⟩
    unfold step
    rw [if_pos, ha, Char.ofNat_toNat]
    · rfl
    · rw [byte_lt_iff (by omega)]
      assumption
  split
  · have ha := toNat_byte (n := 0xC0 + c.toNat / 64) (by omega)
    have hn : (0xC0 + c.toNat / 64 - 0xC0) * 64 + (0x80 + c.toNat % 64 - 0x80) = c.toNat := by omega
    refine ⟨_, _, rfl, ?_⟩
    unfold step
    rw [if_neg, if_neg, if_pos]
    · simp only [List.cons_append, List.nil_append, isTail_tail, if_true, ha, toNat_tail, hn,
        Char.ofNat_toNat, List.length_singleton]
    all_goals
      rw [byte_lt_iff (by omega)]
      simp only [UInt8.reduceToNat]
      omega
  split
  · have ha := toNat_byte (n := 0xE0 + c.toNat / 4096) (by omega)
    have hn : (0xE0 + c.toNat / 4096 - 0xE0) * 4096 + (0x80 + c.toNat / 64 % 64 - 0x80) * 64
        + (0x80 + c.toNat % 64 - 0x80) = c.toNat := by omega
    have hs := isSecond_three (n := c.toNat) (by omega) (by omega) (by omega)
    refine ⟨_, _, rfl, ?_⟩
    unfold step
    rw [if_neg, if_neg, if_neg, if_pos]
    · simp only [List.cons_append, List.nil_append, isTail_tail, hs, if_true, ha, toNat_tail, hn,
        Char.ofNat_toNat, List.length_cons, List.length_nil]
    all_goals
      rw [byte_lt_iff (by omega)]
      simp only [UInt8.reduceToNat]
      omega
  · have ha := toNat_byte (n := 0xF0 + c.toNat / 262144) (by omega)
    have hn : (0xF0 + c.toNat / 262144 - 0xF0) * 262144 + (0x80 + c.toNat / 4096 % 64 - 0x80) * 4096
        + (0x80 + c.toNat / 64 % 64 - 0x80) * 64 + (0x80 + c.toNat % 64 - 0x80) = c.toNat := by omega
    have hs := isSecond_four (n := c.toNat) (by omega) (by omega)
    refine ⟨_, _, rfl, ?_⟩
    unfold step
    rw [if_neg, if_neg, if_neg, if_neg, if_pos]
    · simp only [List.cons_append, List.nil_append, isTail_tail, hs, if_true, ha, toNat_tail, hn,
        Char.ofNat_toNat, List.length_cons, List.length_nil]
    all_goals
      rw [byte_lt_iff (by omega)]
      simp only [UInt8.reduceToNat]
      omega

/-- A byte below 0x80 stands for itself. -/
theorem byte_encodeChar {c : Char} {b : UInt8} (hb : b ∈ encodeChar c) :
    0x80 ≤ b.toNat ∨ b.toNat = c.toNat := by
  have hc := toNat_lt c
  have htail : ∀ n, 0x80 ≤ (tail n).toNat := fun n => by rw [toNat_tail]; omega
  have hlead : ∀ m n, 0x80 ≤ m → m + n < 256 → 0x80 ≤ (UInt8.ofNat (m + n)).toNat :=
    fun m n hm hn => by rw [toNat_byte hn]; omega
  unfold encodeChar at hb
  simp only at hb
  split at hb
  · obtain rfl := List.mem_singleton.1 hb
    exact .inr (toNat_byte (by omega))
  left
  split at hb
  · simp only [List.mem_cons, List.not_mem_nil, or_false] at hb
    obtain rfl | rfl := hb
    · exact hlead _ _ (by omega) (by omega)
    · exact htail _
  split at hb
  · simp only [List.mem_cons, List.not_mem_nil, or_false] at hb
    obtain rfl | rfl | rfl := hb
    · exact hlead _ _ (by omega) (by omega)
    · exact htail _
    · exact htail _
  · simp only [List.mem_cons, List.not_mem_nil, or_false] at hb
    obtain rfl | rfl | rfl | rfl := hb
    · exact hlead _ _ (by omega) (by omega)
    · exact htail _
    · exact htail _
    · exact htail _

theorem encodeChars_cons (c : Char) (cs : List Char) :
    encodeChars (c :: cs) = encodeChar c ++ encodeChars cs := List.flatMap_cons

theorem encodeChars_append (as bs : List Char) :
    encodeChars (as ++ bs) = encodeChars as ++ encodeChars bs := List.flatMap_append

theorem encode_append (s t : String) : encode (s ++ t) = encode s ++ encode t := by
  rw [encode, String.toList_append, encodeChars_append, encode, encode]

/-- Bytes below 0x80 alone make up texts of characters below 0x80 alone. -/
theorem forall_encodeChars_lt_iff {cs : List Char} :
    (∀ b ∈ encodeChars cs, b.toNat < 0x80) ↔ ∀ c ∈ cs, c.toNat < 0x80 := by
  constructor
  · intro h c hc
    obtain ⟨a, t, he, -⟩ := step_encodeChar c []
    have hmem : a ∈ encodeChar c := he ▸ List.mem_cons_self
    have ha := h a (List.mem_flatMap.2 ⟨c, hc, hmem⟩)
    rcases byte_encodeChar hmem with hlarge | hsame <;> omega
  · intro h b hb
    obtain ⟨c, hc, hb⟩ := List.mem_flatMap.1 hb
    have hlt := h c hc
    rw [encodeChar, if_pos hlt] at hb
    rw [List.mem_singleton.1 hb, toNat_byte (by omega)]
    exact hlt

theorem charsFrom_length (t rest : List UInt8) : charsFrom t.length (t ++ rest) = charsFrom 0 rest := by
  induction t with
  | nil => rfl
  | cons a t ih => exact ih

theorem chars_encodeChar (c : Char) (rest : List UInt8) :
    chars (encodeChar c ++ rest) = some c :: chars rest := by
  obtain ⟨a, t, he, hs⟩ := step_encodeChar c rest
  rw [he, List.cons_append, chars, charsFrom, hs, charsFrom_length]
  rfl

theorem chars_encodeChars (cs : List Char) : chars (encodeChars cs) = cs.map some := by
  induction cs with
  | nil => rfl
  | cons c cs ih =>
    rw [encodeChars, List.flatMap_cons, chars_encodeChar, List.map_cons]
    exact congrArg _ ih

theorem mapM_id_some {α : Type} (xs : List α) : (xs.map some).mapM id = some xs := by
  induction xs with
  | nil => rfl
  | cons x xs ih => simp [List.mapM_cons, ih]

theorem decode?_encodeChars (cs : List Char) : decode? (encodeChars cs) = some (String.ofList cs) := by
  rw [decode?, chars_encodeChars, mapM_id_some]
  rfl

theorem decode?_encode (s : String) : decode? (encode s) = some s := by
  rw [encode, decode?_encodeChars, String.ofList_toList]

theorem decodeLossy_encode (s : String) : decodeLossy (encode s) = s := by
  have hkept : ((fun c : Option Char => c.getD (Char.ofNat 0xFFFD)) ∘ some) = id := rfl
  rw [decodeLossy, encode, chars_encodeChars, List.map_map, hkept, List.map_id, String.ofList_toList]

end GatewayFeed.Utf8
