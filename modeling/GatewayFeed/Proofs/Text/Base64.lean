import GatewayFeed.Text.Base64

/-! Decoding takes back what encoding wrote, a group of three bytes after the other. What is written are letters
of the alphabet, and at the end what fills up the last group. -/

namespace GatewayFeed.Base64

theorem letterValue?_letter {n : Nat} (h : n < 64) : letterValue? (letter n) = some n := by
  revert n
  decide

theorem letter_ne_pad {n : Nat} (h : n < 64) : letter n ≠ '=' := by
  revert n
  decide

variable {a b c : Nat}

/-- Four letters that are not filled up. -/
theorem decode?_letters {d : Nat} (ha : a < 64) (hb : b < 64) (hc : c < 64) (hd : d < 64)
    (cs : List Char) :
    decode? (letter a :: letter b :: letter c :: letter d :: cs) =
      (decode? cs).map (UInt8.ofNat ((((a * 64 + b) * 64 + c) * 64 + d) / 65536) ::
        UInt8.ofNat ((((a * 64 + b) * 64 + c) * 64 + d) / 256 % 256) ::
        UInt8.ofNat ((((a * 64 + b) * 64 + c) * 64 + d) % 256) :: ·) := by
  have hpad := letter_ne_pad hd
  rw [decode?]
  · simp only [letterValue?_letter, ha, hb, hc, hd, Option.bind_eq_bind, Option.bind_some]
    cases decode? cs <;> rfl
  · exact fun _ h _ => hpad h
  · exact fun h _ => hpad h

theorem decode?_two (ha : a < 64) (hb : b < 64) (hc : c < 64)
    (hz : ((a * 64 + b) * 64 + c) % 4 = 0) :
    decode? [letter a, letter b, letter c, '='] =
      some [UInt8.ofNat (((a * 64 + b) * 64 + c) / 1024),
        UInt8.ofNat (((a * 64 + b) * 64 + c) / 4 % 256)] := by
  have hpad := letter_ne_pad hc
  rw [decode?]
  · simp [letterValue?_letter, ha, hb, hc, hz]
  · exact hpad

theorem decode?_one (ha : a < 64) (hb : b < 64) (hz : (a * 64 + b) % 16 = 0) :
    decode? [letter a, letter b, '=', '='] = some [UInt8.ofNat ((a * 64 + b) / 16)] := by
  simp [decode?, letterValue?_letter, ha, hb, hz]

/-- A byte is what its number is made of again. -/
theorem ofNat_eq {b : UInt8} {n : Nat} (h : n = b.toNat) : UInt8.ofNat n = b := by
  rw [h, UInt8.ofNat_toNat]

theorem decode?_encode (bytes : List UInt8) : decode? (encode bytes) = some bytes := by
  fun_induction encode bytes with
  | case1 => rfl
  | case2 a n =>
    have ha := a.toNat_lt
    rw [decode?_one (by omega) (by omega) (by omega), ofNat_eq (b := a) (by omega)]
  | case3 a b n =>
    have ha := a.toNat_lt
    have hb := b.toNat_lt
    rw [decode?_two (by omega) (by omega) (by omega) (by omega), ofNat_eq (b := a) (by omega),
      ofNat_eq (b := b) (by omega)]
  | case4 a b c rest n ih =>
    have ha := a.toNat_lt
    have hb := b.toNat_lt
    have hc := c.toNat_lt
    rw [decode?_letters (by omega) (by omega) (by omega) (by omega), ih, Option.map_some,
      ofNat_eq (b := a) (by omega), ofNat_eq (b := b) (by omega), ofNat_eq (b := c) (by omega)]

/-- The letters of the numbers below 64, in their order. -/
def alphabet : List Char :=
  "ABCDEFGHIJKLMNOPQRSTUVWXYZabcdefghijklmnopqrstuvwxyz0123456789+/".toList

theorem getElem?_alphabet {n : Nat} (h : n < 64) : alphabet[n]? = some (letter n) := by
  revert n
  decide

theorem letter_mem {n : Nat} (h : n < 64) : letter n ∈ alphabet := List.mem_of_getElem? (getElem?_alphabet h)

/-- How many bytes the last group of three is short of. -/
def missing (n : Nat) : Nat := (3 - n % 3) % 3

theorem length_encode (bytes : List UInt8) : (encode bytes).length = 4 * ((bytes.length + 2) / 3) := by
  fun_induction encode bytes with
  | case1 => rfl
  | case2 a n => simp
  | case3 a b n => simp
  | case4 a b c rest n ih =>
    simp only [List.length_cons, ih]
    omega

theorem exists_letters (bytes : List UInt8) : ∃ letters,
    encode bytes = letters ++ List.replicate (missing bytes.length) '=' ∧ ∀ x ∈ letters, x ∈ alphabet := by
  fun_induction encode bytes with
  | case1 => exact ⟨[], rfl, nofun⟩
  | case2 a n =>
    have ha := a.toNat_lt
    refine ⟨[letter (n / 262144), letter (n / 4096 % 64)], rfl, ?_⟩
    simp only [List.forall_mem_cons]
    exact ⟨letter_mem (by omega), letter_mem (by omega), nofun⟩
  | case3 a b n =>
    have ha := a.toNat_lt
    have hb := b.toNat_lt
    refine ⟨[letter (n / 262144), letter (n / 4096 % 64), letter (n / 64 % 64)], rfl, ?_⟩
    simp only [List.forall_mem_cons]
    exact ⟨letter_mem (by omega), letter_mem (by omega), letter_mem (by omega), nofun⟩
  | case4 a b c rest n ih =>
    have ha := a.toNat_lt
    have hb := b.toNat_lt
    have hc := c.toNat_lt
    obtain ⟨letters, hrest, hletters⟩ := ih
    refine ⟨letter (n / 262144) :: letter (n / 4096 % 64) :: letter (n / 64 % 64) :: letter (n % 64) :: letters,
      ?_, ?_⟩
    · have hsame : missing (a :: b :: c :: rest).length = missing rest.length := by
        simp only [missing, List.length_cons]
        omega
      rw [hrest, hsame]
      rfl
    · simp only [List.forall_mem_cons]
      exact ⟨letter_mem (by omega), letter_mem (by omega), letter_mem (by omega), letter_mem (by omega), hletters⟩

end GatewayFeed.Base64
