import GatewayFeed.Json.Printer
import GatewayFeed.Proofs.Json.Numeral

/-! An integer is printed as its numeral, and the numeral is that integer. The induction is on the
number, one digit at a time from the right. -/

namespace GatewayFeed.Json

namespace Digits

def ofChar (c : Char) : Fin 10 := ⟨(c.toNat - 48) % 10, Nat.mod_lt _ (Nat.succ_pos 9)⟩

def ofNat (n : Nat) : Digits := (Nat.toDigits 10 n).map ofChar

theorem ofChar_digitChar (d : Fin 10) : ofChar (Nat.digitChar d) = d := by
  revert d
  decide

theorem encodeChar_digitChar (d : Fin 10) : Utf8.encodeChar (Nat.digitChar d) = [byte d] := by
  revert d
  decide

theorem ofNat_of_lt {n : Nat} (h : n < 10) : ofNat n = [⟨n, h⟩] := by
  have hd := ofChar_digitChar ⟨n, h⟩
  rw [ofNat, Nat.toDigits_of_lt_base h, List.map_singleton]
  exact congrArg (fun d => [d]) hd

theorem ofNat_of_le {n : Nat} (h : 10 ≤ n) :
    ofNat n = ofNat (n / 10) ++ [⟨n % 10, Nat.mod_lt n (by decide)⟩] := by
  have hd := ofChar_digitChar ⟨n % 10, Nat.mod_lt n (by decide)⟩
  rw [ofNat, Nat.toDigits_of_base_le (by decide) h, List.map_append, List.map_singleton]
  exact congrArg (fun d => ofNat (n / 10) ++ [d]) hd

theorem bytes_ofNat (n : Nat) : bytes (ofNat n) = Utf8.encodeChars (Nat.toDigits 10 n) := by
  have hone : ∀ m (h : m < 10), Utf8.encodeChars [Nat.digitChar m] = bytes [⟨m, h⟩] := by
    intro m h
    have := encodeChar_digitChar ⟨m, h⟩
    simpa [Utf8.encodeChars, bytes] using this
  induction n using Nat.strongRecOn with
  | _ n ih =>
    rcases Nat.lt_or_ge n 10 with h | h
    · rw [ofNat_of_lt h, Nat.toDigits_of_lt_base h, hone n h]
    · have hmod : n % 10 < 10 := Nat.mod_lt n (by decide)
      have hdiv := ih (n / 10) (by omega)
      rw [ofNat_of_le h, Nat.toDigits_of_base_le (by decide) h, Utf8.encodeChars_append, ← hdiv, hone _ hmod]
      exact List.map_append

theorem ofDigits_append (ds : List Nat) (d : Nat) : ofDigits (ds ++ [d]) = ofDigits ds * 10 + d := by
  simp [ofDigits]

theorem ofDigits_ofNat (n : Nat) : ofDigits (values (ofNat n)) = n := by
  induction n using Nat.strongRecOn with
  | _ n ih =>
    rcases Nat.lt_or_ge n 10 with h | h
    · rw [ofNat_of_lt h]
      simp [values, ofDigits]
    · have hdiv := ih (n / 10) (by omega)
      rw [ofNat_of_le h, values, List.map_append]
      change ofDigits (values (ofNat (n / 10)) ++ [n % 10]) = n
      rw [ofDigits_append, hdiv]
      omega

/-- Only zero starts with a zero. -/
theorem head_ofNat {n : Nat} (hn : n ≠ 0) : ∃ d ds, ofNat n = d :: ds ∧ d ≠ 0 := by
  induction n using Nat.strongRecOn with
  | _ n ih =>
    rcases Nat.lt_or_ge n 10 with h | h
    · exact ⟨⟨n, h⟩, [], ofNat_of_lt h, fun he => hn (Fin.ext_iff.1 he)⟩
    · obtain ⟨d, ds, hds, hd⟩ := ih (n / 10) (by omega) (by omega)
      exact ⟨d, ds ++ [⟨n % 10, _⟩], by rw [ofNat_of_le h, hds, List.cons_append], hd⟩

end Digits

theorem Digits.ne_zero_of_val {d : Fin 10} (h : d.val ≠ 0) : d ≠ 0 := fun hd => h (congrArg Fin.val hd)

def Whole.ofNat (n : Nat) : Whole :=
  match Digits.ofNat n with
  | [] => .zero
  | d :: ds => if h : d.val = 0 then .zero else .positive d (Digits.ne_zero_of_val h) ds

theorem Whole.digits_ofNat (n : Nat) : (ofNat n).digits = Digits.ofNat n := by
  by_cases hn : n = 0
  · subst hn
    decide
  · obtain ⟨d, ds, hds, hd⟩ := Digits.head_ofNat hn
    have hval : d.val ≠ 0 := fun h => hd (Fin.ext h)
    rw [ofNat, hds]
    simp [hval, digits]

theorem Whole.value_ofNat (n : Nat) : (ofNat n).value = n := by
  rw [value, digits_ofNat, Digits.ofDigits_ofNat]

/-- The numeral of an integer. -/
def Numeral.ofInt (i : Int) : Numeral where
  negative := i < 0
  whole := .ofNat i.natAbs
  fraction := none
  exponent := none

theorem Numeral.int?_ofInt (i : Int) : (ofInt i).int? = some i := by
  have hval := Whole.value_ofNat i.natAbs
  by_cases hi : i < 0
  · have hw : Whole.ofNat i.natAbs ≠ .zero := by
      intro he
      rw [he] at hval
      have : i.natAbs = 0 := hval.symm
      omega
    simp only [int?, ofInt, hi, hw, hval, decide_true, Option.isSome_none, Bool.or_self,
      Bool.false_eq_true, if_false, if_true]
    congr 1
    omega
  · simp only [int?, ofInt, hi, hval, decide_false, Option.isSome_none, Bool.or_self,
      Bool.false_eq_true, if_false]
    congr 1
    omega

theorem Numeral.bytes_ofInt (i : Int) : (ofInt i).bytes = Utf8.encodeChars (integerChars i) := by
  have hdigits : ∀ n : Nat, Digits.bytes (Whole.ofNat n).digits = Utf8.encodeChars (Nat.toDigits 10 n) :=
    fun n => by rw [Whole.digits_ofNat, Digits.bytes_ofNat]
  cases i with
  | ofNat n =>
    simp [bytes, magnitudeBytes, ofInt, integerChars, hdigits]
  | negSucc n =>
    have hn : Int.negSucc n < 0 := Int.negSucc_lt_zero n
    have hminus : Utf8.encodeChar '-' = [0x2D] := by decide
    simp [bytes, magnitudeBytes, ofInt, integerChars, hn, hdigits, Utf8.encodeChars, hminus]

end GatewayFeed.Json
