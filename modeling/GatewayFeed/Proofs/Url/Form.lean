import GatewayFeed.Proofs.Lookup
import GatewayFeed.Proofs.Text.Utf8
import GatewayFeed.Url.Form

/-! Reading a query takes back the pairs that were put at its end. What is written of a name or of a value
has no character that separates pairs, or that separates a name from its value, or that ends a query. -/

namespace GatewayFeed.Url

variable {n : Nat}

theorem hexValue?_upperHex (h : n < 16) : hexValue? (upperHex n) = some n := by
  revert n
  decide

/-- A character that is no part of an escape stands for itself. -/
theorem percentDecode_other {c : Char} (hc : c ≠ '%') (cs : List Char) :
    percentDecode (c :: cs) = Utf8.encodeChar c ++ percentDecode cs := by
  rw [percentDecode]
  intro a b rest h
  exact absurd h hc

theorem percentDecode_percentByte (b : UInt8) (cs : List Char) :
    percentDecode (percentByte b ++ cs) = b :: percentDecode cs := by
  have hb := b.toNat_lt
  have hsum : b.toNat / 16 * 16 + b.toNat % 16 = b.toNat := by omega
  rw [percentByte, List.cons_append, List.cons_append, List.cons_append, List.nil_append, percentDecode,
    hexValue?_upperHex (by omega), hexValue?_upperHex (by omega)]
  dsimp only
  rw [hsum, UInt8.ofNat_toNat]

namespace Form

variable {sep : Char} {cs ds query : List Char}

/-- Characters that names and values are written with. -/
def isWritten (c : Char) : Bool := c.isAlphanum || ['*', '-', '.', '_', '+', '%'].contains c

theorem isWritten_upperHex (h : n < 16) : isWritten (upperHex n) = true := by
  revert n
  decide

theorem upperHex_ne_plus (h : n < 16) : upperHex n ≠ '+' := by
  revert n
  decide

/-- A byte that is shown as it is. -/
theorem plain_byte {b : UInt8} (h : isPlain b = true) :
    isWritten (Char.ofNat b.toNat) = true ∧ Char.ofNat b.toNat ≠ '+' ∧ Char.ofNat b.toNat ≠ '%' ∧
      Utf8.encodeChar (Char.ofNat b.toNat) = [b] := by
  have hall : ∀ n < 0x80, isPlain (UInt8.ofNat n) = true →
      isWritten (Char.ofNat n) = true ∧ Char.ofNat n ≠ '+' ∧ Char.ofNat n ≠ '%' ∧
        Utf8.encodeChar (Char.ofNat n) = [UInt8.ofNat n] := by decide +kernel
  have hlt : b.toNat < 0x80 := by
    rw [isPlain, Bool.and_eq_true, decide_eq_true_iff] at h
    exact UInt8.lt_iff_toNat_lt.1 h.1
  have hb := hall b.toNat hlt
  rw [UInt8.ofNat_toNat] at hb
  exact hb h

theorem isWritten_of_mem_percentByte {b : UInt8} {c : Char} (h : c ∈ percentByte b) : isWritten c = true := by
  have hb := b.toNat_lt
  simp only [percentByte, List.mem_cons, List.not_mem_nil, or_false] at h
  rcases h with rfl | rfl | rfl
  · decide
  · exact isWritten_upperHex (by omega)
  · exact isWritten_upperHex (by omega)

theorem isWritten_of_mem_encode {s : String} {c : Char} (h : c ∈ encode s) : isWritten c = true := by
  obtain ⟨b, -, hc⟩ := List.mem_flatMap.1 h
  unfold encodeByte at hc
  split at hc
  · rename_i hplain
    rw [List.mem_singleton.1 hc]
    exact (plain_byte hplain).1
  · split at hc
    · rw [List.mem_singleton.1 hc]
      decide
    · exact isWritten_of_mem_percentByte hc

theorem notMem_encode (hsep : isWritten sep = false) (s : String) : sep ∉ encode s := by
  intro h
  rw [isWritten_of_mem_encode h] at hsep
  cases hsep

/-- What a plus stands for. -/
def spaced (cs : List Char) : List Char := cs.map fun c => if c = '+' then ' ' else c

theorem percentDecode_encodeByte (b : UInt8) (cs : List Char) :
    percentDecode (spaced (encodeByte b) ++ cs) = b :: percentDecode cs := by
  unfold encodeByte
  split
  · rename_i hplain
    obtain ⟨-, hplus, hpercent, hbyte⟩ := plain_byte hplain
    rw [spaced, List.map_singleton, if_neg hplus, List.singleton_append, percentDecode_other hpercent, hbyte]
    rfl
  · split
    · rename_i hspace
      rw [hspace]
      exact percentDecode_other (by decide) cs
    · have hb := b.toNat_lt
      have hspaced : spaced (percentByte b) = percentByte b := by
        simp [spaced, percentByte, upperHex_ne_plus (n := b.toNat / 16) (by omega),
          upperHex_ne_plus (n := b.toNat % 16) (by omega)]
      rw [hspaced, percentDecode_percentByte]

theorem percentDecode_encode (bytes : List UInt8) :
    percentDecode (spaced (bytes.flatMap encodeByte)) = bytes := by
  induction bytes with
  | nil => rfl
  | cons b bytes ih =>
    rw [List.flatMap_cons, spaced, List.map_append]
    exact (percentDecode_encodeByte b _).trans (congrArg (b :: ·) ih)

theorem decode_encode (s : String) : decode (encode s) = s := by
  have hbytes := percentDecode_encode (Utf8.encode s)
  unfold decode encode
  unfold spaced at hbytes
  rw [hbytes, Utf8.decodeLossy_encode]

theorem splitAt_ne_nil (sep : Char) (cs : List Char) : splitAt sep cs ≠ [] := by
  fun_cases splitAt sep cs <;> simp

/-- What a separator stands between is split each for itself. -/
theorem splitAt_append (sep : Char) (cs ds : List Char) :
    splitAt sep (cs ++ sep :: ds) = splitAt sep cs ++ splitAt sep ds := by
  induction cs with
  | nil =>
    rw [List.nil_append]
    exact if_pos rfl
  | cons c cs ih =>
    rw [List.cons_append, splitAt, splitAt, ih]
    split
    · rfl
    · obtain ⟨part, parts, hparts⟩ := List.exists_cons_of_ne_nil (splitAt_ne_nil sep cs)
      rw [hparts]
      rfl

theorem splitAt_of_notMem (h : sep ∉ cs) : splitAt sep cs = [cs] := by
  induction cs with
  | nil => rfl
  | cons c cs ih =>
    have hc : c ≠ sep := fun hc => h (hc ▸ List.mem_cons_self)
    rw [splitAt, if_neg hc, ih fun hmem => h (List.mem_cons_of_mem _ hmem)]

/-- The pair that a piece of a query stands for. -/
def pairOf (piece : List Char) : String × String :=
  (decode (piece.takeWhile (· ≠ '=')), decode ((piece.dropWhile (· ≠ '=')).drop 1))

theorem pairs_eq (query : List Char) :
    pairs query = ((splitAt '&' query).filter (!·.isEmpty)).map pairOf := rfl

theorem pairs_append_and (cs ds : List Char) : pairs (cs ++ '&' :: ds) = pairs cs ++ pairs ds := by
  rw [pairs_eq, splitAt_append, List.filter_append, List.map_append, ← pairs_eq, ← pairs_eq]

theorem notMem_encodePair (hsep : isWritten sep = false) (hne : sep ≠ '=') (p : String × String) :
    sep ∉ encodePair p := by
  intro h
  rcases List.mem_append.1 h with h | h
  · exact notMem_encode hsep p.1 h
  · rcases List.mem_cons.1 h with h | h
    · exact hne h
    · exact notMem_encode hsep p.2 h

theorem pairOf_encodePair (p : String × String) : pairOf (encodePair p) = p := by
  have hname : ∀ c ∈ encode p.1, decide (c ≠ '=') = true := by
    intro c hc
    rw [decide_eq_true_iff]
    rintro rfl
    exact notMem_encode rfl p.1 hc
  have hends : ∀ c ∈ ('=' :: encode p.2).head?, decide (c ≠ '=') = false := by
    intro c hc
    cases hc
    rfl
  obtain ⟨htake, hdrop⟩ := takeWhile_append_ends hname hends
  rw [pairOf, encodePair, htake, hdrop, List.drop_one, List.tail_cons, decode_encode, decode_encode]

theorem pairs_encodePair (p : String × String) : pairs (encodePair p) = [p] := by
  have hsome : (encodePair p).isEmpty = false := by simp [encodePair]
  have hpair : [encodePair p].filter (!·.isEmpty) = [encodePair p] := by simp [hsome]
  rw [pairs_eq, splitAt_of_notMem (notMem_encodePair rfl (by decide) p), hpair, List.map_singleton,
    pairOf_encodePair]

theorem pairs_append (query : List Char) (ps : List (String × String)) :
    pairs (append query ps) = pairs query ++ ps := by
  induction ps generalizing query with
  | nil => exact (List.append_nil _).symm
  | cons p ps ih =>
    have hstep : append query (p :: ps) =
        append (query ++ (if query.isEmpty then [] else ['&']) ++ encodePair p) ps := rfl
    have hpair : pairs (query ++ (if query.isEmpty then [] else ['&']) ++ encodePair p) = pairs query ++ [p] := by
      cases query with
      | nil => exact pairs_encodePair p
      | cons c query =>
        rw [List.append_assoc]
        exact (pairs_append_and (c :: query) (encodePair p)).trans
          (congrArg (pairs (c :: query) ++ ·) (pairs_encodePair p))
    rw [hstep, ih, hpair, List.append_assoc]
    rfl

theorem append_ne_nil {ps : List (String × String)} (h : ps ≠ []) (query : List Char) : append query ps ≠ [] := by
  have hempty : pairs [] = [] := rfl
  intro hnil
  have hpairs := pairs_append query ps
  rw [hnil, hempty] at hpairs
  exact h (List.append_eq_nil_iff.1 hpairs.symm).2

theorem notMem_append (hsep : isWritten sep = false) (hne : sep ≠ '=' ∧ sep ≠ '&') (hquery : sep ∉ query)
    (ps : List (String × String)) : sep ∉ append query ps := by
  induction ps generalizing query with
  | nil => exact hquery
  | cons p ps ih =>
    have hnext : sep ∉ query ++ (if query.isEmpty then [] else ['&']) ++ encodePair p := by
      intro h
      rcases List.mem_append.1 h with h | h
      · rcases List.mem_append.1 h with h | h
        · exact hquery h
        · split at h
          · cases h
          · exact hne.2 (List.mem_singleton.1 h)
      · exact notMem_encodePair hsep hne.1 p h
    exact ih hnext

end Form

end GatewayFeed.Url
