import Mathlib.Data.List.TakeWhile
import GatewayFeed.Proofs.Json.Delimiting
import GatewayFeed.Proofs.Json.PrintedText
import GatewayFeed.Proofs.Json.Skipped

/-! What the readers of blanks, words and strings have taken from an input that they accept: nothing but
what the grammar has there. The input is taken apart in the order of the reader's own steps. -/

namespace GatewayFeed.Json.Reader

variable {α β : Type} {p : Reader α} {q : α → Reader β} {bs rest : List UInt8}

theorem exists_of_read?_bind {x : β × List UInt8} (h : read? (p >>= q) bs = some x) :
    ∃ y rest, read? p bs = some (y, rest) ∧ read? (q y) rest = some x := by
  rw [read?_bind] at h
  obtain ⟨⟨y, rest⟩, hp, hq⟩ := Option.bind_eq_some_iff.1 h
  exact ⟨y, rest, hp, hq⟩

theorem exists_blank {b : UInt8} (h : isBlank b = true) : ∃ c : Blank, c.byte = b := by
  simp only [isBlank, Bool.or_eq_true, decide_eq_true_eq] at h
  rcases h with ((rfl | rfl) | rfl) | rfl
  · exact ⟨.space, rfl⟩
  · exact ⟨.lineFeed, rfl⟩
  · exact ⟨.tab, rfl⟩
  · exact ⟨.carriageReturn, rfl⟩

theorem exists_blanks_eq (h : ∀ b ∈ bs, isBlank b = true) : ∃ before : Blanks, before.bytes = bs := by
  induction bs with
  | nil => exact ⟨[], rfl⟩
  | cons b bs ih =>
    obtain ⟨c, hc⟩ := exists_blank (h b List.mem_cons_self)
    obtain ⟨before, hbefore⟩ := ih fun b hb => h b (List.mem_cons_of_mem _ hb)
    exact ⟨c :: before, by rw [← hc, ← hbefore]; rfl⟩

/-- The blanks before a token. -/
theorem exists_blanks (bs : List UInt8) : ∃ before : Blanks, bs = before.bytes ++ bs.dropWhile isBlank := by
  obtain ⟨before, hbefore⟩ := exists_blanks_eq fun b hb => List.mem_takeWhile_imp (p := isBlank) (l := bs) hb
  exact ⟨before, by rw [hbefore, List.takeWhile_append_dropWhile]⟩

section Steps

variable {x : α × List UInt8}

/-- A reader that goes by the next token, which must be there. -/
theorem exists_of_peekToken {k : Option UInt8 → Reader α} (h : read? (peekToken >>= k) bs = some x)
    (hnil : read? (k none) [] = none) :
    ∃ (before : Blanks) (c : UInt8) (t : List UInt8), bs = before.bytes ++ c :: t ∧
      read? (k (some c)) (c :: t) = some x := by
  obtain ⟨before, hbefore⟩ := exists_blanks bs
  rw [read?_bind, Extends.read?_peekToken_eq, Option.bind_some] at h
  generalize bs.dropWhile isBlank = t at h hbefore
  cases t with
  | nil => cases hnil.symm.trans h
  | cons c t => exact ⟨before, c, t, hbefore, h⟩

theorem exists_of_valueStart {k : UInt8 → Reader α} (h : read? (valueStart >>= k) bs = some x) :
    ∃ (before : Blanks) (c : UInt8) (t : List UInt8), bs = before.bytes ++ c :: t ∧
      read? (k c) (c :: t) = some x := by
  obtain ⟨c, rest, hstart, hk⟩ := exists_of_read?_bind h
  obtain ⟨before, c', t, rfl, hc⟩ := exists_of_peekToken hstart rfl
  cases hc
  exact ⟨before, c, t, rfl, hk⟩

/-- A reader that takes a byte, which must be there. -/
theorem exists_of_next {k : Option UInt8 → Reader α} (h : read? (next >>= k) bs = some x)
    (hnil : read? (k none) [] = none) : ∃ c t, bs = c :: t ∧ read? (k (some c)) t = some x := by
  cases bs with
  | nil => cases hnil.symm.trans h
  | cons c t => exact ⟨c, t, rfl, h⟩

@[simp] theorem read?_skip_bind (k : Unit → Reader α) (c : UInt8) (t : List UInt8) :
    read? (skip >>= k) (c :: t) = read? (k ()) t := rfl

end Steps

theorem eq_of_word {cs : List Char} {u : Unit} (h : read? (word cs) bs = some (u, rest)) :
    bs = cs.map Char.toUInt8 ++ rest := by
  induction cs generalizing bs with
  | nil =>
    cases h
    rfl
  | cons c cs ih =>
    obtain ⟨b, t, rfl, hb⟩ := exists_of_next h rfl
    rw [read?_ite] at hb
    split at hb
    · rename_i hc
      rw [ih hb, hc]
      rfl
    · cases hb

theorem exists_of_colon {u : Unit} (h : read? colon bs = some (u, rest)) :
    ∃ before : Blanks, bs = before.bytes ++ 0x3A :: rest := by
  obtain ⟨before, c, t, rfl, hc⟩ := exists_of_peekToken h rfl
  rw [read?_ite] at hc
  split at hc
  · rename_i hcolon
    subst hcolon
    cases hc
    exact ⟨before, rfl⟩
  · cases hc

theorem exists_hexDigit {b : UInt8} {n : Nat} (h : hexDigit? b = some n) : ∃ d : HexDigit, d.byte = b := by
  have hall : ∀ m : Fin 256, (hexDigit? (UInt8.ofNat m)).isSome →
      ∃ v : Fin 16, ∃ u : Bool, HexDigit.byte ⟨v, u⟩ = UInt8.ofNat m := by decide +kernel
  obtain ⟨v, u, hd⟩ := hall ⟨b.toNat, b.toNat_lt⟩ (by simp [h])
  exact ⟨⟨v, u⟩, by simpa using hd⟩

theorem exists_of_hexEscape {n : Nat} (h : read? hexEscape bs = some (n, rest)) :
    ∃ a b c d : HexDigit, bs = a.byte :: b.byte :: c.byte :: d.byte :: rest := by
  match bs with
  | a :: b :: c :: d :: t =>
    simp only [read?, hexEscape] at h
    split at h
    · rename_i ha hb hc hd
      cases h
      obtain ⟨a, rfl⟩ := exists_hexDigit ha
      obtain ⟨b, rfl⟩ := exists_hexDigit hb
      obtain ⟨c, rfl⟩ := exists_hexDigit hc
      obtain ⟨d, rfl⟩ := exists_hexDigit hd
      exact ⟨a, b, c, d, rfl⟩
    · cases h
  | [] | [_] | [_, _] | [_, _, _] => cases h

theorem exists_escape {b : UInt8} {c : Char} (h : shortEscape? b = some c) : ∃ e : Escape, e.letter = b := by
  unfold shortEscape? at h
  split at h
  · rename_i hb; exact ⟨.quote, hb.symm⟩
  split at h
  · rename_i hb; exact ⟨.backslash, hb.symm⟩
  split at h
  · rename_i hb; exact ⟨.slash, hb.symm⟩
  split at h
  · rename_i hb; exact ⟨.backspace, hb.symm⟩
  split at h
  · rename_i hb; exact ⟨.formFeed, hb.symm⟩
  split at h
  · rename_i hb; exact ⟨.lineFeed, hb.symm⟩
  split at h
  · rename_i hb; exact ⟨.carriageReturn, hb.symm⟩
  split at h
  · rename_i hb; exact ⟨.tab, hb.symm⟩
  · cases h

theorem eq_of_surrogateMark {b : UInt8} {u : Unit} (h : read? (surrogateMark b) bs = some (u, rest)) :
    bs = b :: rest := by
  obtain ⟨c, t, rfl, hc⟩ := exists_of_next h rfl
  rw [read?_ite] at hc
  split at hc
  · rename_i hb
    cases hc
    rw [hb]
  · cases hc

/-- The pieces of an escape in hexadecimal, of which the first one was begun before. -/
theorem exists_of_unicodeEscape {c : Char} (h : read? unicodeEscape bs = some (c, rest)) :
    ∃ ps : Spelling, 0x5C :: 0x75 :: bs = ps.flatMap Piece.bytes ++ rest := by
  obtain ⟨n, t, hn, hunit⟩ := exists_of_read?_bind h
  obtain ⟨a, b, c, d, rfl⟩ := exists_of_hexEscape hn
  rw [read?_ite, read?_ite] at hunit
  split at hunit
  · cases hunit
  split at hunit
  · obtain ⟨_, t', hmark, hunit⟩ := exists_of_read?_bind hunit
    obtain ⟨_, t'', hmark', hunit⟩ := exists_of_read?_bind hunit
    obtain ⟨m, t₃, hm, hlow⟩ := exists_of_read?_bind hunit
    obtain rfl := eq_of_surrogateMark hmark
    obtain rfl := eq_of_surrogateMark hmark'
    obtain ⟨a', b', c', d', rfl⟩ := exists_of_hexEscape hm
    rw [read?_ite] at hlow
    split at hlow
    · rw [read?_pure, Option.some.injEq, Prod.mk.injEq] at hlow
      rw [hlow.2]
      exact ⟨[.unit a b c d, .unit a' b' c' d'], rfl⟩
    · cases hlow
  · cases hunit
    exact ⟨[.unit a b c d], rfl⟩

theorem exists_of_escape {c : Char} (h : read? escape bs = some (c, rest)) :
    ∃ ps : Spelling, 0x5C :: bs = ps.flatMap Piece.bytes ++ rest := by
  obtain ⟨b, t, rfl, hb⟩ := exists_of_next h rfl
  dsimp only at hb
  split at hb
  · rename_i hshort
    obtain ⟨e, rfl⟩ := exists_escape hshort
    cases hb
    exact ⟨[.short e], rfl⟩
  rw [read?_ite] at hb
  split at hb
  · rename_i hu
    rw [hu]
    exact exists_of_unicodeEscape hb
  · cases hb

theorem exists_of_stringBytes {fuel : Nat} {seen bytes : List UInt8}
    (h : read? (stringBytes fuel seen) bs = some (bytes, rest)) :
    ∃ ps : Spelling, bs = Spelling.bytes ps ++ rest := by
  induction fuel generalizing bs seen with
  | zero => cases h
  | succ fuel ih =>
    obtain ⟨b, t, rfl, hb⟩ := exists_of_next h rfl
    dsimp only at hb
    rw [read?_ite, read?_ite, read?_ite] at hb
    split at hb
    · rename_i hquote
      cases hb
      exact ⟨[], by rw [hquote]; rfl⟩
    split at hb
    · rename_i hback
      obtain ⟨c, t', hc, hmore⟩ := exists_of_read?_bind hb
      obtain ⟨ps, hps⟩ := exists_of_escape hc
      obtain ⟨qs, rfl⟩ := ih hmore
      refine ⟨ps ++ qs, ?_⟩
      rw [hback, Spelling.bytes_append, List.append_assoc]
      exact hps
    split at hb
    · cases hb
    · rename_i hquote hback hctl
      obtain ⟨ps, rfl⟩ := ih hb
      exact ⟨.plain b ⟨UInt8.not_lt.1 hctl, hquote, hback⟩ :: ps, rfl⟩

theorem exists_of_string {s : String} (h : read? string bs = some (s, rest)) :
    ∃ ps : Spelling, bs = Spelling.bytes ps ++ rest := by
  obtain ⟨n, t, hn, htext⟩ := exists_of_read?_bind h
  cases hn
  obtain ⟨bytes, t, hbytes, hdecode⟩ := exists_of_read?_bind htext
  obtain rfl : t = rest := by
    split at hdecode
    · cases hdecode
      rfl
    · cases hdecode
  exact exists_of_stringBytes hbytes

theorem exists_of_skipEscape {u : Unit} (h : read? skipEscape bs = some (u, rest)) :
    ∃ p : Piece, 0x5C :: bs = p.bytes ++ rest := by
  obtain ⟨b, t, rfl, hb⟩ := exists_of_next h rfl
  dsimp only at hb
  split at hb
  · rename_i hshort
    obtain ⟨e, rfl⟩ := exists_escape hshort
    cases hb
    exact ⟨.short e, rfl⟩
  rw [read?_ite] at hb
  split at hb
  · rename_i hu
    obtain ⟨n, t', hn, hdone⟩ := exists_of_read?_bind hb
    obtain ⟨a, b, c, d, rfl⟩ := exists_of_hexEscape hn
    cases hdone
    exact ⟨.unit a b c d, by rw [hu]; rfl⟩
  · cases hb

theorem exists_of_skipString {fuel : Nat} {u : Unit} (h : read? (skipString fuel) bs = some (u, rest)) :
    ∃ ps : Spelling, bs = Spelling.bytes ps ++ rest := by
  induction fuel generalizing bs with
  | zero => cases h
  | succ fuel ih =>
    obtain ⟨b, t, rfl, hb⟩ := exists_of_next h rfl
    dsimp only at hb
    rw [read?_ite, read?_ite, read?_ite] at hb
    split at hb
    · rename_i hquote
      cases hb
      exact ⟨[], by rw [hquote]; rfl⟩
    split at hb
    · rename_i hback
      obtain ⟨_, t', hesc, hmore⟩ := exists_of_read?_bind hb
      obtain ⟨p, hp⟩ := exists_of_skipEscape hesc
      obtain ⟨ps, rfl⟩ := ih hmore
      refine ⟨p :: ps, ?_⟩
      rw [hback, Spelling.bytes, List.append_assoc]
      exact hp
    split at hb
    · cases hb
    · rename_i hquote hback hctl
      obtain ⟨ps, rfl⟩ := ih hb
      exact ⟨.plain b ⟨UInt8.not_lt.1 hctl, hquote, hback⟩ :: ps, rfl⟩

/-- Whatever the reader gives, it has taken one value, with any blanks before it. -/
def Takes (p : Reader α) : Prop :=
  ∀ bs x rest, read? p bs = some (x, rest) →
    ∃ (before : Blanks) (v : Written), bs = before.bytes ++ (v.bytes ++ rest)

/-- Blanks may have been taken before. -/
theorem Takes.behind (hp : Takes p) (before : Blanks) {x : α} (h : read? p bs = some (x, rest)) :
    ∃ (before' : Blanks) (v : Written), before.bytes ++ bs = before'.bytes ++ (v.bytes ++ rest) := by
  obtain ⟨more, v, rfl⟩ := hp bs x rest h
  exact ⟨before ++ more, v, Blanks.append_bytes ..⟩

theorem Takes.map (hp : Takes p) (f : α → β) : Takes (do return f (← p)) := by
  intro bs x rest h
  obtain ⟨y, t, hy, hx⟩ := exists_of_read?_bind h
  cases hx
  exact hp bs y _ hy

theorem takes_text : Takes text := by
  intro bs s rest h
  obtain ⟨before, c, t, rfl, hc⟩ := exists_of_valueStart h
  rw [read?_ite] at hc
  split at hc
  · rename_i hquote
    obtain ⟨ps, rfl⟩ := exists_of_string hc
    exact ⟨before, .text ps, by rw [hquote]; rfl⟩
  · cases (read?_wrongType ..).symm.trans hc

/-- A value that is one word, of which the reader has seen the first letter. -/
theorem eq_of_word_value (w : Written) {cs : List Char} {c : UInt8} {x y : α}
    (hw : w.bytes = c :: cs.map Char.toUInt8) (h : read? (do skip; word cs; return y) (c :: bs) = some (x, rest)) :
    c :: bs = w.bytes ++ rest ∧ x = y := by
  rw [read?_skip_bind] at h
  obtain ⟨u, t, hword, hdone⟩ := exists_of_read?_bind h
  cases hdone
  exact ⟨by rw [hw, eq_of_word hword]; rfl, rfl⟩

theorem takes_flag : Takes flag := by
  intro bs b rest h
  obtain ⟨before, c, t, rfl, hc⟩ := exists_of_valueStart h
  rw [read?_ite, read?_ite] at hc
  split at hc
  · rename_i hfirst
    subst hfirst
    exact ⟨before, .flag true, by rw [(eq_of_word_value (.flag true) rfl hc).1]⟩
  split at hc
  · rename_i hfirst
    subst hfirst
    exact ⟨before, .flag false, by rw [(eq_of_word_value (.flag false) rfl hc).1]⟩
  · cases (read?_wrongType ..).symm.trans hc

theorem Takes.nullable (hp : Takes p) : Takes (nullable p) := by
  intro bs x rest h
  obtain ⟨before, hbefore⟩ := exists_blanks bs
  rw [Reader.nullable, read?_bind, Extends.read?_peekToken_eq, Option.bind_some] at h
  generalize bs.dropWhile isBlank = t at h hbefore
  subst hbefore
  rw [read?_ite] at h
  split at h
  · rename_i hfirst
    obtain ⟨t, rfl⟩ := List.head?_eq_some_iff.1 hfirst
    exact ⟨before, .null, by rw [(eq_of_word_value .null rfl h).1]⟩
  · exact (hp.map some).behind before h

end GatewayFeed.Json.Reader
