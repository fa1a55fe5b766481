import GatewayFeed.Json.Printer
import GatewayFeed.Proofs.Json.Spelling

/-! A text is printed as a spelling of it: controls, quotes and backslashes are escaped and every
other character stands for itself in UTF-8. -/

namespace GatewayFeed.Json

open Spelling (plainBytes?)

namespace Piece

/-- The piece of a byte that stands for itself. -/
def ofByte? (b : UInt8) : Option Piece :=
  if h : 0x20 ≤ b ∧ b ≠ 0x22 ∧ b ≠ 0x5C then some (.plain b h) else none

def hexDigit (n : Nat) : HexDigit := ⟨⟨n % 16, Nat.mod_lt _ (Nat.succ_pos 15)⟩, false⟩

/-- A character as it is printed. -/
def ofChar (c : Char) : List Piece :=
  if c = '"' then [.short .quote]
  else if c = '\\' then [.short .backslash]
  else if c = '\x08' then [.short .backspace]
  else if c = '\x0c' then [.short .formFeed]
  else if c = '\n' then [.short .lineFeed]
  else if c = '\r' then [.short .carriageReturn]
  else if c = '\t' then [.short .tab]
  else if c.toNat < 0x20 then
    [.unit (hexDigit 0) (hexDigit 0) (hexDigit (c.toNat / 16)) (hexDigit (c.toNat % 16))]
  else (Utf8.encodeChar c).filterMap ofByte?

end Piece

def Spelling.ofText (s : String) : Spelling := s.toList.flatMap Piece.ofChar

/-- Bytes of a character that needs no escape need none either. -/
theorem byte_of_plain_char {c : Char} (hctl : ¬ c.toNat < 0x20) (hquote : c ≠ '"') (hback : c ≠ '\\')
    {b : UInt8} (hb : b ∈ Utf8.encodeChar c) : 0x20 ≤ b ∧ b ≠ 0x22 ∧ b ≠ 0x5C := by
  have hne : ∀ d : Char, c ≠ d → c.toNat ≠ d.toNat := fun d h he => h (Char.toNat_inj.1 he)
  have hquote' : c.toNat ≠ 0x22 := hne '"' hquote
  have hback' : c.toNat ≠ 0x5C := hne '\\' hback
  have hbyte := Utf8.byte_encodeChar hb
  refine ⟨UInt8.le_iff_toNat_le.2 ?_, ?_, ?_⟩
  · change 0x20 ≤ b.toNat
    omega
  · rintro rfl
    change 0x80 ≤ 0x22 ∨ 0x22 = c.toNat at hbyte
    omega
  · rintro rfl
    change 0x80 ≤ 0x5C ∨ 0x5C = c.toNat at hbyte
    omega

theorem ofByte?_eq {b : UInt8} (h : 0x20 ≤ b ∧ b ≠ 0x22 ∧ b ≠ 0x5C) :
    Piece.ofByte? b = some (.plain b h) := dif_pos h

theorem flatMap_ofByte? {bs : List UInt8} (h : ∀ b ∈ bs, 0x20 ≤ b ∧ b ≠ 0x22 ∧ b ≠ 0x5C) :
    (bs.filterMap Piece.ofByte?).flatMap Piece.bytes = bs := by
  induction bs with
  | nil => rfl
  | cons b bs ih =>
    have hb := ofByte?_eq (h b List.mem_cons_self)
    rw [List.filterMap_cons_some hb, List.flatMap_cons, ih fun x hx => h x (List.mem_cons_of_mem _ hx)]
    rfl

theorem plainBytes?_ofByte? {bs : List UInt8} (h : ∀ b ∈ bs, 0x20 ≤ b ∧ b ≠ 0x22 ∧ b ≠ 0x5C)
    (ps : Spelling) : plainBytes? (bs.filterMap Piece.ofByte? ++ ps) = (plainBytes? ps).map (bs ++ ·) := by
  induction bs with
  | nil => simp
  | cons b bs ih =>
    have hb := ofByte?_eq (h b List.mem_cons_self)
    rw [List.filterMap_cons_some hb, List.cons_append, plainBytes?,
      ih fun x hx => h x (List.mem_cons_of_mem _ hx), Option.map_map]
    rfl

theorem encodeChar_hexDigit (d : Fin 16) :
    Utf8.encodeChar (Nat.digitChar d) = [(Piece.hexDigit d).byte] := by
  revert d
  decide

theorem codeUnit_control {n : Nat} (h : n < 0x20) : Piece.codeUnit (Piece.hexDigit 0) (Piece.hexDigit 0)
    (Piece.hexDigit (n / 16)) (Piece.hexDigit (n % 16)) = n := by
  revert n
  decide

/-- The pieces of a character are written as it is printed. -/
theorem bytes_ofChar (c : Char) :
    (Piece.ofChar c).flatMap Piece.bytes = Utf8.encodeChars (escapedChar c) := by
  unfold Piece.ofChar escapedChar
  -- the seven escapes of one letter
  iterate 7
    split
    · decide
  rename_i hquote hback _ _ _ _ _
  split
  · rename_i hctl
    have hhigh := encodeChar_hexDigit ⟨c.toNat / 16, by omega⟩
    have hlow := encodeChar_hexDigit ⟨c.toNat % 16, by omega⟩
    have hfront : Utf8.encodeChars ['\\', 'u', '0', '0'] = [0x5C, 0x75, 0x30, 0x30] := by decide
    simp only at hhigh hlow
    rw [controlEscape, Utf8.encodeChars_append, hfront]
    simp [Utf8.encodeChars, hhigh, hlow, Piece.bytes]
    decide
  · rename_i hctl
    rw [flatMap_ofByte? fun b => byte_of_plain_char hctl hquote hback]
    simp [Utf8.encodeChars]

theorem plainBytes?_short (e : Escape) (ps : Spelling) :
    plainBytes? ([.short e] ++ ps) = (plainBytes? ps).map (Utf8.encodeChar e.char ++ ·) := rfl

/-- The pieces of a character spell it, whatever comes after them. -/
theorem plainBytes?_ofChar (c : Char) (ps : Spelling) :
    plainBytes? (Piece.ofChar c ++ ps) = (plainBytes? ps).map (Utf8.encodeChar c ++ ·) := by
  unfold Piece.ofChar
  iterate 7
    split
    · rename_i h
      subst h
      exact plainBytes?_short _ ps
  rename_i hquote hback _ _ _ _ _
  split
  · rename_i hctl
    have hlow : Spelling.isLowSurrogate c.toNat = false := by simp [Spelling.isLowSurrogate]; omega
    have hhigh : Spelling.isHighSurrogate c.toNat = false := by simp [Spelling.isHighSurrogate]; omega
    rw [List.singleton_append, Reader.plainBytes?_unit, codeUnit_control hctl]
    simp [Reader.unitChar?, hlow, hhigh]
  · rename_i hctl
    exact plainBytes?_ofByte? (fun b => byte_of_plain_char hctl hquote hback) ps

namespace Spelling

theorem bytes_append (ps qs : Spelling) : bytes (ps ++ qs) = ps.flatMap Piece.bytes ++ bytes qs := by
  induction ps with
  | nil => rfl
  | cons p ps ih => rw [List.cons_append, bytes, ih, List.flatMap_cons, List.append_assoc]

theorem bytes_ofText (s : String) : 0x22 :: bytes (ofText s) = Utf8.encodeChars (textChars s) := by
  have hpieces : ∀ cs : List Char,
      (cs.flatMap Piece.ofChar).flatMap Piece.bytes = Utf8.encodeChars (cs.flatMap escapedChar) := by
    intro cs
    induction cs with
    | nil => rfl
    | cons c cs ih =>
      rw [List.flatMap_cons, List.flatMap_append, bytes_ofChar, ih, List.flatMap_cons,
        Utf8.encodeChars_append]
  have hquote : Utf8.encodeChar '"' = [0x22] := by decide
  have happend := bytes_append (ofText s) []
  rw [List.append_nil, ofText, hpieces] at happend
  rw [ofText, happend]
  simp [textChars, Utf8.encodeChars, hquote, bytes]

/-- What a text is printed as denotes the text. -/
theorem text?_ofText (s : String) : text? (ofText s) = some s := by
  have hplain : ∀ cs : List Char, plainBytes? (cs.flatMap Piece.ofChar) = some (Utf8.encodeChars cs) := by
    intro cs
    induction cs with
    | nil => rfl
    | cons c cs ih =>
      rw [List.flatMap_cons, plainBytes?_ofChar, ih]
      rfl
  rw [text?, ofText, hplain, Option.bind_some]
  exact Utf8.decode?_encode s

end Spelling

end GatewayFeed.Json
