import GatewayFeed.Json.Value
import GatewayFeed.Proofs.Json.Containers
import GatewayFeed.Proofs.Json.Sorted
import GatewayFeed.Proofs.Json.Taken

/-! What a written value is as a JSON value, and which texts are documents. -/

namespace GatewayFeed.Json

namespace Written

/-- An integer is exact if 64 bits hold it, with or without a sign; any other number is real. -/
def number? (n : Numeral) : Option Number :=
  match n.int?.filter fun i => -0x8000000000000000 ≤ i ∧ i < 0x10000000000000000 with
  | some i => some (.integer i)
  | none => n.literal.real?.map .real

/-- A value that is no container. -/
def scalar? : Written → Option Json
  | null => some .null
  | flag b => some (.flag b)
  | number n => (number? n).map .number
  | text ps => ps.text?.map .text
  | _ => none

/-- A value of at most `depth` levels of containers. -/
def json? : Nat → Written → Option Json
  | depth + 1, array items closing => ((array items closing).list? (json? depth)).map .array
  | depth + 1, object members closing => ((object members closing).map? (json? depth)).map ofMembers
  | _, v => v.scalar?

end Written

namespace Reader

open Written (json? scalar? start_number start_number_ne)

theorem number?_literal (n : Numeral) : n.literal.number? = Written.number? n := by
  rw [Literal.number?, Numeral.integer?_literal]
  rfl

theorem agrees_scalar : Agrees scalar scalar? := by
  intro bs v rest hr
  rw [scalar, read?_bind, read?_valueStart_value, Option.bind_some]
  cases v with
  | null =>
    have hw := read?_word ['u', 'l', 'l'] rest
    simp [Char.toUInt8] at hw
    simp [Char.toUInt8, Written.bytes, hw, scalar?]
  | flag b =>
    have hflag := agrees_map agrees_flag Json.flag [] (.flag b) hr
    rw [Blanks.bytes_nil, List.nil_append] at hflag
    have hstart : ¬ Written.start (.flag b) = 'n'.toUInt8 := by cases b <;> decide
    rw [if_neg hstart, if_pos (by cases b <;> rfl)]
    exact hflag
  | text ps =>
    have htext := agrees_map agrees_text Json.text [] (.text ps) hr
    rw [Blanks.bytes_nil, List.nil_append] at htext
    exact htext
  | number n =>
    obtain ⟨hn, ht, hf, hq, -, -⟩ := start_number_ne n
    have hnumber := read?_number n hr
    rw [number?_literal] at hnumber
    have hdigit : (Written.start (.number n) = '-'.toUInt8 || isDigit (Written.start (.number n))) = true := by
      rcases start_number n with h | ⟨d, h⟩
      · rw [h]
        rfl
      · rw [h, isDigit_byte, Bool.or_true]
    have hflag : ¬ (Written.start (.number n) = 't'.toUInt8 || Written.start (.number n) = 'f'.toUInt8) = true := by
      simp [Char.toUInt8, ht, hf]
    have hnull : ¬ Written.start (.number n) = 'n'.toUInt8 := hn
    have hquote : ¬ Written.start (.number n) = '"'.toUInt8 := hq
    simp only [hnull, hflag, hquote, hdigit, if_true, if_false, Written.bytes]
    cases hx : Written.number? n <;> simp [scalar?, hx, hnumber]
  | array items closing => rfl
  | object members closing => rfl

theorem container_or_start_ne (v : Written) : (∃ items closing, v = .array items closing) ∨
    (∃ members closing, v = .object members closing) ∨ (v.start ≠ '['.toUInt8 ∧ v.start ≠ 0x7B) := by
  cases v with
  | array items closing => exact .inl ⟨items, closing, rfl⟩
  | object members closing => exact .inr (.inl ⟨members, closing, rfl⟩)
  | number n =>
    obtain ⟨-, -, -, -, hlist, hmap⟩ := start_number_ne n
    exact .inr (.inr ⟨hlist, hmap⟩)
  | flag b => exact .inr (.inr (by cases b <;> decide))
  | _ => exact .inr (.inr (by simp [Char.toUInt8]))

theorem json?_of_start_ne (depth : Nat) {v : Written} (hlist : v.start ≠ '['.toUInt8) (hmap : v.start ≠ 0x7B) :
    v.json? depth = v.scalar? := by
  cases v with
  | array items closing => exact absurd rfl hlist
  | object members closing => exact absurd rfl hmap
  | _ => cases depth <;> rfl

/-- Values are read as what they mean, with containers to the given depth. -/
theorem agrees_value (depth : Nat) : Agrees (value depth) (json? depth) := by
  induction depth with
  | zero =>
    intro bs v rest hr
    rw [value, read?_bind, read?_valueStart_value, Option.bind_some]
    obtain ⟨items, closing, rfl⟩ | ⟨members, closing, rfl⟩ | ⟨hlist, hmap⟩ := container_or_start_ne v
    · rfl
    · rfl
    · have hscalar := agrees_scalar [] v hr
      rw [Blanks.bytes_nil, List.nil_append] at hscalar
      rw [json?_of_start_ne 0 hlist hmap, if_neg (by simp [hlist, hmap])]
      exact hscalar
  | succ depth ih =>
    intro bs v rest hr
    rw [value, read?_bind, read?_valueStart_value, Option.bind_some]
    obtain ⟨items, closing, rfl⟩ | ⟨members, closing, rfl⟩ | ⟨hlist, hmap⟩ := container_or_start_ne v
    · exact agrees_map (agrees_list ih) Json.array [] (.array items closing) hr
    · exact agrees_map (agrees_entries ih) ofMembers [] (.object members closing) hr
    · have hscalar := agrees_scalar [] v hr
      rw [Blanks.bytes_nil, List.nil_append] at hscalar
      rw [json?_of_start_ne _ hlist hmap, if_neg hlist, if_neg hmap]
      exact hscalar

theorem takes_scalar : Takes scalar := by
  intro bs x rest h
  obtain ⟨before, c, t, rfl, hc⟩ := exists_of_valueStart h
  simp only [read?_ite] at hc
  split at hc
  · rename_i hfirst
    subst hfirst
    exact ⟨before, .null, by rw [(eq_of_word_value .null rfl hc).1]⟩
  split at hc
  · exact (takes_flag.map Json.flag).behind before hc
  split at hc
  · exact (takes_text.map Json.text).behind before hc
  split at hc
  · obtain ⟨x, t', hnumber, hdone⟩ := exists_of_read?_bind hc
    cases hdone
    obtain ⟨n, hn⟩ := exists_of_number hnumber
    exact ⟨before, .number n, by rw [hn]; rfl⟩
  · cases hc

theorem takes_value (depth : Nat) : Takes (value depth) := by
  induction depth with
  | zero =>
    intro bs x rest h
    obtain ⟨before, c, t, rfl, hc⟩ := exists_of_valueStart h
    rw [read?_ite] at hc
    split at hc
    · cases hc
    · exact takes_scalar.behind before hc
  | succ depth ih =>
    intro bs x rest h
    obtain ⟨before, c, t, rfl, hc⟩ := exists_of_valueStart h
    rw [read?_ite, read?_ite] at hc
    split at hc
    · exact (ih.list.map Json.array).behind before hc
    split at hc
    · exact (ih.entries.map ofMembers).behind before hc
    · exact takes_scalar.behind before hc

end Reader

/-- What a document with blanks around it is parsed to. -/
theorem toOption_parse {text : String} {before after : Blanks} {w : Written}
    (h : Utf8.encode text = before.bytes ++ (w.bytes ++ after.bytes)) :
    (parse text).toOption = w.json? maxDepth := by
  rw [parse, h]
  exact Reader.toOption_document (Reader.agrees_value maxDepth) before w after

/-- Exactly the texts of documents are parsed, and to what the documents mean. -/
theorem parse_eq_ok_iff {text : String} {v : Json} : parse text = .ok v ↔
    ∃ (before : Blanks) (w : Written) (after : Blanks),
      Utf8.encode text = before.bytes ++ (w.bytes ++ after.bytes) ∧ w.json? maxDepth = some v := by
  constructor
  · intro h
    obtain ⟨before, w, after, htext⟩ := Reader.exists_of_document (Reader.takes_value maxDepth) h
    refine ⟨before, w, after, htext, ?_⟩
    rw [← toOption_parse htext, h]
    rfl
  · rintro ⟨before, w, after, htext, hw⟩
    have hparse := toOption_parse htext
    rw [hw] at hparse
    cases h : parse text with
    | error e =>
      rw [h] at hparse
      cases hparse
    | ok x =>
      rw [h] at hparse
      cases hparse
      rfl

end GatewayFeed.Json
