import GatewayFeed.Proofs.Json.Skipped

/-! What a written value means to a reader that expects a type. A reader agrees with a meaning if it
takes exactly one value from the input, gives what the value means, and refuses the values that mean
nothing. -/

namespace GatewayFeed.Json

variable {α τ ν : Type}

namespace Written

def text? : Written → Option String
  | text ps => ps.text?
  | _ => none

/-- An integer from `low` to `high`. -/
def integer? (low high : Int) : Written → Option Int
  | number n => n.int?.filter fun i => low ≤ i ∧ i ≤ high
  | _ => none

def int64? (v : Written) : Option Int64 :=
  (v.integer? (-0x8000000000000000) 0x7FFFFFFFFFFFFFFF).map Int64.ofInt

def int32? (v : Written) : Option Int32 := (v.integer? (-0x80000000) 0x7FFFFFFF).map Int32.ofInt

def flag? : Written → Option Bool
  | flag b => some b
  | _ => none

def nullable? (f : Written → Option α) : Written → Option (Option α)
  | null => some none
  | v => (f v).map some

def list? (f : Written → Option α) : Written → Option (List α)
  | array items _ => items.mapM fun p => f p.value
  | _ => none

def pair? (f : Written → Option α) (m : Member Written) : Option (String × α) :=
  m.key.text?.bind fun k => (f m.value.value).map fun x => (k, x)

def map? (f : Written → Option α) : Written → Option (List (String × α))
  | object members _ => members.mapM (pair? f)
  | _ => none

/-- The known members of an object, none of them repeated. -/
def keyed? (shape : Shape τ) (f : τ → Written → Option ν) :
    Record ν → List (Member Written) → Option (Record ν)
  | seen, [] => some seen
  | seen, m :: ms =>
    m.key.text?.bind fun key =>
      match shape.field? key with
      | some fd =>
        if seen.has key then none
        else (f fd.type m.value.value).bind fun x => keyed? shape f (seen ++ [(key, x)]) ms
      | none => keyed? shape f seen ms

/-- Values in the order of the fields; there may be no more values than fields. -/
def positional? (shape : Shape τ) (f : τ → Written → Option ν) :
    List (Field τ) → Record ν → List (Padded Written) → Option (Record ν)
  | [], seen, [] => some seen
  | [], _, _ :: _ => none
  | _ :: _, seen, [] => if shape.partialArray then some seen else none
  | fd :: fds, seen, p :: ps =>
    (f fd.type p.value).bind fun x => positional? shape f fds (seen ++ [(fd.key, x)]) ps

def record? (shape : Shape τ) (f : τ → Written → Option ν) : Written → Option (Record ν)
  | object members _ => keyed? shape f [] members
  | array items _ => positional? shape f shape.fields [] items
  | _ => none

/-- The first byte of a value. -/
def start (v : Written) : UInt8 := v.bytes.headD 0

theorem bytes_eq_cons (v : Written) : ∃ t, v.bytes = v.start :: t := by
  obtain ⟨c, t, hc, -⟩ := v.bytes_head
  exact ⟨t, by rw [start, hc, List.headD_cons]⟩

theorem start_spec (v : Written) : Reader.isBlank v.start = false ∧ v.start ≠ 0x5D ∧ v.start ≠ 0x7D ∧
    v.start ≠ 0x2C := by
  obtain ⟨c, t, hc, h⟩ := v.bytes_head
  rw [start, hc]
  exact h

@[simp] theorem start_null : start null = 0x6E := rfl

@[simp] theorem start_flag (b : Bool) : start (flag b) = if b then 0x74 else 0x66 := by cases b <;> rfl

@[simp] theorem start_text (ps : Spelling) : start (text ps) = 0x22 := rfl

@[simp] theorem start_array (items : List (Padded Written)) (closing : Blanks) :
    start (array items closing) = 0x5B := rfl

@[simp] theorem start_object (members : List (Member Written)) (closing : Blanks) :
    start (object members closing) = 0x7B := rfl

theorem start_number (n : Numeral) : start (number n) = 0x2D ∨ ∃ d, start (number n) = Digits.byte d := by
  cases hneg : n.negative with
  | true => exact .inl (by simp [start, bytes, Numeral.bytes, hneg])
  | false =>
    obtain ⟨d, hd⟩ := Reader.head_magnitude n []
    obtain ⟨t, ht⟩ := List.head?_eq_some_iff.1 hd
    rw [List.append_nil] at ht
    exact .inr ⟨d, by simp [start, bytes, Numeral.bytes, hneg, ht]⟩

theorem start_number_ne (n : Numeral) : start (number n) ≠ 0x6E ∧ start (number n) ≠ 0x74 ∧
    start (number n) ≠ 0x66 ∧ start (number n) ≠ 0x22 ∧ start (number n) ≠ 0x5B ∧
    start (number n) ≠ 0x7B := by
  obtain h | ⟨d, h⟩ := start_number n
  · rw [h]
    decide
  · rw [h]
    have := digit_ne d
    simp [this]

end Written

namespace Reader

open Written

/-- A reader takes one value, with any blanks before it, and makes of it what it means. -/
def Agrees (p : Reader α) (f : Written → Option α) : Prop :=
  ∀ (bs : Blanks) (v : Written) {rest : List UInt8}, Stops rest →
    read? p (bs.bytes ++ (v.bytes ++ rest)) = (f v).map fun x => (x, rest)

theorem read?_peekToken_value (bs : Blanks) (v : Written) (rest : List UInt8) :
    read? peekToken (bs.bytes ++ (v.bytes ++ rest)) = some (some v.start, v.bytes ++ rest) := by
  obtain ⟨t, ht⟩ := v.bytes_eq_cons
  rw [ht, List.cons_append]
  exact read?_peekToken bs v.start_spec.1 _

theorem read?_valueStart_value (bs : Blanks) (v : Written) (rest : List UInt8) :
    read? valueStart (bs.bytes ++ (v.bytes ++ rest)) = some (v.start, v.bytes ++ rest) := by
  simp [valueStart, read?_peekToken_value]

theorem agrees_map {p : Reader α} {f : Written → Option α} (h : Agrees p f) {β : Type} (g : α → β) :
    Agrees (do return g (← p)) fun v => (f v).map g := by
  intro bs v rest hr
  rw [read?_bind, h bs v hr]
  cases hf : f v <;> simp [hf]

theorem agrees_text : Agrees text text? := by
  intro bs v rest hr
  rw [text, read?_bind, read?_valueStart_value, Option.bind_some, read?_ite]
  cases v with
  | text ps =>
    have hs := read?_string ps rest
    simp [Char.toUInt8, Written.bytes, hs, text?]
  | number n =>
    have := start_number_ne n
    simp [Char.toUInt8, this, text?]
  | flag b => cases b <;> simp [Char.toUInt8, text?]
  | _ => simp [Char.toUInt8, text?]

theorem agrees_flag : Agrees flag flag? := by
  intro bs v rest hr
  rw [flag, read?_bind, read?_valueStart_value, Option.bind_some]
  cases v with
  | flag b =>
    cases b with
    | true =>
      have hw := read?_word ['r', 'u', 'e'] rest
      simp [Char.toUInt8] at hw
      simp [Char.toUInt8, Written.bytes, hw, flag?]
    | false =>
      have hw := read?_word ['a', 'l', 's', 'e'] rest
      simp [Char.toUInt8] at hw
      simp [Char.toUInt8, Written.bytes, hw, flag?]
  | number n =>
    have := start_number_ne n
    simp [Char.toUInt8, this, flag?]
  | _ => simp [Char.toUInt8, flag?]

theorem agrees_integer (e : Expected) {low high : Int} (hlow : -0x8000000000000000 ≤ low)
    (hhigh : high < 0x10000000000000000) : Agrees (integer e low high) (Written.integer? low high) := by
  intro bs v rest hr
  cases v with
  | number n => exact read?_integer e hlow hhigh bs n hr
  | flag b =>
    rw [integer, read?_bind, read?_valueStart_value, Option.bind_some]
    cases b <;> simp [Char.toUInt8, isDigit, Written.integer?]
  | _ =>
    rw [integer, read?_bind, read?_valueStart_value, Option.bind_some]
    simp [Char.toUInt8, isDigit, Written.integer?]

theorem agrees_int64 : Agrees int64 int64? :=
  agrees_map (agrees_integer .int64 (by decide) (by decide)) Int64.ofInt

theorem agrees_int32 : Agrees int32 int32? :=
  agrees_map (agrees_integer .int32 (by decide) (by decide)) Int32.ofInt

theorem agrees_nullable {p : Reader α} {f : Written → Option α} (h : Agrees p f) :
    Agrees (nullable p) (nullable? f) := by
  intro bs v rest hr
  have hv := h [] v hr
  rw [Blanks.bytes_nil, List.nil_append] at hv
  rw [nullable, read?_bind, read?_peekToken_value, Option.bind_some]
  cases v with
  | null =>
    have hw := read?_word ['u', 'l', 'l'] rest
    simp [Char.toUInt8] at hw
    simp [Char.toUInt8, Written.bytes, hw, nullable?]
  | number n =>
    have := start_number_ne n
    simp [Char.toUInt8, this, nullable?, hv, Function.comp_def]
  | flag b => cases b <;> simp [Char.toUInt8, nullable?, hv, Function.comp_def]
  | _ => simp [Char.toUInt8, nullable?, hv, Function.comp_def]

end Reader

end GatewayFeed.Json
