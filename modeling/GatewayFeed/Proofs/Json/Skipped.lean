import GatewayFeed.Proofs.Json.Numeral
import GatewayFeed.Proofs.Json.Spelling

/-! A value that nobody asked for is passed over as a whole, whatever it is and however deep it nests.
The induction is on the value, for every stack of open frames below it. -/

namespace GatewayFeed.Json

@[simp] theorem Blanks.bytes_nil : Blanks.bytes [] = [] := rfl

theorem Blanks.append_bytes (as bs : Blanks) (rest : List UInt8) :
    Blanks.bytes as ++ (Blanks.bytes bs ++ rest) = Blanks.bytes (as ++ bs) ++ rest := by
  simp [Blanks.bytes]

namespace Written

/-- A value starts with a byte that is no blank and closes nothing. -/
theorem bytes_head (v : Written) : ∃ c t, v.bytes = c :: t ∧ Reader.isBlank c = false ∧
    c ≠ 0x5D ∧ c ≠ 0x7D ∧ c ≠ 0x2C := by
  cases v with
  | null => exact ⟨_, _, rfl, by decide⟩
  | flag b => cases b <;> exact ⟨_, _, rfl, by decide⟩
  | number n =>
    obtain ⟨c, t, hc, hb, hstart⟩ := Reader.bytes_numeral n
    refine ⟨c, t, by rw [bytes, hc], hb, ?_⟩
    rcases hstart with rfl | hd
    · decide
    · refine ⟨?_, ?_, ?_⟩ <;> rintro rfl <;> cases hd
  | text ps => exact ⟨_, _, rfl, by decide⟩
  | array items closing => exact ⟨_, _, rfl, by decide⟩
  | object members closing => exact ⟨_, _, rfl, by decide⟩

mutual

/-- Steps that passing over a value takes. -/
def steps : Written → Nat
  | array items _ => 2 + itemsSteps items
  | object members _ => 2 + membersSteps members
  | _ => 1

def itemsSteps : List (Padded Written) → Nat
  | [] => 0
  | ⟨_, v, _⟩ :: items => 1 + steps v + itemsSteps items

def membersSteps : List (Member Written) → Nat
  | [] => 0
  | ⟨_, _, _, ⟨_, v, _⟩⟩ :: members => 1 + steps v + membersSteps members

end

mutual

theorem steps_lt : (v : Written) → v.steps < 2 * v.bytes.length
  | null => by decide
  | flag b => by cases b <;> decide
  | number n => by
    obtain ⟨c, t, hc, -⟩ := Reader.bytes_numeral n
    simp only [steps, bytes, hc, List.length_cons]
    omega
  | text ps => by
    simp only [steps, bytes, List.length_cons]
    omega
  | array items closing => by
    have := itemsSteps_le true items
    simp only [steps, bytes, List.length_cons, List.length_append]
    omega
  | object members closing => by
    have := membersSteps_le true members
    simp only [steps, bytes, List.length_cons, List.length_append]
    omega

theorem itemsSteps_le (first : Bool) : (items : List (Padded Written)) →
    itemsSteps items ≤ 2 * (itemsBytes first items).length
  | [] => Nat.zero_le _
  | ⟨before, v, after⟩ :: items => by
    have := steps_lt v
    have := itemsSteps_le false items
    simp only [itemsSteps, itemsBytes, List.length_append]
    omega

theorem membersSteps_le (first : Bool) : (members : List (Member Written)) →
    membersSteps members ≤ 2 * (membersBytes first members).length
  | [] => Nat.zero_le _
  | ⟨before, key, afterKey, ⟨beforeValue, v, after⟩⟩ :: members => by
    have := steps_lt v
    have := membersSteps_le false members
    simp only [membersSteps, membersBytes, List.length_cons, List.length_append]
    omega

end

end Written

namespace Reader

open Written (itemsBytes membersBytes itemsSteps membersSteps)

theorem read?_skipToken_number (bs : Blanks) (n : Numeral) {rest : List UInt8} (h : Stops rest) :
    read? skipToken (bs.bytes ++ (n.bytes ++ rest)) = some (none, rest) := by
  have hskip := read?_skipNumber n h
  cases hneg : n.negative with
  | true =>
    have hbytes : n.bytes = 0x2D :: n.magnitudeBytes := by simp [Numeral.bytes, hneg]
    rw [hbytes, List.cons_append, skipToken, read?_bind,
      read?_peekToken bs (show isBlank 0x2D = false by decide), Option.bind_some]
    simp [Char.toUInt8, hskip]
  | false =>
    have hbytes : n.bytes = n.magnitudeBytes := by simp [Numeral.bytes, hneg]
    obtain ⟨d, hd⟩ := head_magnitude n rest
    obtain ⟨t, ht⟩ := List.head?_eq_some_iff.1 hd
    rw [ht] at hskip
    rw [hbytes, ht, skipToken, read?_bind, read?_peekToken bs (isBlank_digit d), Option.bind_some]
    have hne := digit_ne d
    simp [Char.toUInt8, hskip, hne, isDigit_byte]

/-- What follows a value inside the open frames. -/
def resume (fuel : Nat) (frames : List Frame) : Reader Unit :=
  if frames.isEmpty then pure () else skipSteps fuel frames .rest

/-- A value that is no container takes one step. -/
theorem read?_skip_scalar {bs rest : List UInt8} (h : read? skipToken bs = some (none, rest))
    (fuel : Nat) (frames : List Frame) :
    read? (skipSteps (1 + fuel) frames .value) bs = read? (resume fuel frames) rest := by
  rw [Nat.add_comm]
  cases frames with
  | nil => simp [skipSteps, skipStep, h, resume]
  | cons f frames => simp [skipSteps, skipStep, h, resume]

theorem read?_skip_open (fuel : Nat) (frames : List Frame) {bs rest : List UInt8} {f : Frame}
    (h : read? skipToken bs = some (some f, rest)) :
    read? (skipSteps (1 + fuel) frames .value) bs = read? (skipSteps fuel (f :: frames) .content) rest := by
  rw [Nat.add_comm]
  cases frames <;> simp [skipSteps, skipStep, h]

theorem isBlank_closing (f : Frame) : isBlank f.closing = false := by cases f <;> decide

theorem read?_skip_close (fuel : Nat) (f : Frame) (frames : List Frame) {awaited : Awaited}
    (ha : awaited ≠ .value) (bs : Blanks) (rest : List UInt8) :
    read? (skipSteps (fuel + 1) (f :: frames) awaited) (bs.bytes ++ f.closing :: rest) =
      read? (resume fuel frames) rest := by
  have hpeek := read?_peekToken bs (isBlank_closing f) rest
  cases awaited with
  | value => exact absurd rfl ha
  | content => cases frames <;> simp [skipSteps, skipStep, hpeek, resume]
  | rest => cases frames <;> simp [skipSteps, skipStep, hpeek, resume]

theorem read?_skip_first (fuel : Nat) (f : Frame) (frames : List Frame) (bs : Blanks) {c : UInt8}
    (hb : isBlank c = false) (hc : c ≠ f.closing) (rest : List UInt8) :
    read? (skipSteps (fuel + 1) (f :: frames) .content) (bs.bytes ++ c :: rest) =
      (read? (skipKey f) (c :: rest)).bind fun x => read? (skipSteps fuel (f :: frames) .value) x.2 := by
  simp [skipSteps, skipStep, read?_peekToken bs hb, hc]
  cases read? (skipKey f) (c :: rest) <;> rfl

theorem read?_skip_comma (fuel : Nat) (f : Frame) (frames : List Frame) (bs : Blanks)
    (rest : List UInt8) :
    read? (skipSteps (fuel + 1) (f :: frames) .rest) (bs.bytes ++ 0x2C :: rest) =
      (read? (skipKey f) rest).bind fun x => read? (skipSteps fuel (f :: frames) .value) x.2 := by
  have hpeek := read?_peekToken bs (show isBlank 0x2C = false by decide) rest
  have hc : (0x2C : UInt8) ≠ f.closing := by cases f <;> decide
  simp [skipSteps, skipStep, hpeek, hc, Char.toUInt8]
  cases read? (skipKey f) rest <;> rfl

theorem read?_skipKey (bs : Blanks) (key : Spelling) (afterKey : Blanks) (rest : List UInt8) :
    read? (skipKey .object)
      (bs.bytes ++ 0x22 :: (Spelling.bytes key ++ (afterKey.bytes ++ 0x3A :: rest))) = some ((), rest) := by
  have hpeek := read?_peekToken bs (show isBlank 0x22 = false by decide)
    (Spelling.bytes key ++ (afterKey.bytes ++ 0x3A :: rest))
  have hfuel : key.length < (Spelling.bytes key ++ (afterKey.bytes ++ 0x3A :: rest)).length + 1 := by
    have := length_bytes key
    rw [List.length_append]
    omega
  simp only [skipKey, read?_bind, hpeek, Option.bind_some, read?_ite]
  simp only [show (0x22 : UInt8) = '"'.toUInt8 from rfl, if_true, read?_skip, Option.bind_some,
    read?_remaining, List.tail_cons, read?_skipString hfuel, read?_colon]

/-- What awaits the reader before the next item or member. -/
def awaitedItem (first : Bool) : Awaited := if first then .content else .rest

theorem awaitedItem_ne (first : Bool) : awaitedItem first ≠ .value := by cases first <;> decide

theorem read?_skipToken_null (bs : Blanks) (rest : List UInt8) :
    read? skipToken (bs.bytes ++ (Written.null.bytes ++ rest)) = some (none, rest) := by
  have hpeek := read?_peekToken bs (show isBlank 0x6E = false by decide) (0x75 :: 0x6C :: 0x6C :: rest)
  have hword := read?_word ['u', 'l', 'l'] rest
  simp [Char.toUInt8] at hword
  simp [skipToken, Written.bytes, hpeek, hword, Char.toUInt8]

theorem read?_skipToken_flag (bs : Blanks) (b : Bool) (rest : List UInt8) :
    read? skipToken (bs.bytes ++ ((Written.flag b).bytes ++ rest)) = some (none, rest) := by
  cases b with
  | true =>
    have hpeek := read?_peekToken bs (show isBlank 0x74 = false by decide) (0x72 :: 0x75 :: 0x65 :: rest)
    have hword := read?_word ['r', 'u', 'e'] rest
    simp [Char.toUInt8] at hword
    simp [skipToken, Written.bytes, hpeek, hword, Char.toUInt8]
  | false =>
    have hpeek := read?_peekToken bs (show isBlank 0x66 = false by decide)
      (0x61 :: 0x6C :: 0x73 :: 0x65 :: rest)
    have hword := read?_word ['a', 'l', 's', 'e'] rest
    simp [Char.toUInt8] at hword
    simp [skipToken, Written.bytes, hpeek, hword, Char.toUInt8]

theorem read?_skipToken_text (bs : Blanks) (ps : Spelling) (rest : List UInt8) :
    read? skipToken (bs.bytes ++ ((Written.text ps).bytes ++ rest)) = some (none, rest) := by
  have hpeek := read?_peekToken bs (show isBlank 0x22 = false by decide) (Spelling.bytes ps ++ rest)
  have hfuel : ps.length < (Spelling.bytes ps ++ rest).length + 1 := by
    have := length_bytes ps
    rw [List.length_append]
    omega
  have hskip := read?_skipString hfuel rest
  rw [List.length_append] at hskip
  simp [skipToken, Written.bytes, hpeek, hskip, Char.toUInt8, isDigit]

theorem read?_skipToken_array (bs : Blanks) (items : List (Padded Written)) (closing : Blanks)
    (rest : List UInt8) :
    read? skipToken (bs.bytes ++ ((Written.array items closing).bytes ++ rest)) =
      some (some .list, itemsBytes true items ++ (closing.bytes ++ 0x5D :: rest)) := by
  have hpeek := read?_peekToken bs (show isBlank 0x5B = false by decide)
    (itemsBytes true items ++ (closing.bytes ++ 0x5D :: rest))
  simp [skipToken, Written.bytes, hpeek, Char.toUInt8, isDigit]

theorem read?_skipToken_object (bs : Blanks) (members : List (Member Written)) (closing : Blanks)
    (rest : List UInt8) :
    read? skipToken (bs.bytes ++ ((Written.object members closing).bytes ++ rest)) =
      some (some .object, membersBytes true members ++ (closing.bytes ++ 0x7D :: rest)) := by
  have hpeek := read?_peekToken bs (show isBlank 0x7B = false by decide)
    (membersBytes true members ++ (closing.bytes ++ 0x7D :: rest))
  simp [skipToken, Written.bytes, hpeek, Char.toUInt8, isDigit]

/-- No number goes on after an item or a member. -/
theorem stops_items (after : Blanks) (items : List (Padded Written)) (closing : Blanks)
    (rest : List UInt8) :
    Stops (after.bytes ++ (itemsBytes false items ++ (closing.bytes ++ 0x5D :: rest))) := by
  refine after.stops_append ?_
  cases items with
  | nil => exact closing.stops_append ((stops_cons _ _).2 (by decide))
  | cons p items => exact (stops_cons _ _).2 (by decide)

theorem stops_members (after : Blanks) (members : List (Member Written)) (closing : Blanks)
    (rest : List UInt8) :
    Stops (after.bytes ++ (membersBytes false members ++ (closing.bytes ++ 0x7D :: rest))) := by
  refine after.stops_append ?_
  cases members with
  | nil => exact closing.stops_append ((stops_cons _ _).2 (by decide))
  | cons m members => exact (stops_cons _ _).2 (by decide)

mutual

theorem read?_skipSteps : (v : Written) → (bs : Blanks) → (fuel : Nat) → (frames : List Frame) →
    {rest : List UInt8} → Stops rest →
    read? (skipSteps (v.steps + fuel) frames .value) (bs.bytes ++ (v.bytes ++ rest)) =
      read? (resume fuel frames) rest
  | .null, bs, fuel, frames, rest, _ => read?_skip_scalar (read?_skipToken_null bs rest) fuel frames
  | .flag b, bs, fuel, frames, rest, _ => read?_skip_scalar (read?_skipToken_flag bs b rest) fuel frames
  | .number n, bs, fuel, frames, rest, h => read?_skip_scalar (read?_skipToken_number bs n h) fuel frames
  | .text ps, bs, fuel, frames, rest, _ => read?_skip_scalar (read?_skipToken_text bs ps rest) fuel frames
  | .array items closing, bs, fuel, frames, rest, _ => by
    have hsteps : (Written.array items closing).steps + fuel = 1 + (itemsSteps items + 1 + fuel) := by
      rw [Written.steps]
      omega
    rw [hsteps, read?_skip_open _ frames (read?_skipToken_array bs items closing rest)]
    exact read?_skipSteps_items items true [] closing fuel frames rest
  | .object members closing, bs, fuel, frames, rest, _ => by
    have hsteps : (Written.object members closing).steps + fuel = 1 + (membersSteps members + 1 + fuel) := by
      rw [Written.steps]
      omega
    rw [hsteps, read?_skip_open _ frames (read?_skipToken_object bs members closing rest)]
    exact read?_skipSteps_members members true [] closing fuel frames rest

theorem read?_skipSteps_items : (items : List (Padded Written)) → (first : Bool) →
    (bs closing : Blanks) → (fuel : Nat) → (frames : List Frame) → (rest : List UInt8) →
    read? (skipSteps (itemsSteps items + 1 + fuel) (.list :: frames) (awaitedItem first))
      (bs.bytes ++ (itemsBytes first items ++ (closing.bytes ++ 0x5D :: rest))) =
      read? (resume fuel frames) rest
  | [], first, bs, closing, fuel, frames, rest => by
    have hsteps : itemsSteps [] + 1 + fuel = fuel + 1 := by
      rw [itemsSteps]
      omega
    rw [itemsBytes, List.nil_append, bs.append_bytes, hsteps]
    exact read?_skip_close fuel .list frames (awaitedItem_ne first) (bs ++ closing) rest
  | ⟨before, v, after⟩ :: items, first, bs, closing, fuel, frames, rest => by
    have hsteps : itemsSteps (⟨before, v, after⟩ :: items) + 1 + fuel =
        v.steps + (itemsSteps items + 1 + fuel) + 1 := by
      rw [itemsSteps]
      omega
    have hv := read?_skipSteps v
    have hitems := read?_skipSteps_items items false after closing fuel frames rest
    have hstops := stops_items after items closing rest
    obtain ⟨c, t, hc, hb, hne, -, -⟩ := v.bytes_head
    rw [hsteps]
    cases first with
    | true =>
      have hval := hv [] (itemsSteps items + 1 + fuel) (.list :: frames) hstops
      simp only [itemsBytes, Written.comma, if_true, List.nil_append, List.append_assoc]
      rw [bs.append_bytes, hc, List.cons_append]
      rw [awaitedItem, if_pos rfl, read?_skip_first _ .list _ _ hb hne]
      rw [Blanks.bytes_nil, List.nil_append, hc, List.cons_append] at hval
      exact hval.trans hitems
    | false =>
      have hval := hv before (itemsSteps items + 1 + fuel) (.list :: frames) hstops
      simp only [itemsBytes, Written.comma, List.append_assoc]
      exact (read?_skip_comma _ .list frames bs _).trans (hval.trans hitems)

theorem read?_skipSteps_members : (members : List (Member Written)) → (first : Bool) →
    (bs closing : Blanks) → (fuel : Nat) → (frames : List Frame) → (rest : List UInt8) →
    read? (skipSteps (membersSteps members + 1 + fuel) (.object :: frames) (awaitedItem first))
      (bs.bytes ++ (membersBytes first members ++ (closing.bytes ++ 0x7D :: rest))) =
      read? (resume fuel frames) rest
  | [], first, bs, closing, fuel, frames, rest => by
    have hsteps : membersSteps [] + 1 + fuel = fuel + 1 := by
      rw [membersSteps]
      omega
    rw [membersBytes, List.nil_append, bs.append_bytes, hsteps]
    exact read?_skip_close fuel .object frames (awaitedItem_ne first) (bs ++ closing) rest
  | ⟨before, key, afterKey, ⟨beforeValue, v, after⟩⟩ :: members, first, bs, closing, fuel, frames, rest => by
    have hsteps : membersSteps (⟨before, key, afterKey, ⟨beforeValue, v, after⟩⟩ :: members) + 1 + fuel =
        v.steps + (membersSteps members + 1 + fuel) + 1 := by
      rw [membersSteps]
      omega
    have hval := read?_skipSteps v beforeValue (membersSteps members + 1 + fuel) (.object :: frames)
      (stops_members after members closing rest)
    have hmembers := read?_skipSteps_members members false after closing fuel frames rest
    rw [hsteps]
    cases first with
    | true =>
      have hkey := read?_skipKey [] key afterKey (beforeValue.bytes ++ (v.bytes ++ (after.bytes
        ++ (membersBytes false members ++ (closing.bytes ++ 0x7D :: rest)))))
      simp only [membersBytes, Written.comma, if_true, List.nil_append, List.append_assoc, List.cons_append]
      rw [bs.append_bytes, awaitedItem, if_pos rfl,
        read?_skip_first _ _ _ _ (show isBlank 0x22 = false by decide) (by decide)]
      rw [Blanks.bytes_nil, List.nil_append] at hkey
      rw [hkey]
      exact hval.trans hmembers
    | false =>
      have hkey := read?_skipKey before key afterKey (beforeValue.bytes ++ (v.bytes ++ (after.bytes
        ++ (membersBytes false members ++ (closing.bytes ++ 0x7D :: rest)))))
      simp only [membersBytes, Written.comma, List.append_assoc, List.cons_append]
      refine (read?_skip_comma _ .object frames bs (before.bytes ++ _)).trans ?_
      rw [hkey]
      exact hval.trans hmembers

end

/-- A value of any size, depth and spelling is passed over. -/
theorem read?_skipValue (bs : Blanks) (v : Written) {rest : List UInt8} (h : Stops rest) :
    read? skipValue (bs.bytes ++ (v.bytes ++ rest)) = some ((), rest) := by
  have hlt := v.steps_lt
  have hlen : (bs.bytes ++ (v.bytes ++ rest)).length =
      bs.bytes.length + (v.bytes.length + rest.length) := by rw [List.length_append, List.length_append]
  obtain ⟨fuel, hfuel⟩ : ∃ fuel, 2 * (bs.bytes ++ (v.bytes ++ rest)).length + 2 = v.steps + fuel :=
    ⟨2 * (bs.bytes ++ (v.bytes ++ rest)).length + 2 - v.steps, by omega⟩
  rw [skipValue, read?_bind, read?_remaining, Option.bind_some, hfuel]
  exact read?_skipSteps v bs fuel [] h

end Reader

end GatewayFeed.Json
