import GatewayFeed.Proofs.Json.Meaning

/-! Lists, maps and records agree with their meanings if what they hold does. A record may have
members that nobody asked for, or come as the array of its values. -/

namespace GatewayFeed.Json.Reader

open Written

variable {α τ ν : Type}

theorem read?_moreItems_end (first : Bool) (bs : Blanks) (rest : List UInt8) :
    read? (moreItems first) (bs.bytes ++ 0x5D :: rest) = some (false, 0x5D :: rest) := by
  have hpeek := read?_peekToken bs (show isBlank 0x5D = false by decide) rest
  simp [moreItems, hpeek, Char.toUInt8]

theorem read?_moreItems (first : Bool) (bs before : Blanks) (v : Written) (rest : List UInt8) :
    read? (moreItems first) (bs.bytes ++ (comma first ++ (before.bytes ++ (v.bytes ++ rest)))) =
      some (true, v.bytes ++ rest) := by
  obtain ⟨-, hclose, -, hcomma⟩ := v.start_spec
  cases first with
  | true =>
    rw [comma, if_pos rfl, List.nil_append, bs.append_bytes, moreItems, read?_bind,
      read?_peekToken_value, Option.bind_some]
    simp [Char.toUInt8, hclose]
  | false =>
    have hpeek := read?_peekToken bs (show isBlank 0x2C = false by decide)
      (before.bytes ++ (v.bytes ++ rest))
    simp [moreItems, comma, hpeek, Char.toUInt8, read?_peekToken_value, hclose]

theorem read?_endList (bs : Blanks) (rest : List UInt8) :
    read? endList (bs.bytes ++ 0x5D :: rest) = some ((), rest) := by
  have hpeek := read?_peekToken bs (show isBlank 0x5D = false by decide) rest
  simp [endList, hpeek, Char.toUInt8]

/-- A list may not go on where its end is wanted. -/
theorem read?_endList_item (first : Bool) (bs before : Blanks) (v : Written) (rest : List UInt8) :
    read? endList (bs.bytes ++ (comma first ++ (before.bytes ++ (v.bytes ++ rest)))) = none := by
  obtain ⟨-, hclose, -, hcomma⟩ := v.start_spec
  cases first with
  | true =>
    rw [comma, if_pos rfl, List.nil_append, bs.append_bytes, endList, read?_bind,
      read?_peekToken_value, Option.bind_some]
    simp [Char.toUInt8, hclose, hcomma]
  | false =>
    have hpeek := read?_peekToken bs (show isBlank 0x2C = false by decide)
      (before.bytes ++ (v.bytes ++ rest))
    simp [endList, comma, hpeek, Char.toUInt8, read?_peekToken_value, hclose]

theorem read?_items {p : Reader α} {f : Written → Option α} (h : Agrees p f)
    (ps : List (Padded Written)) {fuel : Nat} (hfuel : ps.length < fuel) (first : Bool)
    (bs closing : Blanks) (rest : List UInt8) :
    read? (items p fuel first) (bs.bytes ++ (itemsBytes first ps ++ (closing.bytes ++ 0x5D :: rest))) =
      (ps.mapM fun q => f q.value).map fun xs => (xs, 0x5D :: rest) := by
  induction ps generalizing fuel first bs with
  | nil =>
    obtain ⟨m, rfl⟩ := Nat.exists_eq_add_of_lt hfuel
    rw [itemsBytes, List.nil_append, bs.append_bytes]
    simp [items, read?_moreItems_end]
  | cons q ps ih =>
    obtain ⟨before, v, after⟩ := q
    obtain ⟨m, rfl⟩ : ∃ m, fuel = m + 1 := ⟨fuel - 1, by omega⟩
    have hm : ps.length < m := Nat.lt_of_succ_lt_succ hfuel
    have hv := h [] v (stops_items after ps closing rest)
    rw [Blanks.bytes_nil, List.nil_append] at hv
    simp only [itemsBytes, List.append_assoc]
    rw [items, read?_bind, read?_moreItems, Option.bind_some, if_pos rfl, read?_bind, hv]
    cases hf : f v with
    | none => simp [hf]
    | some x =>
      simp only [Option.map_some, Option.bind_some, read?_bind, ih hm false after, List.mapM_cons, hf]
      cases ps.mapM fun q => f q.value <;> rfl

theorem length_items_le (first : Bool) (ps : List (Padded Written)) :
    ps.length ≤ (itemsBytes first ps).length := by
  induction ps generalizing first with
  | nil => exact Nat.zero_le _
  | cons q ps ih =>
    obtain ⟨before, v, after⟩ := q
    obtain ⟨t, ht⟩ := v.bytes_eq_cons
    have := ih false
    simp only [itemsBytes, ht, List.length_cons, List.length_append]
    omega

theorem agrees_list {p : Reader α} {f : Written → Option α} (h : Agrees p f) :
    Agrees (list p) (list? f) := by
  intro bs v rest hr
  rw [list, read?_bind, read?_valueStart_value, Option.bind_some]
  cases v with
  | array ps closing =>
    have hfuel : ps.length < (itemsBytes true ps ++ (closing.bytes ++ 0x5D :: rest)).length + 1 := by
      have := length_items_le true ps
      rw [List.length_append]
      omega
    have hitems := read?_items h ps hfuel true [] closing rest
    rw [Blanks.bytes_nil, List.nil_append] at hitems
    have hend := read?_endList [] rest
    rw [Blanks.bytes_nil, List.nil_append] at hend
    rw [if_pos (show start (.array ps closing) = '['.toUInt8 from rfl)]
    simp only [Written.bytes, List.cons_append, List.append_assoc, List.nil_append, read?_bind, read?_skip,
      List.tail_cons, Option.bind_some, read?_remaining, hitems, list?]
    cases ps.mapM fun q => f q.value with
    | none => rfl
    | some xs => simp [hend]
  | number n =>
    have := start_number_ne n
    simp [Char.toUInt8, this, list?]
  | flag b => cases b <;> simp [Char.toUInt8, list?]
  | _ => simp [Char.toUInt8, list?]

theorem read?_moreMembers_end (first : Bool) (bs : Blanks) (rest : List UInt8) :
    read? (moreMembers first) (bs.bytes ++ 0x7D :: rest) = some (false, rest) := by
  have hpeek := read?_peekToken bs (show isBlank 0x7D = false by decide) rest
  simp [moreMembers, hpeek]

theorem read?_moreMembers (first : Bool) (bs before : Blanks) (rest : List UInt8) :
    read? (moreMembers first) (bs.bytes ++ (comma first ++ (before.bytes ++ 0x22 :: rest))) =
      some (true, rest) := by
  have hquote : ∀ bs : Blanks, read? peekToken (bs.bytes ++ 0x22 :: rest) = some (some 0x22, 0x22 :: rest) :=
    fun bs => read?_peekToken bs (by decide) rest
  cases first with
  | true =>
    rw [comma, if_pos rfl, List.nil_append, bs.append_bytes]
    simp [moreMembers, hquote, Char.toUInt8]
  | false =>
    have hpeek := read?_peekToken bs (show isBlank 0x2C = false by decide) (before.bytes ++ 0x22 :: rest)
    simp [moreMembers, comma, hpeek, hquote, Char.toUInt8]

theorem length_members_le (first : Bool) (ms : List (Member Written)) :
    ms.length ≤ (membersBytes first ms).length := by
  induction ms generalizing first with
  | nil => exact Nat.zero_le _
  | cons m ms ih =>
    obtain ⟨before, key, afterKey, ⟨beforeValue, v, after⟩⟩ := m
    have := ih false
    simp only [membersBytes, List.length_cons, List.length_append]
    omega

theorem read?_entries {p : Reader α} {f : Written → Option α} (h : Agrees p f)
    (ms : List (Member Written)) {fuel : Nat} (hfuel : ms.length < fuel) (first : Bool)
    (bs closing : Blanks) (rest : List UInt8) :
    read? (entries p fuel first) (bs.bytes ++ (membersBytes first ms ++ (closing.bytes ++ 0x7D :: rest))) =
      (ms.mapM (pair? f)).map fun xs => (xs, rest) := by
  induction ms generalizing fuel first bs with
  | nil =>
    obtain ⟨m, rfl⟩ := Nat.exists_eq_add_of_lt hfuel
    rw [membersBytes, List.nil_append, bs.append_bytes]
    simp [entries, read?_moreMembers_end]
  | cons m ms ih =>
    obtain ⟨before, key, afterKey, ⟨beforeValue, v, after⟩⟩ := m
    obtain ⟨n, rfl⟩ : ∃ n, fuel = n + 1 := ⟨fuel - 1, by omega⟩
    have hn : ms.length < n := Nat.lt_of_succ_lt_succ hfuel
    have hv := h beforeValue v (stops_members after ms closing rest)
    simp only [membersBytes, List.append_assoc, List.cons_append]
    rw [entries, read?_bind, read?_moreMembers, Option.bind_some, if_pos rfl, read?_bind, read?_string]
    cases hk : key.text? with
    | none => simp [pair?, hk]
    | some k =>
      simp only [Option.map_some, Option.bind_some, read?_bind, read?_colon, hv]
      cases hf : f v with
      | none => simp [pair?, hk, hf]
      | some x =>
        simp only [Option.map_some, Option.bind_some, ih hn false after, List.mapM_cons, pair?, hk, hf]
        cases ms.mapM (pair? f) <;> rfl

theorem agrees_entries {p : Reader α} {f : Written → Option α} (h : Agrees p f) :
    Agrees (map p) (map? f) := by
  intro bs v rest hr
  rw [map, read?_bind, read?_valueStart_value, Option.bind_some]
  cases v with
  | object ms closing =>
    have hfuel : ms.length < (membersBytes true ms ++ (closing.bytes ++ 0x7D :: rest)).length + 1 := by
      have := length_members_le true ms
      rw [List.length_append]
      omega
    have hentries := read?_entries h ms hfuel true [] closing rest
    rw [Blanks.bytes_nil, List.nil_append] at hentries
    rw [if_pos (start_object ms closing)]
    simp only [Written.bytes, List.cons_append, List.append_assoc, List.nil_append, read?_bind, read?_skip,
      List.tail_cons, Option.bind_some, read?_remaining, hentries, map?]
  | number n =>
    have := start_number_ne n
    simp [this, map?]
  | flag b => cases b <;> simp [map?]
  | _ => simp [map?]

theorem read?_members (shape : Shape τ) {p : τ → Reader ν} {f : τ → Written → Option ν}
    (h : ∀ t, Agrees (p t) (f t)) (ms : List (Member Written)) {fuel : Nat} (hfuel : ms.length < fuel)
    (first : Bool) (seen : Record ν) (bs closing : Blanks) (rest : List UInt8) :
    read? (members shape p fuel first seen)
      (bs.bytes ++ (membersBytes first ms ++ (closing.bytes ++ 0x7D :: rest))) =
      (keyed? shape f seen ms).map fun r => (r, rest) := by
  induction ms generalizing fuel first seen bs with
  | nil =>
    obtain ⟨m, rfl⟩ := Nat.exists_eq_add_of_lt hfuel
    rw [membersBytes, List.nil_append, bs.append_bytes]
    simp [members, read?_moreMembers_end, keyed?]
  | cons m ms ih =>
    obtain ⟨before, key, afterKey, ⟨beforeValue, v, after⟩⟩ := m
    obtain ⟨n, rfl⟩ : ∃ n, fuel = n + 1 := ⟨fuel - 1, by omega⟩
    have hn : ms.length < n := Nat.lt_of_succ_lt_succ hfuel
    have hstops := stops_members after ms closing rest
    simp only [membersBytes, List.append_assoc, List.cons_append]
    rw [members, read?_bind, read?_moreMembers, Option.bind_some, if_pos rfl, read?_bind, read?_string,
      keyed?]
    cases hk : key.text? with
    | none => rfl
    | some k =>
      simp only [Option.map_some, Option.bind_some]
      cases hfield : shape.field? k with
      | none =>
        simp only [read?_bind, read?_colon, Option.bind_some, read?_skipValue beforeValue v hstops]
        exact ih hn false seen after
      | some fd =>
        have hv := h fd.type beforeValue v hstops
        by_cases hseen : seen.has k = true
        · simp [hseen]
        · simp only [hseen, if_false, Bool.false_eq_true, read?_bind, read?_colon, Option.bind_some, hv]
          cases hf : f fd.type v with
          | none => rfl
          | some x => exact ih hn false (seen ++ [(k, x)]) after

/-- The array form of a record, with the end of the array. -/
theorem read?_positions (shape : Shape τ) {p : τ → Reader ν} {f : τ → Written → Option ν}
    (h : ∀ t, Agrees (p t) (f t)) (fds : List (Field τ)) (seen : Record ν) (ps : List (Padded Written))
    (bs closing : Blanks) (rest : List UInt8) :
    (read? (positions shape p fds seen)
      (bs.bytes ++ (itemsBytes seen.isEmpty ps ++ (closing.bytes ++ 0x5D :: rest)))).bind
        (fun x => (read? endList x.2).bind fun y => some (x.1, y.2)) =
      (positional? shape f fds seen ps).map fun r => (r, rest) := by
  induction fds generalizing seen ps bs with
  | nil =>
    cases ps with
    | nil =>
      rw [itemsBytes, List.nil_append, bs.append_bytes]
      simp [positions, positional?, read?_endList]
    | cons q ps =>
      obtain ⟨before, v, after⟩ := q
      simp only [itemsBytes, List.append_assoc, positions, positional?, read?_pure, Option.bind_some]
      rw [read?_endList_item]
      rfl
  | cons fd fds ih =>
    cases ps with
    | nil =>
      have hend := read?_endList [] rest
      rw [Blanks.bytes_nil, List.nil_append] at hend
      rw [itemsBytes, List.nil_append, bs.append_bytes]
      simp only [positions, positional?, read?_bind, read?_moreItems_end, Option.bind_some]
      by_cases hpartial : shape.partialArray = true <;> simp [hpartial, hend]
    | cons q ps =>
      obtain ⟨before, v, after⟩ := q
      have hv := h fd.type [] v (stops_items after ps closing rest)
      rw [Blanks.bytes_nil, List.nil_append] at hv
      simp only [itemsBytes, List.append_assoc, positions, positional?]
      rw [read?_bind, read?_moreItems, Option.bind_some, if_pos rfl, read?_bind, hv]
      cases hf : f fd.type v with
      | none => rfl
      | some x =>
        have hempty : (seen ++ [(fd.key, x)]).isEmpty = false := by simp
        have hrest := ih (seen ++ [(fd.key, x)]) ps after
        rw [hempty] at hrest
        exact hrest

theorem agrees_record (shape : Shape τ) {p : τ → Reader ν} {f : τ → Written → Option ν}
    (h : ∀ t, Agrees (p t) (f t)) : Agrees (record shape p) (record? shape f) := by
  intro bs v rest hr
  rw [record, read?_bind, read?_valueStart_value, Option.bind_some]
  cases v with
  | object ms closing =>
    have hfuel : ms.length < (membersBytes true ms ++ (closing.bytes ++ 0x7D :: rest)).length + 1 := by
      have := length_members_le true ms
      rw [List.length_append]
      omega
    have hmembers := read?_members shape h ms hfuel true [] [] closing rest
    rw [Blanks.bytes_nil, List.nil_append] at hmembers
    rw [if_pos (start_object ms closing)]
    simp only [Written.bytes, List.cons_append, List.append_assoc, List.nil_append, read?_bind, read?_skip,
      List.tail_cons, Option.bind_some, read?_remaining, hmembers, record?]
  | array ps closing =>
    have hpositions := read?_positions shape h shape.fields [] ps [] closing rest
    rw [Blanks.bytes_nil, List.nil_append] at hpositions
    rw [if_neg (show ¬ start (.array ps closing) = 0x7B by simp),
      if_pos (show start (.array ps closing) = '['.toUInt8 from rfl)]
    simp only [Written.bytes, List.cons_append, List.append_assoc, List.nil_append, read?_bind, read?_skip,
      List.tail_cons, Option.bind_some, read?_pure, record?]
    rw [← hpositions]
    rfl
  | number n =>
    have := start_number_ne n
    simp [Char.toUInt8, this, record?]
  | flag b => cases b <;> simp [Char.toUInt8, record?]
  | _ => simp [Char.toUInt8, record?]

/-- A document is one value with blanks around it. -/
theorem toOption_document {p : Reader α} {f : Written → Option α} (h : Agrees p f) (before : Blanks)
    (v : Written) (after : Blanks) :
    (document p (before.bytes ++ (v.bytes ++ after.bytes))).toOption = f v := by
  have hstops : Stops after.bytes := by
    have := after.stops_append stops_nil
    rwa [List.append_nil] at this
  have hv := h before v hstops
  have hend := read?_endOfInput after
  unfold read? at hv hend
  unfold document
  cases hp : p (before.bytes ++ (v.bytes ++ after.bytes)) with
  | error e =>
    rw [hp] at hv
    cases hf : f v with
    | none => rfl
    | some x => simp [hf, Except.toOption] at hv
  | ok y =>
    rw [hp] at hv
    cases hf : f v with
    | none => simp [hf, Except.toOption] at hv
    | some x =>
      obtain rfl : y = (x, after.bytes) := by simpa [hf, Except.toOption] using hv
      cases he : endOfInput after.bytes with
      | error e => simp [he, Except.toOption] at hend
      | ok u => simp [he, Except.toOption]

end GatewayFeed.Json.Reader
