import GatewayFeed.Proofs.Json.TakenNumber

/-! What passing over a value has taken: one value. A step inside the open frames is read backwards, from what
the steps after it have taken to what it has taken itself, and the induction is on the fuel. -/

namespace GatewayFeed.Json

/-- The rest of an open container: items or members, which `first` says whether any stood before, and its end. -/
def Frame.Closes (first : Bool) : Frame → List UInt8 → List UInt8 → Prop
  | .list, bs, rest => ∃ (gap : Blanks) (items : List (Padded Written)) (closing : Blanks),
      bs = gap.bytes ++ (Written.itemsBytes first items ++ (closing.bytes ++ 0x5D :: rest))
  | .object, bs, rest => ∃ (gap : Blanks) (members : List (Member Written)) (closing : Blanks),
      bs = gap.bytes ++ (Written.membersBytes first members ++ (closing.bytes ++ 0x7D :: rest))

/-- What stands before a value in a container: in an object the key and its colon. -/
def Frame.Keyed : Frame → List UInt8 → List UInt8 → Prop
  | .list, bs, rest => bs = rest
  | .object, bs, rest => ∃ (before : Blanks) (key : Spelling) (afterKey : Blanks),
      bs = before.bytes ++ (0x22 :: Spelling.bytes key ++ (afterKey.bytes ++ 0x3A :: rest))

def Frame.opening : Frame → UInt8
  | .list => 0x5B
  | .object => 0x7B

namespace Frame

variable {first : Bool} {f : Frame} {bs rest t t' : List UInt8}

theorem closes_end (first : Bool) (f : Frame) (gap : Blanks) (rest : List UInt8) :
    f.Closes first (gap.bytes ++ f.closing :: rest) rest := by
  cases f with
  | list => exact ⟨gap, [], [], rfl⟩
  | object => exact ⟨gap, [], [], rfl⟩

theorem closes_cons (gap : Blanks) (hkey : f.Keyed bs t) {before : Blanks} {v : Written}
    (hv : t = before.bytes ++ (v.bytes ++ t')) (h : f.Closes false t' rest) :
    f.Closes first (gap.bytes ++ (Written.comma first ++ bs)) rest := by
  subst hv
  cases f with
  | list =>
    obtain rfl := hkey
    obtain ⟨gap', items, closing, rfl⟩ := h
    exact ⟨gap, ⟨before, v, gap'⟩ :: items, closing, by simp [Written.itemsBytes]⟩
  | object =>
    obtain ⟨beforeKey, key, afterKey, rfl⟩ := hkey
    obtain ⟨gap', members, closing, rfl⟩ := h
    exact ⟨gap, ⟨beforeKey, key, afterKey, ⟨before, v, gap'⟩⟩ :: members, closing,
      by simp [Written.membersBytes]⟩

/-- A container that was opened and closed is a value. -/
theorem exists_value (h : f.Closes true bs rest) : ∃ v : Written, f.opening :: bs = v.bytes ++ rest := by
  cases f with
  | list =>
    obtain ⟨gap, items, closing, rfl⟩ := h
    cases items with
    | nil => exact ⟨.array [] (gap ++ closing), by simp [Written.bytes, Written.itemsBytes, opening, Blanks.bytes]⟩
    | cons p items =>
      obtain ⟨before, v, after⟩ := p
      refine ⟨.array (⟨gap ++ before, v, after⟩ :: items) closing, ?_⟩
      simp [Written.bytes, Written.itemsBytes, Written.comma, opening, Blanks.bytes]
  | object =>
    obtain ⟨gap, members, closing, rfl⟩ := h
    cases members with
    | nil =>
      exact ⟨.object [] (gap ++ closing), by simp [Written.bytes, Written.membersBytes, opening, Blanks.bytes]⟩
    | cons m members =>
      obtain ⟨before, key, afterKey, value⟩ := m
      refine ⟨.object (⟨gap ++ before, key, afterKey, value⟩ :: members) closing, ?_⟩
      simp [Written.bytes, Written.membersBytes, Written.comma, opening, Blanks.bytes]

end Frame

namespace Reader

variable {bs rest t : List UInt8}

/-- What follows a value inside the open frames: the rest of every one of them. -/
def Ends : List Frame → List UInt8 → List UInt8 → Prop
  | [], bs, rest => bs = rest
  | f :: frames, bs, rest => ∃ t, f.Closes false bs t ∧ Ends frames t rest

def Expects : List Frame → Awaited → List UInt8 → List UInt8 → Prop
  | frames, .value, bs, rest =>
    ∃ (before : Blanks) (v : Written) (t : List UInt8), bs = before.bytes ++ (v.bytes ++ t) ∧ Ends frames t rest
  | [], _, bs, rest => bs = rest
  | f :: frames, .content, bs, rest => ∃ t, f.Closes true bs t ∧ Ends frames t rest
  | f :: frames, .rest, bs, rest => Ends (f :: frames) bs rest

theorem exists_of_skipToken {opened : Option Frame} (h : read? skipToken bs = some (opened, rest)) :
    (opened = none ∧ ∃ (before : Blanks) (v : Written), bs = before.bytes ++ (v.bytes ++ rest)) ∨
      ∃ (f : Frame) (before : Blanks), opened = some f ∧ bs = before.bytes ++ f.opening :: rest := by
  obtain ⟨before, c, t, rfl, hc⟩ := exists_of_peekToken h rfl
  simp only [read?_ite] at hc
  split at hc
  · rename_i hfirst
    subst hfirst
    obtain ⟨hword, rfl⟩ := eq_of_word_value .null rfl hc
    exact .inl ⟨rfl, before, .null, by rw [hword]⟩
  split at hc
  · rename_i hfirst
    subst hfirst
    obtain ⟨hword, rfl⟩ := eq_of_word_value (.flag true) rfl hc
    exact .inl ⟨rfl, before, .flag true, by rw [hword]⟩
  split at hc
  · rename_i hfirst
    subst hfirst
    obtain ⟨hword, rfl⟩ := eq_of_word_value (.flag false) rfl hc
    exact .inl ⟨rfl, before, .flag false, by rw [hword]⟩
  split at hc
  · rename_i hminus
    rw [read?_skip_bind] at hc
    obtain ⟨_, t', hnumber, hdone⟩ := exists_of_read?_bind hc
    cases hdone
    obtain ⟨n, hn, rfl⟩ := exists_of_skipNumber hnumber true
    exact .inl ⟨rfl, before, .number n, by rw [hminus, Written.bytes, Numeral.bytes, if_pos hn]; rfl⟩
  split at hc
  · obtain ⟨_, t', hnumber, hdone⟩ := exists_of_read?_bind hc
    cases hdone
    obtain ⟨n, hn, ht⟩ := exists_of_skipNumber hnumber false
    exact .inl ⟨rfl, before, .number n, by rw [ht, Written.bytes, Numeral.bytes, hn]; rfl⟩
  split at hc
  · rename_i hquote
    rw [read?_skip_bind] at hc
    obtain ⟨_, t', hremaining, hc⟩ := exists_of_read?_bind hc
    cases hremaining
    obtain ⟨_, t', hstring, hdone⟩ := exists_of_read?_bind hc
    cases hdone
    obtain ⟨ps, rfl⟩ := exists_of_skipString hstring
    exact .inl ⟨rfl, before, .text ps, by rw [hquote]; rfl⟩
  split at hc
  · rename_i hopen
    cases hc
    exact .inr ⟨.list, before, rfl, by rw [hopen]; rfl⟩
  split at hc
  · rename_i hopen
    cases hc
    exact .inr ⟨.object, before, rfl, by rw [hopen]; rfl⟩
  · cases hc

theorem keyed_of_skipKey {f : Frame} {u : Unit} (h : read? (skipKey f) bs = some (u, rest)) :
    f.Keyed bs rest := by
  cases f with
  | list =>
    cases h
    rfl
  | object =>
    obtain ⟨before, c, t, rfl, hc⟩ := exists_of_peekToken h rfl
    rw [read?_ite] at hc
    split at hc
    · rename_i hquote
      rw [read?_skip_bind] at hc
      obtain ⟨_, t', hremaining, hc⟩ := exists_of_read?_bind hc
      cases hremaining
      obtain ⟨_, t', hstring, hcolon⟩ := exists_of_read?_bind hc
      obtain ⟨ps, rfl⟩ := exists_of_skipString hstring
      obtain ⟨afterKey, rfl⟩ := exists_of_colon hcolon
      exact ⟨before, ps, afterKey, by rw [hquote]; rfl⟩
    · cases hc

/-- What the steps after a step take. -/
def Follows : Option (List Frame × Awaited) → List UInt8 → List UInt8 → Prop
  | none, bs, rest => bs = rest
  | some s, bs, rest => Expects s.1 s.2 bs rest

section Steps

variable {f : Frame} {frames : List Frame} {next? : Option (List Frame × Awaited)}

/-- A step behind the end of a value. -/
theorem ends_of_resume
    (hread : read? (do return if frames.isEmpty then none else some (frames, .rest)) bs = some (next?, t))
    (hnext : Follows next? t rest) : Ends frames bs rest := by
  cases frames <;>
  · cases hread
    exact hnext

/-- A step up to a value in a container. -/
theorem closes_of_key (hread : read? (do skipKey f; return some (f :: frames, .value)) bs = some (next?, t))
    (hnext : Follows next? t rest) (gap : Blanks) (first : Bool) :
    ∃ t, f.Closes first (gap.bytes ++ (Written.comma first ++ bs)) t ∧ Ends frames t rest := by
  obtain ⟨_, t', hkey, hdone⟩ := exists_of_read?_bind hread
  cases hdone
  obtain ⟨before, v, t', rfl, t'', hcloses, hends⟩ := hnext
  exact ⟨t'', Frame.closes_cons gap (keyed_of_skipKey hkey) rfl hcloses, hends⟩

theorem expects_of_step {awaited : Awaited} (hread : read? (skipStep frames awaited) bs = some (next?, t))
    (hnext : Follows next? t rest) : Expects frames awaited bs rest := by
  match frames, awaited with
  | frames, .value =>
    rw [skipStep] at hread
    obtain ⟨opened, t', htoken, hdone⟩ := exists_of_read?_bind hread
    obtain ⟨rfl, before, v, rfl⟩ | ⟨f, before, rfl, rfl⟩ := exists_of_skipToken htoken
    · exact ⟨before, v, t', rfl, ends_of_resume hdone hnext⟩
    · cases hdone
      obtain ⟨t', hcloses, hends⟩ := hnext
      obtain ⟨v, hv⟩ := Frame.exists_value hcloses
      exact ⟨before, v, t', by rw [hv], hends⟩
  | [], .content =>
    cases hread
    exact hnext
  | [], .rest =>
    cases hread
    exact hnext
  | f :: frames, .content =>
    obtain ⟨gap, c, t', rfl, hc⟩ := exists_of_peekToken hread rfl
    rw [read?_ite, read?_ite] at hc
    split at hc
    · rename_i hclosing
      rw [read?_skip_bind] at hc
      exact ⟨t', hclosing ▸ Frame.closes_end true f gap t', ends_of_resume hc hnext⟩
    · exact closes_of_key hc hnext gap true
  | f :: frames, .rest =>
    obtain ⟨gap, c, t', rfl, hc⟩ := exists_of_peekToken hread rfl
    rw [read?_ite, read?_ite, read?_ite] at hc
    split at hc
    · rename_i hclosing
      rw [read?_skip_bind] at hc
      exact ⟨t', hclosing ▸ Frame.closes_end false f gap t', ends_of_resume hc hnext⟩
    split at hc
    · rename_i hne
      cases hne
    split at hc
    · rename_i hcomma
      rw [read?_skip_bind] at hc
      rw [hcomma]
      exact closes_of_key hc hnext gap false
    · cases hc

end Steps

theorem expects_of_skipSteps {fuel : Nat} {frames : List Frame} {awaited : Awaited} {u : Unit}
    (h : read? (skipSteps fuel frames awaited) bs = some (u, rest)) : Expects frames awaited bs rest := by
  induction fuel generalizing frames awaited bs with
  | zero => cases h
  | succ fuel ih =>
    obtain ⟨next?, t, hstep, hmore⟩ := exists_of_read?_bind h
    refine expects_of_step hstep ?_
    cases next? with
    | none =>
      cases hmore
      rfl
    | some s => exact ih hmore

theorem takes_skipValue : Takes skipValue := by
  intro bs u rest h
  obtain ⟨n, t, hremaining, hsteps⟩ := exists_of_read?_bind h
  cases hremaining
  obtain ⟨before, v, t, rfl, rfl⟩ := expects_of_skipSteps hsteps
  exact ⟨before, v, rfl⟩

end Reader

end GatewayFeed.Json
