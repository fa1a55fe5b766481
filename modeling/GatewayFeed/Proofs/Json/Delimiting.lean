import GatewayFeed.Proofs.Json.Numeral

/-! More input behind what a reader takes. A reader that sees its end takes the same from every longer input
and leaves the rest of that. A number has no end of its own: something must follow it, for otherwise it could
go on. Readers with fuel have more of it for the longer input. -/

namespace GatewayFeed.Json.Reader

variable {α β : Type} {P Q : List UInt8 → Prop} {p p' : Reader α} {bs : List UInt8}

/-- What `p` takes of this input, `p'` takes of every longer one, if what is left of this one is as `P` says. -/
def Extends (P : List UInt8 → Prop) (p p' : Reader α) (bs : List UInt8) : Prop :=
  ∀ x rest, read? p bs = some (x, rest) → P rest →
    ∀ more, read? p' (bs ++ more) = some (x, rest ++ more)

/-- Fuel for another step and more is left with enough for what comes after it. -/
theorem exists_fuel {n m : Nat} (h : n + 1 ≤ m) : ∃ k, m = k + 1 ∧ n ≤ k := ⟨m - 1, by omega, by omega⟩

/-- The reader sees where it has to end. -/
def SelfDelimiting (p : Reader α) : Prop := ∀ bs, Extends (fun _ => True) p p bs

/-- The reader sees where it has to end, unless the input ends there. -/
structure Delimited (p : Reader α) : Prop where
  more : ∀ bs, Extends (· ≠ []) p p bs
  /-- Of nothing it leaves nothing. -/
  nil : ∀ x rest, read? p [] = some (x, rest) → rest = []

namespace Extends

theorem weaken (h : Extends (fun _ => True) p p' bs) : Extends P p p' bs :=
  fun x rest hread _ more => h x rest hread trivial more

theorem of_none (h : read? p bs = none) : Extends P p p' bs := by
  intro x rest hread
  rw [h] at hread
  cases hread

protected theorem pure (x : α) : Extends P (pure x) (pure x) bs := by
  intro y rest hread _ more
  cases hread
  rfl

protected theorem bind {q q' : α → Reader β} (hp : Extends Q p p' bs)
    (hq : ∀ x rest, read? p bs = some (x, rest) → Extends P (q x) (q' x) rest)
    (hQ : ∀ x rest y rest', read? (q x) rest = some (y, rest') → P rest' → Q rest) :
    Extends P (p >>= q) (p' >>= q') bs := by
  intro y rest' hread hP more
  rw [read?_bind] at hread ⊢
  obtain ⟨⟨x, rest⟩, hx, hy⟩ := Option.bind_eq_some_iff.1 hread
  rw [hp x rest hx (hQ x rest y rest' hy hP) more, Option.bind_some]
  exact hq x rest hx y rest' hy hP more

/-- Another reader after one that sees its end. -/
theorem andThen {q q' : α → Reader β} (hp : Extends (fun _ => True) p p' bs)
    (hq : ∀ x rest, read? p bs = some (x, rest) → Extends P (q x) (q' x) rest) :
    Extends P (p >>= q) (p' >>= q') bs :=
  hp.bind hq fun _ _ _ _ _ _ => trivial

/-- Another reader that needs input: so something follows the first one. -/
theorem andMore {q q' : α → Reader β} (hp : Extends (· ≠ []) p p' bs)
    (hq : ∀ x rest, Extends P (q x) (q' x) rest) (hnil : ∀ x, read? (q x) [] = none) :
    Extends P (p >>= q) (p' >>= q') bs := by
  refine hp.bind (fun x rest _ => hq x rest) fun x rest y rest' hy _ => ?_
  rintro rfl
  rw [hnil x] at hy
  cases hy

/-- Another reader that leaves nothing of nothing: so something follows the first one, too. -/
theorem andPart {q q' : α → Reader β} (hp : Extends (· ≠ []) p p' bs)
    (hq : ∀ x rest, Extends (· ≠ []) (q x) (q' x) rest)
    (hnil : ∀ x y rest, read? (q x) [] = some (y, rest) → rest = []) :
    Extends (· ≠ []) (p >>= q) (p' >>= q') bs := by
  refine hp.bind (fun x rest _ => hq x rest) fun x rest y rest' hy hne => ?_
  rintro rfl
  exact hne (hnil x y rest' hy)

protected theorem ite {c : Prop} [Decidable c] {q q' : Reader α} (hp : c → Extends P p p' bs)
    (hq : ¬ c → Extends P q q' bs) : Extends P (if c then p else q) (if c then p' else q') bs := by
  by_cases hc : c
  · rw [if_pos hc, if_pos hc]
    exact hp hc
  · rw [if_neg hc, if_neg hc]
    exact hq hc

protected theorem skip (b : UInt8) : Extends P skip skip (b :: bs) := by
  intro x rest hread _ more
  cases hread
  rfl

protected theorem next {q q' : Option UInt8 → Reader α}
    (h : ∀ b rest, Extends P (q (some b)) (q' (some b)) rest) (hnil : read? (q none) [] = none) :
    Extends P (next >>= q) (next >>= q') bs := by
  cases bs with
  | nil => exact of_none (by rw [read?_bind]; exact hnil)
  | cons b bs =>
    intro x rest hread hP more
    exact h b bs x rest hread hP more

protected theorem peek {q q' : Option UInt8 → Reader α}
    (h : ∀ b bs, Extends P (q (some b)) (q' (some b)) (b :: bs))
    (hnil : ∀ x rest, read? (q none) [] = some (x, rest) → ¬ P rest) :
    Extends P (peek >>= q) (peek >>= q') bs := by
  cases bs with
  | nil =>
    intro x rest hread hP
    exact absurd hP (hnil x rest hread)
  | cons b bs =>
    intro x rest hread hP more
    exact h b bs x rest hread hP more

theorem read?_peekToken_eq (bs : List UInt8) :
    read? peekToken bs = some ((bs.dropWhile isBlank).head?, bs.dropWhile isBlank) := rfl

protected theorem peekToken {q q' : Option UInt8 → Reader α}
    (h : ∀ b bs, Extends P (q (some b)) (q' (some b)) (b :: bs)) (hnil : read? (q none) [] = none) :
    Extends P (peekToken >>= q) (peekToken >>= q') bs := by
  intro x rest hread hP more
  rw [read?_bind, read?_peekToken_eq, Option.bind_some] at hread ⊢
  cases hbs : bs.dropWhile isBlank with
  | nil =>
    rw [hbs] at hread
    cases hnil.symm.trans hread
  | cons b t =>
    have hmore : (bs ++ more).dropWhile isBlank = b :: (t ++ more) := by
      rw [List.dropWhile_append, hbs]
      rfl
    rw [hbs] at hread
    rw [hmore]
    exact h b t x rest hread hP more

theorem cons_of_valueStart {b : UInt8} {rest : List UInt8} (h : read? valueStart bs = some (b, rest)) :
    ∃ t, rest = b :: t := by
  rw [valueStart, read?_bind, read?_peekToken_eq, Option.bind_some] at h
  cases hbs : bs.dropWhile isBlank with
  | nil =>
    rw [hbs] at h
    cases h
  | cons c t =>
    rw [hbs] at h
    cases h
    exact ⟨t, rfl⟩

protected theorem valueStart {q q' : UInt8 → Reader α} (h : ∀ b bs, Extends P (q b) (q' b) (b :: bs)) :
    Extends P (valueStart >>= q) (valueStart >>= q') bs := by
  refine andThen (.peekToken (fun b _ => .pure b) rfl) fun b rest hread => ?_
  obtain ⟨t, rfl⟩ := cons_of_valueStart hread
  exact h b t

/-- A reader whose fuel is the length of its input. -/
protected theorem remaining {q q' : Nat → Reader α} (h : ∀ n m, n ≤ m → Extends P (q n) (q' m) bs) :
    Extends P (remaining >>= q) (remaining >>= q') bs := by
  intro x rest hread hP more
  rw [read?_bind, read?_remaining, Option.bind_some] at hread ⊢
  exact h _ _ (by simp) x rest hread hP more

end Extends

theorem SelfDelimiting.map (h : SelfDelimiting p) (f : α → β) : SelfDelimiting (do return f (← p)) :=
  fun bs => (h bs).andThen fun _ _ _ => .pure _

theorem SelfDelimiting.delimited (h : SelfDelimiting p) (hnil : read? p [] = none) : Delimited p where
  more bs := (h bs).weaken
  nil x rest hread := by
    rw [hnil] at hread
    cases hread

namespace Delimited

protected theorem pure (x : α) : Delimited (pure x : Reader α) where
  more _ := .pure x
  nil y rest h := by
    cases h
    rfl

theorem of_none (h : ∀ bs, read? p bs = none) : Delimited p where
  more bs := .of_none (h bs)
  nil x rest hread := by
    rw [h] at hread
    cases hread

protected theorem bind {q : α → Reader β} (hp : Delimited p) (hq : ∀ x, Delimited (q x)) :
    Delimited (p >>= q) where
  more bs := (hp.more bs).andPart (fun x rest => (hq x).more rest) fun x => (hq x).nil
  nil y rest h := by
    rw [read?_bind] at h
    obtain ⟨⟨x, rest'⟩, hx, hy⟩ := Option.bind_eq_some_iff.1 h
    obtain rfl := hp.nil x rest' hx
    exact (hq x).nil y rest hy

theorem map (hp : Delimited p) (f : α → β) : Delimited (do return f (← p)) := hp.bind fun _ => .pure _

/-- A part that may be missing, which the next byte tells. -/
protected theorem peek {q : Option UInt8 → Reader α}
    (h : ∀ b bs, Extends (· ≠ []) (q (some b)) (q (some b)) (b :: bs))
    (hnil : ∀ x rest, read? (q none) [] = some (x, rest) → rest = []) : Delimited (peek >>= q) where
  more _ := .peek h fun x rest hread hne => hne (hnil x rest hread)
  nil := hnil

end Delimited

theorem selfDelimiting_word (cs : List Char) : SelfDelimiting (word cs) := by
  intro bs
  induction cs generalizing bs with
  | nil => exact .pure ()
  | cons c cs ih =>
    refine .next (fun b rest => ?_) rfl
    exact .ite (fun _ => ih rest) fun _ => .of_none rfl

theorem selfDelimiting_colon : SelfDelimiting colon := by
  intro bs
  refine .peekToken (fun b bs => ?_) rfl
  exact .ite (fun _ => .skip b) fun _ => .of_none rfl

section Strings

theorem selfDelimiting_hexEscape : SelfDelimiting hexEscape := by
  intro bs x rest hread _ more
  match bs with
  | a :: b :: c :: d :: t =>
    simp only [read?, hexEscape, List.cons_append] at hread ⊢
    split at hread
    · cases hread
      rfl
    · cases hread
  | [] | [_] | [_, _] | [_, _, _] => cases hread

theorem selfDelimiting_surrogateMark (b : UInt8) : SelfDelimiting (surrogateMark b) := by
  intro bs
  refine .next (fun c rest => ?_) rfl
  exact .ite (fun _ => .pure ()) fun _ => .of_none rfl

theorem selfDelimiting_unicodeEscape : SelfDelimiting unicodeEscape := by
  intro bs
  refine (selfDelimiting_hexEscape bs).andThen fun n rest _ => ?_
  refine .ite (fun _ => .of_none rfl) fun _ => .ite (fun _ => ?_) fun _ => .pure _
  refine (selfDelimiting_surrogateMark _ rest).andThen fun _ rest _ => ?_
  refine (selfDelimiting_surrogateMark _ rest).andThen fun _ rest _ => ?_
  refine (selfDelimiting_hexEscape rest).andThen fun m rest _ => ?_
  exact .ite (fun _ => .pure _) fun _ => .of_none rfl

theorem selfDelimiting_escape : SelfDelimiting escape := by
  intro bs
  refine .next (fun b rest => ?_) rfl
  cases h : shortEscape? b with
  | some c =>
    simp only [h]
    exact .pure c
  | none =>
    simp only [h]
    exact .ite (fun _ => selfDelimiting_unicodeEscape rest) fun _ => .of_none rfl

theorem extends_stringBytes {n m : Nat} (h : n ≤ m) (seen : List UInt8) (bs : List UInt8) :
    Extends (fun _ => True) (stringBytes n seen) (stringBytes m seen) bs := by
  induction n generalizing m seen bs with
  | zero => exact .of_none rfl
  | succ n ih =>
    obtain ⟨m, rfl, hm⟩ := exists_fuel h
    refine .next (fun b rest => ?_) rfl
    refine .ite (fun _ => .pure _) fun _ => .ite (fun _ => ?_) fun _ => .ite (fun _ => .of_none rfl) fun _ =>
      ih hm _ rest
    exact (selfDelimiting_escape rest).andThen fun c rest _ => ih hm _ rest

theorem selfDelimiting_string : SelfDelimiting string := by
  intro bs
  refine .remaining fun n m h => ?_
  refine (extends_stringBytes (Nat.succ_le_succ h) [] bs).andThen fun bytes rest _ => ?_
  split
  · exact .pure _
  · exact .of_none rfl

end Strings

section Numbers

theorem delimited_digits : Delimited digits where
  more bs x rest hread hne more := by
    cases hread
    have hsplit := congrArg List.length (List.takeWhile_append_dropWhile (p := isDigit) (l := bs))
    have hpos := List.length_pos_iff.2 hne
    rw [List.length_append] at hsplit
    have htake : (bs ++ more).takeWhile isDigit = bs.takeWhile isDigit := by
      rw [List.takeWhile_append, if_neg (by omega)]
    have hdrop : (bs ++ more).dropWhile isDigit = bs.dropWhile isDigit ++ more := by
      rw [List.dropWhile_append, if_neg (by simpa using hne)]
    simp only [read?, digits, htake, hdrop]
    rfl
  nil x rest hread := by
    cases hread
    rfl

theorem delimited_someDigits : Delimited someDigits := by
  refine delimited_digits.bind fun ds => ?_
  cases ds with
  | nil => exact .peek (fun _ _ => .of_none rfl) fun _ _ h => by cases h
  | cons d ds => exact .pure _

theorem delimited_wholePart : Delimited wholePart := by
  refine delimited_someDigits.bind fun ds => ?_
  split
  · exact .of_none fun _ => rfl
  · exact .pure _

theorem delimited_fractionPart : Delimited fractionPart := by
  refine .peek (fun b bs => ?_) fun x rest h => ?_
  · refine .ite (fun _ => ?_) fun _ => .pure none
    exact (Extends.skip b).andThen fun _ rest _ => (delimited_someDigits.map _).more rest
  · cases h
    rfl

theorem delimited_exponentPart : Delimited exponentPart := by
  refine .peek (fun b bs => ?_) fun x rest h => ?_
  · refine .ite (fun _ => ?_) fun _ => .pure none
    refine (Extends.skip b).andThen fun _ rest _ => ?_
    refine .peek (fun c bs => ?_) fun x rest h => by cases h
    refine .ite (fun _ => ?_) fun _ => (delimited_someDigits.map _).more _
    exact (Extends.skip c).andThen fun _ rest _ => (delimited_someDigits.map _).more rest
  · cases h
    rfl

theorem delimited_literal (negative : Bool) : Delimited (literal negative) :=
  delimited_wholePart.bind fun _ => delimited_fractionPart.bind fun _ => delimited_exponentPart.map _

theorem delimited_literalNumber (negative : Bool) : Delimited (literalNumber negative) := by
  refine (delimited_literal negative).bind fun l => ?_
  split
  · exact .pure _
  · exact .of_none fun _ => rfl

theorem delimited_number : Delimited number := by
  refine .peek (fun b bs => ?_) fun x rest h => by cases h
  refine .ite (fun _ => ?_) fun _ => (delimited_literalNumber false).more _
  exact (Extends.skip b).andThen fun _ rest _ => (delimited_literalNumber true).more rest

theorem delimited_integer (e : Expected) (low high : Int) : Delimited (integer e low high) where
  more bs := by
    refine .valueStart fun b bs => ?_
    refine .ite (fun _ => ?_) fun _ => .of_none (read?_wrongType ..)
    refine (delimited_number.bind fun n => ?_).more _
    cases n with
    | integer n =>
      by_cases hn : low ≤ n ∧ n ≤ high
      · simp only [hn, and_self, if_true]
        exact .pure n
      · simp only [hn, if_false]
        exact .of_none fun _ => rfl
    | real x => exact .of_none fun _ => rfl
  nil x rest h := by cases h

theorem delimited_int64 : Delimited int64 := (delimited_integer ..).map Int64.ofInt

theorem delimited_int32 : Delimited int32 := (delimited_integer ..).map Int32.ofInt

end Numbers

theorem selfDelimiting_text : SelfDelimiting text := by
  intro bs
  refine .valueStart fun b bs => ?_
  refine .ite (fun _ => ?_) fun _ => .of_none (read?_wrongType ..)
  exact (Extends.skip b).andThen fun _ rest _ => selfDelimiting_string rest

theorem selfDelimiting_flag : SelfDelimiting flag := by
  intro bs
  refine .valueStart fun b bs => ?_
  refine .ite (fun _ => ?_) fun _ => .ite (fun _ => ?_) fun _ => .of_none (read?_wrongType ..)
  · refine (Extends.skip b).andThen fun _ rest _ => ?_
    exact (selfDelimiting_word _ rest).andThen fun _ _ _ => .pure true
  · refine (Extends.skip b).andThen fun _ rest _ => ?_
    exact (selfDelimiting_word _ rest).andThen fun _ _ _ => .pure false

theorem read?_nullable_nil (h : read? p [] = none) : read? (nullable p) [] = none := by
  have hne : ¬ (none : Option UInt8) = some 'n'.toUInt8 := by decide
  rw [nullable, read?_bind, Extends.read?_peekToken_eq, Option.bind_some]
  simp [h]

theorem Delimited.nullable (h : Delimited p) (hnil : read? p [] = none) : Delimited (nullable p) where
  more bs := by
    refine .peekToken (fun b bs => ?_) (read?_nullable_nil hnil)
    refine .ite (fun _ => ?_) fun _ => (h.map some).more _
    refine (Extends.skip b).andThen fun _ rest _ => ?_
    exact (selfDelimiting_word _ rest).andThen fun _ _ _ => .pure none
  nil x rest hread := by
    rw [read?_nullable_nil hnil] at hread
    cases hread

end GatewayFeed.Json.Reader
