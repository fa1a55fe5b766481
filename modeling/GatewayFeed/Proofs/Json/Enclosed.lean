import Mathlib.Data.List.TakeWhile
import GatewayFeed.Proofs.Json.Delimiting

/-! Lists, maps and records end with their own bracket, whatever follows it, if what they hold is delimited. So
does a value that is passed over, unless it is a number that nothing follows. -/

namespace GatewayFeed.Json.Reader

variable {α τ ν : Type} {p : Reader α}

theorem selfDelimiting_moreItems (first : Bool) : SelfDelimiting (moreItems first) := by
  intro bs
  refine .peekToken (fun b bs => ?_) rfl
  refine .ite (fun _ => .pure false) fun _ => .ite (fun _ => .pure true) fun _ => .ite (fun _ => ?_) fun _ =>
    .of_none rfl
  refine (Extends.skip b).andThen fun _ rest _ => ?_
  refine .peekToken (fun c rest => ?_) rfl
  exact .ite (fun _ => .of_none rfl) fun _ => .pure true

theorem selfDelimiting_endList : SelfDelimiting endList := by
  intro bs
  refine .peekToken (fun b bs => ?_) rfl
  refine .ite (fun _ => .skip b) fun _ => .ite (fun _ => ?_) fun _ => .of_none rfl
  refine (Extends.skip b).andThen fun _ rest _ => ?_
  refine .peekToken (fun c rest => ?_) rfl
  exact .ite (fun _ => .of_none rfl) fun _ => .of_none rfl

theorem selfDelimiting_moreMembers (first : Bool) : SelfDelimiting (moreMembers first) := by
  intro bs
  refine .peekToken (fun b bs => ?_) rfl
  refine .ite (fun _ => ?_) fun _ => .ite (fun _ => ?_) fun _ => .ite (fun _ => ?_) fun _ => .of_none rfl
  · exact (Extends.skip b).andThen fun _ _ _ => .pure false
  · refine .ite (fun _ => ?_) fun _ => .of_none rfl
    exact (Extends.skip b).andThen fun _ _ _ => .pure true
  · refine (Extends.skip b).andThen fun _ rest _ => ?_
    refine .peekToken (fun c rest => ?_) rfl
    refine .ite (fun _ => ?_) fun _ => .ite (fun _ => .of_none rfl) fun _ => .of_none rfl
    exact (Extends.skip c).andThen fun _ _ _ => .pure true

section Skipping

theorem selfDelimiting_skipEscape : SelfDelimiting skipEscape := by
  intro bs
  refine .next (fun b rest => ?_) rfl
  cases h : shortEscape? b with
  | some c =>
    simp only [h]
    exact .pure ()
  | none =>
    simp only [h]
    exact .ite (fun _ => (selfDelimiting_hexEscape rest).andThen fun _ _ _ => .pure ()) fun _ => .of_none rfl

theorem extends_skipString {n m : Nat} (h : n ≤ m) (bs : List UInt8) :
    Extends (fun _ => True) (skipString n) (skipString m) bs := by
  induction n generalizing m bs with
  | zero => exact .of_none rfl
  | succ n ih =>
    obtain ⟨m, rfl, hm⟩ := exists_fuel h
    refine .next (fun b rest => ?_) rfl
    refine .ite (fun _ => .pure ()) fun _ => .ite (fun _ => ?_) fun _ => .ite (fun _ => .of_none rfl) fun _ =>
      ih hm rest
    exact (selfDelimiting_skipEscape rest).andThen fun _ rest _ => ih hm rest

theorem delimited_skipDigits : Delimited skipDigits := by
  refine delimited_digits.bind fun ds => ?_
  split
  · exact .of_none fun _ => rfl
  · exact .pure ()

theorem delimited_skipExponent : Delimited skipExponent := by
  refine .peek (fun b bs => ?_) fun x rest h => ?_
  · refine .ite (fun _ => ?_) fun _ => .pure ()
    refine (Extends.skip b).andThen fun _ rest _ => ?_
    refine .peek (fun c bs => ?_) fun x rest h => by cases h
    refine .ite (fun _ => ?_) fun _ => delimited_skipDigits.more _
    exact (Extends.skip c).andThen fun _ rest _ => delimited_skipDigits.more rest
  · cases h
    rfl

theorem delimited_skipFraction : Delimited skipFraction := by
  refine .peek (fun b bs => ?_) fun x rest h => ?_
  · refine .ite (fun _ => ?_) fun _ => delimited_skipExponent.more _
    refine (Extends.skip b).andThen fun _ rest _ => ?_
    exact (delimited_skipDigits.bind fun _ => delimited_skipExponent).more rest
  · cases h
    rfl

theorem delimited_skipNumber : Delimited skipNumber := by
  refine delimited_digits.bind fun ds => ?_
  split
  · exact .of_none fun _ => rfl
  · exact .of_none fun _ => rfl
  · exact delimited_skipFraction

theorem delimited_skipToken : Delimited skipToken where
  more bs := by
    have word : ∀ (cs : List Char) (rest : List UInt8),
        Extends (· ≠ []) (do word cs; return (none : Option Frame)) (do word cs; return none) rest :=
      fun cs rest => (selfDelimiting_word cs rest).andThen fun _ _ _ => .pure none
    refine .peekToken (fun b bs => ?_) rfl
    refine .ite (fun _ => ?_) fun _ => .ite (fun _ => ?_) fun _ => .ite (fun _ => ?_) fun _ =>
      .ite (fun _ => ?_) fun _ => .ite (fun _ => ?_) fun _ => .ite (fun _ => ?_) fun _ =>
      .ite (fun _ => ?_) fun _ => .ite (fun _ => ?_) fun _ => .of_none rfl
    · exact (Extends.skip b).andThen fun _ rest _ => word _ rest
    · exact (Extends.skip b).andThen fun _ rest _ => word _ rest
    · exact (Extends.skip b).andThen fun _ rest _ => word _ rest
    · exact (Extends.skip b).andThen fun _ rest _ => (delimited_skipNumber.map _).more rest
    · exact (delimited_skipNumber.map _).more _
    · refine (Extends.skip b).andThen fun _ rest _ => .remaining fun n m h => ?_
      exact (extends_skipString (Nat.succ_le_succ h) rest).andThen fun _ _ _ => .pure none
    · exact (Extends.skip b).andThen fun _ _ _ => .pure _
    · exact (Extends.skip b).andThen fun _ _ _ => .pure _
  nil x rest h := by cases h

theorem selfDelimiting_skipKey (f : Frame) : SelfDelimiting (skipKey f) := by
  intro bs
  cases f with
  | list => exact .pure ()
  | object =>
    refine .peekToken (fun b bs => ?_) rfl
    refine .ite (fun _ => ?_) fun _ => .of_none rfl
    refine (Extends.skip b).andThen fun _ rest _ => .remaining fun n m h => ?_
    refine (extends_skipString (Nat.succ_le_succ h) rest).andThen fun _ rest _ => ?_
    exact selfDelimiting_colon rest

theorem delimited_skipStep_value (frames : List Frame) : Delimited (skipStep frames .value) := by
  refine delimited_skipToken.bind fun o => ?_
  cases o with
  | some f => exact .pure _
  | none => exact .pure _

theorem selfDelimiting_skipStep (f : Frame) (frames : List Frame) {awaited : Awaited} (h : awaited ≠ .value) :
    SelfDelimiting (skipStep (f :: frames) awaited) := by
  intro bs
  cases awaited with
  | value => exact absurd rfl h
  | content | rest =>
    refine .peekToken (fun b bs => ?_) rfl
    refine .ite (fun _ => (Extends.skip b).andThen fun _ _ _ => .pure _) fun _ => .ite (fun _ => ?_) fun _ =>
      .ite (fun _ => ?_) fun _ => .of_none rfl
    · exact (selfDelimiting_skipKey f _).andThen fun _ _ _ => .pure _
    · refine (Extends.skip b).andThen fun _ rest _ => ?_
      exact (selfDelimiting_skipKey f rest).andThen fun _ _ _ => .pure _

theorem delimited_skipStep (frames : List Frame) (awaited : Awaited) : Delimited (skipStep frames awaited) := by
  match frames, awaited with
  | frames, .value => exact delimited_skipStep_value frames
  | [], .content | [], .rest => exact .pure none
  | f :: frames, .content => exact (selfDelimiting_skipStep f frames (by decide)).delimited rfl
  | f :: frames, .rest => exact (selfDelimiting_skipStep f frames (by decide)).delimited rfl

theorem skipSteps_nil {n : Nat} {frames : List Frame} {awaited : Awaited} {y : Unit} {rest : List UInt8}
    (h : read? (skipSteps n frames awaited) [] = some (y, rest)) : rest = [] := by
  cases n with
  | zero => cases h
  | succ n =>
    match frames, awaited with
    | [], .content | [], .rest =>
      cases h
      rfl
    | [], .value | _ :: _, .value | _ :: _, .content | _ :: _, .rest => cases h

theorem extends_skipSteps {n m : Nat} (h : n ≤ m) (frames : List Frame) (awaited : Awaited) (bs : List UInt8) :
    Extends (· ≠ []) (skipSteps n frames awaited) (skipSteps m frames awaited) bs := by
  induction n generalizing m frames awaited bs with
  | zero => exact .of_none rfl
  | succ n ih =>
    obtain ⟨m, rfl, hm⟩ := exists_fuel h
    refine ((delimited_skipStep frames awaited).more bs).andPart (fun o rest => ?_) fun o y rest hread => ?_
    · cases o with
      | none => exact .pure ()
      | some next => exact ih hm next.1 next.2 rest
    · cases o with
      | none =>
        cases hread
        rfl
      | some next => exact skipSteps_nil hread

theorem extends_skipValue (bs : List UInt8) : Extends (· ≠ []) skipValue skipValue bs :=
  .remaining fun n m h => extends_skipSteps (by omega) [] .value bs

end Skipping

theorem extends_items (hp : Delimited p) {n m : Nat} (h : n ≤ m) (first : Bool) (bs : List UInt8) :
    Extends (fun _ => True) (items p n first) (items p m first) bs := by
  induction n generalizing m first bs with
  | zero => exact .of_none rfl
  | succ n ih =>
    obtain ⟨m, rfl, hm⟩ := exists_fuel h
    refine (selfDelimiting_moreItems first bs).andThen fun more rest _ => ?_
    refine .ite (fun _ => ?_) fun _ => .pure []
    refine (hp.more rest).andMore (fun x rest => ?_) fun x => ?_
    · exact (ih hm false rest).andThen fun _ _ _ => .pure _
    · cases n <;> rfl

theorem selfDelimiting_list (hp : Delimited p) : SelfDelimiting (list p) := by
  intro bs
  refine .valueStart fun b bs => ?_
  refine .ite (fun _ => ?_) fun _ => .of_none (read?_wrongType ..)
  refine (Extends.skip b).andThen fun _ rest _ => .remaining fun n m h => ?_
  refine (extends_items hp (Nat.succ_le_succ h) true rest).andThen fun xs rest _ => ?_
  exact (selfDelimiting_endList rest).andThen fun _ _ _ => .pure xs

theorem extends_entries (hp : Delimited p) {n m : Nat} (h : n ≤ m) (first : Bool) (bs : List UInt8) :
    Extends (fun _ => True) (entries p n first) (entries p m first) bs := by
  induction n generalizing m first bs with
  | zero => exact .of_none rfl
  | succ n ih =>
    obtain ⟨m, rfl, hm⟩ := exists_fuel h
    refine (selfDelimiting_moreMembers first bs).andThen fun more rest _ => ?_
    refine .ite (fun _ => ?_) fun _ => .pure []
    refine (selfDelimiting_string rest).andThen fun key rest _ => ?_
    refine (selfDelimiting_colon rest).andThen fun _ rest _ => ?_
    refine (hp.more rest).andMore (fun x rest => ?_) fun x => ?_
    · exact (ih hm false rest).andThen fun _ _ _ => .pure _
    · cases n <;> rfl

theorem selfDelimiting_map (hp : Delimited p) : SelfDelimiting (map p) := by
  intro bs
  refine .valueStart fun b bs => ?_
  refine .ite (fun _ => ?_) fun _ => .of_none (read?_wrongType ..)
  refine (Extends.skip b).andThen fun _ rest _ => .remaining fun n m h => ?_
  exact extends_entries hp (Nat.succ_le_succ h) true rest

theorem extends_members (shape : Shape τ) {p : τ → Reader ν} (hp : ∀ t, Delimited (p t)) {n m : Nat}
    (h : n ≤ m) (first : Bool) (seen : Record ν) (bs : List UInt8) :
    Extends (fun _ => True) (members shape p n first seen) (members shape p m first seen) bs := by
  induction n generalizing m first seen bs with
  | zero => exact .of_none rfl
  | succ n ih =>
    obtain ⟨m, rfl, hm⟩ := exists_fuel h
    have hnil : ∀ seen, read? (members shape p n false seen) [] = none := by
      intro seen
      cases n <;> rfl
    refine (selfDelimiting_moreMembers first bs).andThen fun more rest _ => ?_
    refine .ite (fun _ => ?_) fun _ => .pure seen
    refine (selfDelimiting_string rest).andThen fun key rest _ => ?_
    split
    · refine .ite (fun _ => .of_none rfl) fun _ => ?_
      refine (selfDelimiting_colon rest).andThen fun _ rest _ => ?_
      exact ((hp _).more rest).andMore (fun x rest => ih hm false _ rest) fun x => hnil _
    · refine (selfDelimiting_colon rest).andThen fun _ rest _ => ?_
      exact (extends_skipValue rest).andMore (fun _ rest => ih hm false seen rest) fun _ => hnil seen

theorem extends_positions (shape : Shape τ) {p : τ → Reader ν} (hp : ∀ t, Delimited (p t))
    (fds : List (Field τ)) (seen : Record ν) (bs : List UInt8) :
    Extends (· ≠ []) (positions shape p fds seen) (positions shape p fds seen) bs := by
  induction fds generalizing seen bs with
  | nil => exact .pure seen
  | cons fd fds ih =>
    refine (selfDelimiting_moreItems seen.isEmpty bs).andThen fun more rest _ => ?_
    refine .ite (fun _ => ?_) fun _ => .ite (fun _ => .pure seen) fun _ => .of_none rfl
    refine ((hp fd.type).more rest).andPart (fun x rest => ih _ rest) fun x y rest h => ?_
    cases fds with
    | nil =>
      cases h
      rfl
    | cons => cases h

theorem selfDelimiting_record (shape : Shape τ) {p : τ → Reader ν} (hp : ∀ t, Delimited (p t)) :
    SelfDelimiting (record shape p) := by
  intro bs
  refine .valueStart fun b bs => ?_
  refine .ite (fun _ => ?_) fun _ => .ite (fun _ => ?_) fun _ => .of_none (read?_wrongType ..)
  · refine (Extends.skip b).andThen fun _ rest _ => .remaining fun n m h => ?_
    exact extends_members shape hp (Nat.succ_le_succ h) true [] rest
  · refine (Extends.skip b).andThen fun _ rest _ => ?_
    refine (extends_positions shape hp shape.fields [] rest).andMore (fun r rest => ?_) fun r => rfl
    exact (selfDelimiting_endList rest).andThen fun _ _ _ => .pure r

theorem isBlank_of_endOfInput {bs : List UInt8} (h : (read? endOfInput bs).isSome = true) :
    ∀ b ∈ bs, isBlank b = true := by
  rw [endOfInput, read?_bind, Extends.read?_peekToken_eq, Option.bind_some] at h
  cases hbs : bs.dropWhile isBlank with
  | nil => exact List.dropWhile_eq_nil_iff.1 hbs
  | cons b t =>
    rw [hbs] at h
    cases h

/-- A document is read to its end, blanks aside. -/
theorem document_eq_ok {bs : List UInt8} {x : α} (h : document p bs = .ok x) :
    ∃ rest, read? p bs = some (x, rest) ∧ ∀ b ∈ rest, isBlank b = true := by
  unfold document at h
  split at h
  · cases h
  rename_i v rest hp
  split at h
  · cases h
  rename_i hend
  cases h
  exact ⟨rest, by rw [read?, hp]; rfl, isBlank_of_endOfInput (by rw [read?, hend]; rfl)⟩

end GatewayFeed.Json.Reader
