import GatewayFeed.Proofs.Json.Enclosed
import GatewayFeed.Proofs.Json.TakenSkipped

/-! Readers accept nothing but the grammar: whatever they read, they have taken one written value, and a
document is one value with blanks around it. A container's reader takes the rest of a container, given that
what it reads inside takes values. -/

namespace GatewayFeed.Json.Reader

variable {α τ ν : Type} {p : Reader α} {bs rest : List UInt8} {first : Bool}

theorem exists_of_moreItems (h : read? (moreItems first) bs = some (true, rest)) :
    ∃ gap before : Blanks, bs = gap.bytes ++ (Written.comma first ++ (before.bytes ++ rest)) := by
  obtain ⟨gap, c, t, rfl, hc⟩ := exists_of_peekToken h rfl
  rw [read?_ite, read?_ite, read?_ite] at hc
  split at hc
  · cases hc
  split at hc
  · rename_i hfirst
    cases hc
    exact ⟨gap, [], by rw [hfirst]; rfl⟩
  split at hc
  · rename_i hfirst hcomma
    rw [read?_skip_bind] at hc
    obtain ⟨before, c', t', rfl, hitem⟩ := exists_of_peekToken hc rfl
    rw [read?_ite] at hitem
    split at hitem
    · cases hitem
    · cases hitem
      exact ⟨gap, before, by rw [hcomma, Bool.eq_false_iff.2 hfirst]; rfl⟩
  · cases hc

theorem exists_of_endList {u : Unit} (h : read? endList bs = some (u, rest)) :
    ∃ gap : Blanks, bs = gap.bytes ++ 0x5D :: rest := by
  obtain ⟨gap, c, t, rfl, hc⟩ := exists_of_peekToken h rfl
  rw [read?_ite, read?_ite] at hc
  split at hc
  · rename_i hclosing
    cases hc
    exact ⟨gap, by rw [hclosing]; rfl⟩
  split at hc
  · rw [read?_skip_bind] at hc
    obtain ⟨b, t', hpeek, hb⟩ := exists_of_read?_bind hc
    split at hb
    · rw [read?_ite] at hb
      split at hb <;> cases hb
    · cases hb
  · cases hc

theorem exists_of_moreItems_end (h : read? (moreItems first) bs = some (false, rest)) :
    ∃ gap : Blanks, bs = gap.bytes ++ rest := by
  obtain ⟨gap, c, t, rfl, hc⟩ := exists_of_peekToken h rfl
  rw [read?_ite, read?_ite, read?_ite] at hc
  split at hc
  · cases hc
    exact ⟨gap, rfl⟩
  split at hc
  · cases hc
  split at hc
  · rw [read?_skip_bind] at hc
    obtain ⟨before, c', t', rfl, hitem⟩ := exists_of_peekToken hc rfl
    rw [read?_ite] at hitem
    split at hitem <;> cases hitem
  · cases hc

theorem closes_of_endList {u : Unit} (h : read? endList bs = some (u, rest)) (first : Bool) (gap : Blanks) :
    Frame.Closes first .list (gap.bytes ++ bs) rest := by
  obtain ⟨gap', rfl⟩ := exists_of_endList h
  rw [Blanks.append_bytes]
  exact Frame.closes_end first .list _ rest

/-- An item, and the rest of the list behind it. -/
theorem closes_of_item (hp : Takes p) {t t' : List UInt8} {x : α}
    (hmore : read? (moreItems first) bs = some (true, t)) (hx : read? p t = some (x, t'))
    (hrest : Frame.Closes false .list t' rest) : Frame.Closes first .list bs rest := by
  obtain ⟨gap, before, rfl⟩ := exists_of_moreItems hmore
  obtain ⟨before', v, rfl⟩ := hp _ x t' hx
  exact Frame.closes_cons gap rfl (Blanks.append_bytes before before' _) hrest

theorem closes_of_items (hp : Takes p) {fuel : Nat} {xs : List α} {t : List UInt8} {u : Unit}
    (h : read? (items p fuel first) bs = some (xs, t)) (hend : read? endList t = some (u, rest)) :
    Frame.Closes first .list bs rest := by
  induction fuel generalizing bs first xs with
  | zero => cases h
  | succ fuel ih =>
    obtain ⟨more, t₁, hmore, hbranch⟩ := exists_of_read?_bind h
    cases more with
    | false =>
      cases hbranch
      obtain ⟨gap, rfl⟩ := exists_of_moreItems_end hmore
      exact closes_of_endList hend first gap
    | true =>
      obtain ⟨x, t₂, hx, hmany⟩ := exists_of_read?_bind hbranch
      obtain ⟨ys, t₃, hys, hdone⟩ := exists_of_read?_bind hmany
      cases hdone
      exact closes_of_item hp hmore hx (ih hys)

theorem Takes.list (hp : Takes p) : Takes (list p) := by
  intro bs xs rest h
  obtain ⟨before, c, t, rfl, hc⟩ := exists_of_valueStart h
  rw [read?_ite] at hc
  split at hc
  · rename_i hopen
    rw [read?_skip_bind] at hc
    obtain ⟨n, t', hremaining, hc⟩ := exists_of_read?_bind hc
    cases hremaining
    obtain ⟨ys, t', hitems, hc⟩ := exists_of_read?_bind hc
    obtain ⟨u, t'', hend, hdone⟩ := exists_of_read?_bind hc
    cases hdone
    obtain ⟨v, hv⟩ := Frame.exists_value (closes_of_items hp hitems hend)
    exact ⟨before, v, by rw [hopen, ← hv]; rfl⟩
  · cases (read?_wrongType ..).symm.trans hc

theorem exists_of_moreMembers (h : read? (moreMembers first) bs = some (true, rest)) :
    ∃ gap before : Blanks, bs = gap.bytes ++ (Written.comma first ++ (before.bytes ++ 0x22 :: rest)) := by
  obtain ⟨gap, c, t, rfl, hc⟩ := exists_of_peekToken h rfl
  rw [read?_ite, read?_ite, read?_ite, read?_ite] at hc
  split at hc
  · cases hc
  split at hc
  · rename_i hfirst
    split at hc
    · rename_i hquote
      cases hc
      exact ⟨gap, [], by rw [hfirst, hquote]; rfl⟩
    · cases hc
  split at hc
  · rename_i hfirst hcomma
    rw [read?_skip_bind] at hc
    obtain ⟨before, c', t', rfl, hkey⟩ := exists_of_peekToken hc rfl
    rw [read?_ite, read?_ite] at hkey
    split at hkey
    · rename_i hquote
      cases hkey
      exact ⟨gap, before, by rw [hcomma, hquote, Bool.eq_false_iff.2 hfirst]; rfl⟩
    split at hkey <;> cases hkey
  · cases hc

theorem exists_of_moreMembers_end (h : read? (moreMembers first) bs = some (false, rest)) :
    ∃ gap : Blanks, bs = gap.bytes ++ 0x7D :: rest := by
  obtain ⟨gap, c, t, rfl, hc⟩ := exists_of_peekToken h rfl
  rw [read?_ite, read?_ite, read?_ite, read?_ite] at hc
  split at hc
  · rename_i hclosing
    cases hc
    exact ⟨gap, by rw [hclosing]; rfl⟩
  split at hc
  · split at hc <;> cases hc
  split at hc
  · rw [read?_skip_bind] at hc
    obtain ⟨before, c', t', rfl, hkey⟩ := exists_of_peekToken hc rfl
    rw [read?_ite, read?_ite] at hkey
    split at hkey
    · cases hkey
    split at hkey <;> cases hkey
  · cases hc

/-- A member, and the rest of the object behind it. -/
theorem closes_of_member (hp : Takes p) {t t₁ t₂ t₃ : List UInt8} {key : String} {u : Unit} {x : α}
    (hmore : read? (moreMembers first) bs = some (true, t)) (hkey : read? string t = some (key, t₁))
    (hcolon : read? colon t₁ = some (u, t₂)) (hx : read? p t₂ = some (x, t₃))
    (hrest : Frame.Closes false .object t₃ rest) : Frame.Closes first .object bs rest := by
  obtain ⟨gap, before, rfl⟩ := exists_of_moreMembers hmore
  obtain ⟨ps, rfl⟩ := exists_of_string hkey
  obtain ⟨afterKey, rfl⟩ := exists_of_colon hcolon
  obtain ⟨beforeValue, v, hv⟩ := hp _ x t₃ hx
  exact Frame.closes_cons gap ⟨before, ps, afterKey, rfl⟩ hv hrest

theorem closes_of_entries (hp : Takes p) {fuel : Nat} {xs : List (String × α)}
    (h : read? (entries p fuel first) bs = some (xs, rest)) : Frame.Closes first .object bs rest := by
  induction fuel generalizing bs first xs with
  | zero => cases h
  | succ fuel ih =>
    obtain ⟨more, t, hmore, hbranch⟩ := exists_of_read?_bind h
    cases more with
    | false =>
      cases hbranch
      obtain ⟨gap, rfl⟩ := exists_of_moreMembers_end hmore
      exact Frame.closes_end first .object gap rest
    | true =>
      obtain ⟨key, t₁, hkey, hbranch⟩ := exists_of_read?_bind hbranch
      obtain ⟨_, t₂, hcolon, hbranch⟩ := exists_of_read?_bind hbranch
      obtain ⟨x, t₃, hx, hbranch⟩ := exists_of_read?_bind hbranch
      obtain ⟨ys, t₄, hys, hdone⟩ := exists_of_read?_bind hbranch
      cases hdone
      exact closes_of_member hp hmore hkey hcolon hx (ih hys)

theorem Takes.entries (hp : Takes p) : Takes (Reader.map p) := by
  intro bs xs rest h
  obtain ⟨before, c, t, rfl, hc⟩ := exists_of_valueStart h
  rw [read?_ite] at hc
  split at hc
  · rename_i hopen
    rw [read?_skip_bind] at hc
    obtain ⟨n, t', hremaining, hentries⟩ := exists_of_read?_bind hc
    cases hremaining
    obtain ⟨v, hv⟩ := Frame.exists_value (closes_of_entries hp hentries)
    exact ⟨before, v, by rw [hopen, ← hv]; rfl⟩
  · cases (read?_wrongType ..).symm.trans hc

theorem closes_of_members (shape : Shape τ) {p : τ → Reader ν} (hp : ∀ t, Takes (p t)) {fuel : Nat}
    {seen r : Record ν} (h : read? (members shape p fuel first seen) bs = some (r, rest)) :
    Frame.Closes first .object bs rest := by
  induction fuel generalizing bs first seen with
  | zero => cases h
  | succ fuel ih =>
    obtain ⟨more, t, hmore, hbranch⟩ := exists_of_read?_bind h
    cases more with
    | false =>
      cases hbranch
      obtain ⟨gap, rfl⟩ := exists_of_moreMembers_end hmore
      exact Frame.closes_end first .object gap rest
    | true =>
      obtain ⟨key, t₁, hkey, hbranch⟩ := exists_of_read?_bind hbranch
      split at hbranch
      · rw [read?_ite] at hbranch
        split at hbranch
        · cases hbranch
        obtain ⟨_, t₂, hcolon, hbranch⟩ := exists_of_read?_bind hbranch
        obtain ⟨x, t₃, hx, hys⟩ := exists_of_read?_bind hbranch
        exact closes_of_member (hp _) hmore hkey hcolon hx (ih hys)
      · obtain ⟨_, t₂, hcolon, hbranch⟩ := exists_of_read?_bind hbranch
        obtain ⟨_, t₃, hskip, hys⟩ := exists_of_read?_bind hbranch
        exact closes_of_member takes_skipValue hmore hkey hcolon hskip (ih hys)

/-- The array form of a record, up to the end of the array. -/
theorem closes_of_positions (shape : Shape τ) {p : τ → Reader ν} (hp : ∀ t, Takes (p t))
    {fds : List (Field τ)} {seen r : Record ν} {t : List UInt8} {u : Unit}
    (h : read? (positions shape p fds seen) bs = some (r, t)) (hend : read? endList t = some (u, rest)) :
    Frame.Closes seen.isEmpty .list bs rest := by
  induction fds generalizing bs seen with
  | nil =>
    cases h
    exact closes_of_endList hend _ []
  | cons fd fds ih =>
    obtain ⟨more, t₁, hmore, hbranch⟩ := exists_of_read?_bind h
    cases more with
    | false =>
      obtain ⟨gap, rfl⟩ := exists_of_moreItems_end hmore
      simp only [Bool.false_eq_true, if_false, read?_ite] at hbranch
      split at hbranch
      · cases hbranch
        exact closes_of_endList hend _ gap
      · cases hbranch
    | true =>
      obtain ⟨x, t₂, hx, hmany⟩ := exists_of_read?_bind hbranch
      have hrest := ih hmany
      rw [show (seen ++ [(fd.key, x)]).isEmpty = false by simp] at hrest
      exact closes_of_item (hp fd.type) hmore hx hrest

theorem Takes.record (shape : Shape τ) {p : τ → Reader ν} (hp : ∀ t, Takes (p t)) :
    Takes (record shape p) := by
  intro bs r rest h
  obtain ⟨before, c, t, rfl, hc⟩ := exists_of_valueStart h
  rw [read?_ite, read?_ite] at hc
  split at hc
  · rename_i hopen
    rw [read?_skip_bind] at hc
    obtain ⟨n, t', hremaining, hmembers⟩ := exists_of_read?_bind hc
    cases hremaining
    obtain ⟨v, hv⟩ := Frame.exists_value (closes_of_members shape hp hmembers)
    exact ⟨before, v, by rw [hopen, ← hv]; rfl⟩
  split at hc
  · rename_i hopen
    rw [read?_skip_bind] at hc
    obtain ⟨r', t', hpositions, hc⟩ := exists_of_read?_bind hc
    obtain ⟨u, t'', hend, hdone⟩ := exists_of_read?_bind hc
    cases hdone
    obtain ⟨v, hv⟩ := Frame.exists_value (closes_of_positions shape hp hpositions hend)
    exact ⟨before, v, by rw [hopen, ← hv]; rfl⟩
  · cases (read?_wrongType ..).symm.trans hc

theorem exists_of_document (hp : Takes p) {x : α} (h : document p bs = .ok x) :
    ∃ (before : Blanks) (v : Written) (after : Blanks), bs = before.bytes ++ (v.bytes ++ after.bytes) := by
  obtain ⟨rest, hread, hblank⟩ := document_eq_ok h
  obtain ⟨before, v, rfl⟩ := hp bs x rest hread
  obtain ⟨after, rfl⟩ := exists_blanks_eq hblank
  exact ⟨before, v, after, rfl⟩

end GatewayFeed.Json.Reader
