import GatewayFeed.Proofs.Url.Authority
import GatewayFeed.Proofs.Url.Segments

/-! How the text of a web address begins: with its scheme, slashes and its authority. Whatever follows them,
they are read in the same way. -/

namespace GatewayFeed.Url

variable {s : String} {u : Url} {cs rest scheme : List Char} {a : Authority}

def IsWeb (scheme : List Char) : Prop := scheme = "http".toList ∨ scheme = "https".toList

theorem IsWeb.special (h : IsWeb scheme) : isSpecial scheme = true := by
  rcases h with rfl | rfl <;> rfl

theorem IsWeb.not_file (h : IsWeb scheme) : isFile scheme = false := by
  rcases h with rfl | rfl <;> rfl

/-- The address of a web scheme with what follows its authority. -/
def urlAt (scheme : List Char) (a : Authority) (rest : List Char) : Url :=
  withEnd
    { scheme, username := a.username, password := a.password, host := a.host, port := a.port
      path := .segments (absolutePath true rest).1 }
    (absolutePath true rest).2

/-- Query and fragment leave the rest of an address. -/
theorem withEnd_eq (u : Url) (cs : List Char) :
    ∃ query fragment, withEnd u cs = { u with query := query, fragment := fragment } := by
  unfold withEnd
  split
  · dsimp only
    split
    · exact ⟨_, _, rfl⟩
    · exact ⟨_, u.fragment, rfl⟩
  · exact ⟨u.query, _, rfl⟩
  · exact ⟨u.query, u.fragment, rfl⟩

theorem scheme_withEnd (u : Url) (cs : List Char) : (withEnd u cs).scheme = u.scheme := by
  obtain ⟨q, f, h⟩ := withEnd_eq u cs
  rw [h]

theorem urlAt_parts (scheme : List Char) (a : Authority) (rest : List Char) :
    (urlAt scheme a rest).scheme = scheme ∧ (urlAt scheme a rest).host = a.host ∧
      (urlAt scheme a rest).port = a.port ∧
      (urlAt scheme a rest).path = .segments (absolutePath true rest).1 := by
  obtain ⟨q, f, h⟩ := withEnd_eq
    { scheme, username := a.username, password := a.password, host := a.host, port := a.port
      path := .segments (absolutePath true rest).1 } (absolutePath true rest).2
  rw [urlAt, h]
  exact ⟨rfl, rfl, rfl, rfl⟩

theorem afterSlashes_of_ok (hs : isSpecial scheme = true) (h : authorityOf scheme cs = .ok (a, rest)) :
    afterSlashes scheme cs = .ok (urlAt scheme a rest) := by
  unfold afterSlashes
  rw [h, hs]
  rfl

theorem afterSlashes_eq_ok (h : afterSlashes scheme cs = .ok u) :
    u.scheme = scheme ∧ ∃ a rest, authorityOf scheme cs = .ok (a, rest) := by
  unfold afterSlashes at h
  cases ha : authorityOf scheme cs with
  | error e =>
    rw [ha] at h
    cases h
  | ok ar =>
    rw [ha] at h
    cases h
    exact ⟨scheme_withEnd _ _, ar.1, ar.2, rfl⟩

theorem scheme_filePath (host : Option Host) (cs : List Char) : (filePath host cs).scheme = "file".toList :=
  scheme_withEnd _ _

theorem scheme_fileOf (h : fileOf cs = .ok u) : u.scheme = "file".toList := by
  unfold fileOf at h
  split at h
  · rename_i x y rest
    split at h
    · dsimp only at h
      split at h
      · cases h
        exact scheme_filePath _ _
      · split at h
        · cases h
          exact scheme_filePath _ _
        · cases hhost : hostOf (rest.takeWhile fun c => !endsAuthority true c) with
          | error e =>
            rw [hhost] at h
            cases h
          | ok host =>
            rw [hhost] at h
            cases h
            exact scheme_filePath _ _
    · cases h
      exact scheme_filePath _ _
  · cases h
    exact scheme_filePath _ _

theorem scheme_generalOf (h : generalOf scheme cs = .ok u) : u.scheme = scheme := by
  unfold generalOf at h
  split at h
  · exact (afterSlashes_eq_ok h).1
  · cases h
    exact scheme_withEnd _ _
  · cases h
    exact scheme_withEnd _ _

def isSchemeChar (c : Char) : Bool := c.isAlphanum || c = '+' || c = '-' || c = '.'

theorem scheme?_eq_some (h : scheme? cs = some (scheme, rest)) :
    ∃ name, cs = name ++ ':' :: rest ∧ (∀ c ∈ name, isSchemeChar c = true) ∧
      ∀ rest', scheme? (name ++ ':' :: rest') = some (scheme, rest') := by
  unfold scheme? at h
  dsimp only at h
  split at h
  · rename_i first tail rest' hname hdrop
    split at h
    · rename_i hfirst
      cases h
      have hchars : ∀ c ∈ first :: tail, isSchemeChar c = true := by
        intro c hc
        rw [← hname] at hc
        exact List.mem_takeWhile_imp hc
      refine ⟨first :: tail, ?_, hchars, ?_⟩
      · rw [← hname, ← hdrop]
        exact (List.takeWhile_append_dropWhile).symm
      · intro rest'
        have hcolon : ∀ c ∈ (':' :: rest').head?, isSchemeChar c = false := by
          intro c hc
          cases hc
          rfl
        obtain ⟨htake, hrest⟩ := takeWhile_append_ends hchars hcolon
        unfold isSchemeChar at htake hrest
        unfold scheme?
        dsimp only
        rw [htake, hrest, hname]
        exact if_pos hfirst
    · cases h
  · cases h

/-- What an address begins with, up to the end of its authority. -/
structure Front (scheme : List Char) (a : Authority) (front : List Char) : Prop where
  colon : ':' ∈ front
  last : ∃ c, front.getLast? = some c ∧ endsAuthority true c = false
  plain : ∀ c ∈ front, c ≠ '?' ∧ c ≠ '#'
  host : a.host.isSome = true
  parse : ∀ s rest, EndsAuthority rest → cleaned s = front ++ rest → parse s = .ok (urlAt scheme a rest)

theorem parse_of_scheme (h : scheme? (cleaned s) = some (scheme, rest)) (hw : IsWeb scheme) :
    parse s = afterSlashes scheme (rest.dropWhile isSlash) := by
  unfold parse parseWith
  dsimp only
  rw [h]
  dsimp only
  rw [hw.not_file, hw.special]
  rfl

theorem afterSlashes_of_parse (h : parse s = .ok u) (hw : IsWeb u.scheme) :
    ∃ rest, scheme? (cleaned s) = some (u.scheme, rest) ∧
      afterSlashes u.scheme (rest.dropWhile isSlash) = .ok u := by
  cases hscheme : scheme? (cleaned s) with
  | none =>
    unfold parse parseWith at h
    dsimp only at h
    rw [hscheme] at h
    cases h
  | some sr =>
    obtain ⟨scheme, rest⟩ := sr
    have hsame : u.scheme = scheme := by
      have hparse := h
      unfold parse parseWith at hparse
      dsimp only at hparse
      rw [hscheme] at hparse
      dsimp only at hparse
      split at hparse
      · have hfile := hw.not_file
        rw [scheme_fileOf hparse] at hfile
        cases hfile
      · split at hparse
        · exact (afterSlashes_eq_ok hparse).1
        · exact scheme_generalOf hparse
    subst hsame
    refine ⟨rest, rfl, ?_⟩
    rw [← parse_of_scheme hscheme hw]
    exact h

/-- Neither a query nor a fragment begins with a character that both are told apart from. -/
theorem plain_of {p : Char → Bool} {c : Char} (hq : p '?' = false) (hf : p '#' = false) (h : p c = true) :
    c ≠ '?' ∧ c ≠ '#' := by
  constructor
  · rintro rfl
    rw [hq] at h
    cases h
  · rintro rfl
    rw [hf] at h
    cases h

theorem isSlash_of_inside {c : Char} (h : endsAuthority true c = false) : isSlash c = false := by
  cases hc : isSlash c with
  | false => rfl
  | true =>
    rw [isSlash, Bool.or_eq_true, decide_eq_true_eq, decide_eq_true_eq] at hc
    rcases hc with rfl | rfl
    · cases h
    · cases h

theorem exists_front (h : parse s = .ok u) (hw : IsWeb u.scheme) :
    ∃ a front rest, Front u.scheme a front ∧ EndsAuthority rest ∧ cleaned s = front ++ rest := by
  obtain ⟨text, hscheme, hafter⟩ := afterSlashes_of_parse h hw
  obtain ⟨name, hcleaned, hname, hagain⟩ := scheme?_eq_some hscheme
  obtain ⟨-, a, r, ha⟩ := afterSlashes_eq_ok hafter
  -- the slashes before the authority, the authority, and what follows it
  let slashes := text.takeWhile isSlash
  let authority := (text.dropWhile isSlash).takeWhile fun c => !endsAuthority true c
  let rest := (text.dropWhile isSlash).dropWhile fun c => !endsAuthority true c
  have htext : text = slashes ++ (authority ++ rest) := by
    rw [List.takeWhile_append_dropWhile, List.takeWhile_append_dropWhile]
  have hinside : Inside authority := by
    intro c hc
    simpa using List.mem_takeWhile_imp hc
  have hrest : EndsAuthority rest := by
    intro c hc
    have hnot := List.head?_dropWhile_not (fun c => !endsAuthority true c) (text.dropWhile isSlash)
    rw [Option.mem_def.1 hc] at hnot
    simpa using hnot
  have hsplit : text.dropWhile isSlash = authority ++ rest := (List.takeWhile_append_dropWhile).symm
  rw [hsplit] at ha
  obtain ⟨hne, hhost, -, hsame⟩ := authorityOf_append hw.special hinside hrest ha
  obtain ⟨c, tail, hcons⟩ := List.exists_cons_of_ne_nil hne
  refine ⟨a, name ++ ':' :: (slashes ++ authority), rest, ⟨by simp, ?_, ?_, hhost, ?_⟩, hrest, ?_⟩
  · obtain ⟨init, x, hx⟩ := (List.eq_nil_or_concat' authority).resolve_left hne
    refine ⟨x, ?_, hinside x (by simp [hx])⟩
    rw [hx, ← List.append_assoc, ← List.cons_append, ← List.append_assoc, List.getLast?_concat]
  · intro c hc
    rcases List.mem_append.1 hc with hc | hc
    · exact plain_of rfl rfl (hname c hc)
    · rcases List.mem_cons.1 hc with rfl | hc
      · exact ⟨by decide, by decide⟩
      · rcases List.mem_append.1 hc with hc | hc
        · exact plain_of (p := isSlash) rfl rfl (List.mem_takeWhile_imp hc)
        · exact plain_of (p := fun c => !endsAuthority true c) rfl rfl (by rw [hinside c hc]; rfl)
  · intro s' rest' hrest' hs'
    have hscheme' : scheme? (cleaned s') = some (u.scheme, slashes ++ (authority ++ rest')) := by
      rw [hs', List.append_assoc, List.cons_append, List.append_assoc]
      exact hagain _
    have hdrop : (slashes ++ (authority ++ rest')).dropWhile isSlash = authority ++ rest' := by
      refine (takeWhile_append_ends (fun c hc => List.mem_takeWhile_imp hc) ?_).2
      rw [hcons]
      intro x hx
      cases hx
      exact isSlash_of_inside (hinside c (hcons ▸ List.mem_cons_self))
    rw [parse_of_scheme hscheme' hw, hdrop]
    exact afterSlashes_of_ok hw.special (hsame rest' hrest')
  · rw [hcleaned, List.append_assoc, List.cons_append, List.append_assoc]
    exact congrArg (fun text => name ++ ':' :: text) htext

end GatewayFeed.Url
