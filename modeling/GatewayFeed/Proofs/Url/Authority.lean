import Mathlib.Data.List.Basic
import Mathlib.Data.List.TakeWhile
import GatewayFeed.Proofs.Lookup
import GatewayFeed.Url.Parser

/-! What stands before a path is read the same whatever path follows it. -/

namespace GatewayFeed.Url

/-- What an authority is read up to. -/
def EndsAuthority (rest : List Char) : Prop := ∀ c ∈ rest.head?, endsAuthority true c = true

/-- What may stand in an authority. -/
def Inside (cs : List Char) : Prop := ∀ c ∈ cs, endsAuthority true c = false

variable {cs rest rest' r scheme : List Char} {a : Authority}

theorem userSpan_append (hcs : Inside cs) (hr : EndsAuthority rest) :
    userSpan true (cs ++ rest) = ((userSpan true cs).1, (userSpan true cs).2 ++ rest) := by
  have hin : ∀ c ∈ cs, (!endsAuthority true c) = true := by
    intro c hc
    rw [hcs c hc]
    rfl
  have hout : ∀ c ∈ rest.head?, (!endsAuthority true c) = false := by
    intro c hc
    rw [hr c hc]
    rfl
  obtain ⟨htake, hdrop⟩ := takeWhile_append_ends hin hout
  have htake' := List.takeWhile_eq_self_iff.2 hin
  have hdrop' := List.dropWhile_eq_nil_iff.2 hin
  unfold userSpan
  dsimp only
  rw [htake, hdrop, htake', hdrop']
  split <;> simp

theorem inside_userSpan (hcs : Inside cs) : Inside (userSpan true cs).2 := by
  have hin : ∀ c ∈ cs, (!endsAuthority true c) = true := by
    intro c hc
    rw [hcs c hc]
    rfl
  have htake := List.takeWhile_eq_self_iff.2 hin
  have hdrop := List.dropWhile_eq_nil_iff.2 hin
  unfold userSpan
  dsimp only
  rw [htake, hdrop]
  split
  · intro c hc
    rw [List.append_nil, List.mem_reverse] at hc
    exact hcs c (List.mem_reverse.1 ((List.takeWhile_sublist _).subset hc))
  · exact hcs

theorem hostSpan_append (hcs : Inside cs) (hr : EndsAuthority rest) (bracket : Bool) :
    hostSpan true bracket (cs ++ rest) =
      ((hostSpan true bracket cs).1, (hostSpan true bracket cs).2 ++ rest) := by
  induction cs generalizing bracket with
  | nil =>
    cases rest with
    | nil => rfl
    | cons c rest =>
      rw [List.nil_append, hostSpan, hostSpan, if_pos (by simp [hr c rfl])]
      rfl
  | cons c cs ih =>
    have ih := ih fun c hc => hcs c (List.mem_cons_of_mem _ hc)
    rw [List.cons_append, hostSpan, hostSpan]
    split
    · rfl
    · dsimp only
      rw [ih]

/-- A host ends where an authority does, or before the colon of a port. -/
theorem hostSpan_rest (hcs : Inside cs) (bracket : Bool) :
    (hostSpan true bracket cs).2 = [] ∨
      ∃ port, (hostSpan true bracket cs).2 = ':' :: port ∧ Inside port := by
  induction cs generalizing bracket with
  | nil => exact .inl rfl
  | cons c cs ih =>
    have hinside : Inside cs := fun c hc => hcs c (List.mem_cons_of_mem _ hc)
    rw [hostSpan]
    split
    · rename_i hc
      rw [hcs c List.mem_cons_self, Bool.or_false, Bool.and_eq_true, decide_eq_true_eq] at hc
      exact .inr ⟨cs, by rw [hc.1], hinside⟩
    · exact ih hinside _

theorem isDigit_of_endsAuthority {c : Char} (h : endsAuthority true c = true) : c.isDigit = false := by
  simp only [endsAuthority, Bool.or_eq_true, decide_eq_true_eq, Bool.true_and] at h
  rcases h with ((rfl | rfl) | rfl) | rfl <;> rfl

/-- A port takes up what is left of the authority. -/
theorem portOf_append {p : Option Nat} (hcs : Inside cs) (hr : EndsAuthority rest)
    (h : portOf scheme (cs ++ rest) = .ok (p, r)) :
    r = rest ∧ ∀ rest', EndsAuthority rest' → portOf scheme (cs ++ rest') = .ok (p, rest') := by
  cases hdrop : cs.dropWhile Char.isDigit with
  | nil =>
    let n := cs.foldl (fun n d => n * 10 + (d.toNat - '0'.toNat)) 0
    have hread : ∀ rest', EndsAuthority rest' → portOf scheme (cs ++ rest') =
        if 65535 < n then .error .invalidPort else .ok (portOf.keep scheme cs n, rest') := by
      intro rest' hr'
      obtain ⟨htake, hrest⟩ := takeWhile_append_ends (List.dropWhile_eq_nil_iff.1 hdrop)
        fun c hc => isDigit_of_endsAuthority (hr' c hc)
      unfold portOf
      dsimp only
      rw [htake, hrest]
      cases rest' with
      | nil => rfl
      | cons c rest' =>
        dsimp only
        rw [if_pos (hr' c rfl)]
    rw [hread rest hr] at h
    split at h
    · cases h
    · rename_i hn
      cases h
      refine ⟨rfl, ?_⟩
      intro rest' hr'
      rw [hread rest' hr', if_neg hn]
  | cons c cs' =>
    have hc : endsAuthority true c = false := by
      apply hcs
      apply (List.dropWhile_sublist _).subset
      rw [hdrop]
      exact List.mem_cons_self
    have hrest : (cs ++ rest).dropWhile Char.isDigit = c :: (cs' ++ rest) := by
      rw [List.dropWhile_append, hdrop]
      rfl
    unfold portOf at h
    dsimp only at h
    rw [hrest] at h
    split at h
    · cases h
    · dsimp only at h
      rw [hc] at h
      cases h

/-- An authority with its host and its port read. -/
def withUser (user : Option (List Char)) (host : Host) (port : Option Nat) : Authority where
  username := percentEncode userSet ((user.getD []).takeWhile (· ≠ ':'))
  password := percentEncode userSet (((user.getD []).dropWhile (· ≠ ':')).drop 1)
  host := some host
  port

/-- Reading the port, if there is one. -/
def behindHost (scheme : List Char) (user : Option (List Char)) (host : Host) (cs : List Char) :
    Parse (Authority × List Char) :=
  match cs with
  | ':' :: afterColon => (portOf scheme afterColon).map fun (port, rest) => (withUser user host port, rest)
  | rest => .ok (withUser user host none, rest)

theorem behindHost_colon (scheme : List Char) (user : Option (List Char)) (host : Host) (cs : List Char) :
    behindHost scheme user host (':' :: cs) =
      (portOf scheme cs).map fun (port, rest) => (withUser user host port, rest) := rfl

theorem behindHost_ends (user : Option (List Char)) (host : Host) (hr : EndsAuthority rest) :
    behindHost scheme user host rest = .ok (withUser user host none, rest) := by
  unfold behindHost
  split
  · rename_i afterColon
    have hcolon := hr ':' rfl
    cases hcolon
  · rfl

theorem authorityOf_eq (hs : isSpecial scheme = true) (hcs : Inside cs) (hr : EndsAuthority rest)
    (hne : (userSpan true cs).2 ≠ []) :
    authorityOf scheme (cs ++ rest) = (hostOf (hostSpan true false (userSpan true cs).2).1).bind fun host =>
      behindHost scheme (userSpan true cs).1 host ((hostSpan true false (userSpan true cs).2).2 ++ rest) := by
  have hinside := inside_userSpan hcs
  obtain ⟨c, cs', hu⟩ := List.exists_cons_of_ne_nil hne
  have hc : endsAuthority true c = false := hinside c (hu ▸ List.mem_cons_self)
  unfold authorityOf
  dsimp only
  rw [hs, userSpan_append hcs hr]
  dsimp only
  rw [hostSpan_append hinside hr, hu]
  dsimp only
  rw [List.cons_append, if_neg (by simp [hc]), if_pos rfl]
  cases hostOf (hostSpan true false (c :: cs')).1 with
  | error e => rfl
  | ok host =>
    generalize (hostSpan true false (c :: cs')).2 ++ rest = text
    dsimp only [bind, Except.bind, Functor.map, Except.map]
    split
    · rename_i afterColon
      rw [behindHost_colon, Option.isNone_some, if_neg Bool.false_ne_true]
      cases portOf scheme afterColon <;> rfl
    · rename_i hcolon
      rw [Option.isNone_some, Bool.false_and, if_neg Bool.false_ne_true]
      unfold behindHost
      split
      · rename_i afterColon
        exact absurd rfl (hcolon afterColon)
      · rfl

theorem authorityOf_append (hs : isSpecial scheme = true) (hcs : Inside cs) (hr : EndsAuthority rest)
    (h : authorityOf scheme (cs ++ rest) = .ok (a, r)) :
    cs ≠ [] ∧ a.host.isSome = true ∧ r = rest ∧
      ∀ rest', EndsAuthority rest' → authorityOf scheme (cs ++ rest') = .ok (a, rest') := by
  have hne : (userSpan true cs).2 ≠ [] := by
    -- without a host there is an error, whether or not a user was given
    intro hu
    have hhost : hostSpan true false ([] ++ rest) = ([], rest) := @hostSpan_append [] rest nofun hr false
    unfold authorityOf at h
    dsimp only at h
    rw [hs, userSpan_append hcs hr, hu] at h
    dsimp only at h
    rw [hhost] at h
    cases rest with
    | nil =>
      dsimp only [List.nil_append] at h
      split at h
      · cases h
      · cases h
    | cons c rest =>
      dsimp only [List.nil_append] at h
      split at h
      · cases h
      · cases h
  have hnonempty : cs ≠ [] := by
    intro hnil
    rw [hnil] at hne
    exact hne rfl
  have hinside := inside_userSpan hcs
  rw [authorityOf_eq hs hcs hr hne] at h
  cases hhost : hostOf (hostSpan true false (userSpan true cs).2).1 with
  | error e =>
    rw [hhost] at h
    cases h
  | ok host =>
    have heq : ∀ rest', EndsAuthority rest' → authorityOf scheme (cs ++ rest') =
        behindHost scheme (userSpan true cs).1 host ((hostSpan true false (userSpan true cs).2).2 ++ rest') := by
      intro rest' hr'
      rw [authorityOf_eq hs hcs hr' hne, hhost]
      rfl
    rw [hhost] at h
    change behindHost _ _ host _ = .ok (a, r) at h
    refine ⟨hnonempty, ?_⟩
    rcases hostSpan_rest hinside false with hrest | ⟨port, hrest, hport⟩
    · rw [hrest, List.nil_append, behindHost_ends _ _ hr] at h
      cases h
      refine ⟨rfl, rfl, ?_⟩
      intro rest' hr'
      rw [heq rest' hr', hrest, List.nil_append, behindHost_ends _ _ hr']
    · rw [hrest, List.cons_append, behindHost_colon] at h
      cases hp : portOf scheme (port ++ rest) with
      | error e =>
        rw [hp] at h
        cases h
      | ok pr =>
        rw [hp] at h
        cases h
        obtain ⟨hr, hport⟩ := portOf_append hport hr hp
        refine ⟨rfl, hr, ?_⟩
        intro rest' hr'
        rw [heq rest' hr', hrest, List.cons_append, behindHost_colon, hport rest' hr']
        rfl

end GatewayFeed.Url
