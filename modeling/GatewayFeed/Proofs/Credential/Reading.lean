import GatewayFeed.Fetch.Fetcher
import GatewayFeed.Proofs.Lookup
import GatewayFeed.Proofs.Text.Base64
import GatewayFeed.Proofs.Text.Utf8
import GatewayFeed.Settings.Validation

/-! Tokens as the control plane reads them: the user name goes up to the first colon, and all that follows
is the password. A name with a colon in it is not read as it was meant. -/

namespace GatewayFeed

namespace Credential

def colon : UInt8 := ':'.toUInt8

/-- The credential of a token, `none` if it has no colon or is no text. -/
def ofToken? (token : String) : Option Credential := do
  let bytes ← Base64.decode? token.toList
  match bytes.dropWhile (· ≠ colon) with
  | [] => none
  | _ :: password => return ⟨← Utf8.decode? (bytes.takeWhile (· ≠ colon)), ← Utf8.decode? password⟩

/-- What a credential is taken for: the name is cut at its first colon, and the rest of it goes to the
password. -/
def asRead (c : Credential) : Credential :=
  match c.username.toList.dropWhile (· ≠ ':') with
  | [] => c
  | _ :: rest =>
    ⟨String.ofList (c.username.toList.takeWhile (· ≠ ':')), String.ofList (rest ++ ':' :: c.password.toList)⟩

variable {c d : Credential}

theorem colon_notMem_encodeChars {cs : List Char} (h : ':' ∉ cs) : colon ∉ Utf8.encodeChars cs := by
  intro hmem
  obtain ⟨x, hx, hb⟩ := List.mem_flatMap.1 hmem
  rcases Utf8.byte_encodeChar hb with hlarge | hsame
  · exact absurd hlarge (by decide)
  · have hchar : x = ':' := by rw [← Char.ofNat_toNat x, ← hsame]; rfl
    exact h (hchar ▸ hx)

theorem bytes_eq (c : Credential) :
    c.bytes = Utf8.encodeChars c.username.toList ++ colon :: Utf8.encodeChars c.password.toList := by
  simp [bytes, Utf8.encode, colon]

/-- What comes first in a list is cut off in front of it. -/
theorem cut_at_first {α : Type} [DecidableEq α] {x : α} {name : List α} (h : x ∉ name) (rest : List α) :
    (name ++ x :: rest).takeWhile (· ≠ x) = name ∧ (name ++ x :: rest).dropWhile (· ≠ x) = x :: rest := by
  refine takeWhile_append_ends ?_ ?_
  · intro y hy
    rw [decide_eq_true_iff]
    rintro rfl
    exact h hy
  · intro y hy
    cases hy
    simp

theorem ofToken?_token_of_notMem (h : ':' ∉ c.username.toList) : ofToken? c.token = some c := by
  obtain ⟨htake, hdrop⟩ := cut_at_first (colon_notMem_encodeChars h) (Utf8.encodeChars c.password.toList)
  rw [ofToken?, token, String.toList_ofList, Base64.decode?_encode]
  simp only [Option.bind_eq_bind, Option.bind_some, bytes_eq, hdrop, htake, Utf8.decode?_encodeChars,
    String.ofList_toList]
  rfl

/-- A name is whole or goes on behind its first colon. -/
theorem asRead_cases (c : Credential) :
    (':' ∉ c.username.toList ∧ c.asRead = c) ∨
    ∃ name rest, c.username.toList = name ++ ':' :: rest ∧ ':' ∉ name ∧
      c.asRead = ⟨String.ofList name, String.ofList (rest ++ ':' :: c.password.toList)⟩ := by
  by_cases hmem : ':' ∈ c.username.toList
  · obtain ⟨name, rest, hname, hcolon⟩ := List.eq_append_cons_of_mem hmem
    obtain ⟨htake, hdrop⟩ := cut_at_first hcolon rest
    refine .inr ⟨name, rest, hname, hcolon, ?_⟩
    rw [asRead, hname, hdrop, htake]
  · have hwhole : c.username.toList.dropWhile (· ≠ ':') = [] := by
      rw [List.dropWhile_eq_nil_iff]
      intro x hx
      rw [decide_eq_true_iff]
      rintro rfl
      exact hmem hx
    refine .inl ⟨hmem, ?_⟩
    rw [asRead, hwhole]

theorem encodeChars_colon (cs : List Char) : Utf8.encodeChars (':' :: cs) = colon :: Utf8.encodeChars cs := rfl

/-- The same bytes, cut elsewhere. -/
theorem token_asRead (c : Credential) : c.asRead.token = c.token := by
  rcases c.asRead_cases with ⟨-, h⟩ | ⟨name, rest, hname, -, h⟩
  · rw [h]
  · have hbytes : c.asRead.bytes = c.bytes := by
      rw [bytes_eq, bytes_eq, h, hname, String.toList_ofList, String.toList_ofList, Utf8.encodeChars_append,
        Utf8.encodeChars_append, encodeChars_colon, encodeChars_colon, List.append_assoc, List.cons_append]
    rw [token, token, hbytes]

theorem asRead_eq_iff : c.asRead = c ↔ ':' ∉ c.username.toList := by
  rcases c.asRead_cases with ⟨hnone, h⟩ | ⟨name, rest, hname, hcolon, h⟩
  · simp [hnone, h]
  · have hmem : ':' ∈ c.username.toList := by simp [hname]
    simp only [hmem, not_true, iff_false]
    intro he
    rw [h] at he
    have husername : c.username.toList = name := by rw [← he, String.toList_ofList]
    exact hcolon (husername ▸ hmem)

theorem colon_notMem_asRead (c : Credential) : ':' ∉ c.asRead.username.toList := by
  rcases c.asRead_cases with ⟨hnone, h⟩ | ⟨name, rest, -, hcolon, h⟩
  · rw [h]
    exact hnone
  · rw [h, String.toList_ofList]
    exact hcolon

/-- Every token is read, as the credential of the cut name. -/
theorem ofToken?_token (c : Credential) : ofToken? c.token = some c.asRead := by
  rw [← token_asRead, ofToken?_token_of_notMem c.colon_notMem_asRead]

theorem asRead_eq_of_token (h : c.token = d.token) : c.asRead = d.asRead := by
  have hc := c.ofToken?_token
  rw [h, ofToken?_token] at hc
  exact (Option.some.inj hc).symm

end Credential

namespace Settings

variable {s t : Settings}

/-- What the requests under some settings sign in with. -/
def credential (s : Settings) : Credential := (Fetcher.ofSettings s true).credential

def withCredential (s : Settings) (c : Credential) : Settings :=
  { s with controlPlane := { s.controlPlane with username := c.username, password := c.password } }

theorem when_eq_nil_iff {broken : Bool} {p : Problem} : when broken p = [] ↔ broken = false := by
  cases broken <;> simp [when]

/-- Any name that is not blank is accepted, and any password. -/
theorem problems_withCredential (hs : s.problems = []) (c : Credential) :
    (s.withCredential c).problems = [] ↔ Text.allBlank c.username = false := by
  simp only [problems, List.append_eq_nil_iff, controlPlaneProblems] at hs ⊢
  simp [hs, withCredential, when_eq_nil_iff]

theorem allBlank_username (hs : s.problems = []) : Text.allBlank s.credential.username = false := by
  have h := problems_withCredential hs s.credential
  exact h.1 hs

end Settings

open Credential (ofToken?)

/-- The control plane reads the user name and the password of accepted settings from their token exactly if
the name has no colon, and among settings of that sort the token tells all credentials apart. A name with a
colon is read as the credential that is cut there, which is another one with the same token; it is one of
accepted settings too, if what stands before the colon is not blank. -/
theorem accepted_credential_read {s : Settings} (hs : s.problems = []) :
    (ofToken? s.credential.token = some s.credential ↔ ':' ∉ s.controlPlane.username.toList) ∧
    (∀ t : Settings, t.problems = [] → ':' ∉ s.controlPlane.username.toList →
      ':' ∉ t.controlPlane.username.toList → t.credential.token = s.credential.token →
      t.credential = s.credential) ∧
    (':' ∈ s.controlPlane.username.toList → ∃ c, ofToken? s.credential.token = some c ∧ c ≠ s.credential ∧
      c.token = s.credential.token ∧
      ((∃ t : Settings, t.problems = [] ∧ t.credential = c) ↔ Text.allBlank c.username = false)) := by
  have hread := s.credential.ofToken?_token
  refine ⟨?_, ?_, ?_⟩
  · rw [hread, Option.some.injEq]
    exact Credential.asRead_eq_iff
  · intro t ht hcolon hcolon' htoken
    have hsame := Credential.asRead_eq_of_token htoken
    rwa [Credential.asRead_eq_iff.2 hcolon', Credential.asRead_eq_iff.2 hcolon] at hsame
  · intro hcolon
    refine ⟨s.credential.asRead, hread, ?_, s.credential.token_asRead, ?_, ?_⟩
    · intro he
      exact Credential.asRead_eq_iff.1 he hcolon
    · rintro ⟨t, ht, hc⟩
      rw [← hc]
      exact Settings.allBlank_username ht
    · intro hblank
      exact ⟨s.withCredential s.credential.asRead, (Settings.problems_withCredential hs _).2 hblank, rfl⟩

def signingIn (username password : String) : Settings :=
  { controlPlane := { serviceUrl := "https://[::1]:9443", username, password } }

theorem accepted_credential_read_ops :
    (signingIn "ops" "a:b").problems = [] ∧
    ofToken? (signingIn "ops" "a:b").credential.token = some ⟨"ops", "a:b"⟩ ∧
    (signingIn "ops:a" "b").problems = [] ∧
    ofToken? (signingIn "ops:a" "b").credential.token ≠ some ⟨"ops:a", "b"⟩ := by
  have hs : (signingIn "ops" "a:b").problems = [] := by decide +kernel
  have ht : (signingIn "ops:a" "b").problems = [] := by decide +kernel
  refine ⟨hs, (accepted_credential_read hs).1.2 (by decide), ht, ?_⟩
  intro hread
  exact (accepted_credential_read ht).1.1 hread (by decide)

/-- A colon in the name is accepted, and then two credentials have one token. -/
theorem token_of_two_credentials :
    ¬ ∀ s t : Settings, s.problems = [] → t.problems = [] →
      ofToken? s.credential.token = some s.credential ∧
      (s.credential ≠ t.credential → s.credential.token ≠ t.credential.token) := by
  intro h
  obtain ⟨-, hother⟩ := h (signingIn "a:b" "c") (signingIn "a" "b:c") (by decide +kernel) (by decide +kernel)
  exact hother (by decide) (by decide)

end GatewayFeed
