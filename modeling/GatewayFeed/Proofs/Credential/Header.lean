import GatewayFeed.Proofs.Admin.Keys
import GatewayFeed.Proofs.Fetch.Retrying
import GatewayFeed.Proofs.Text.Base64

/-! Tokens as headers. What is written of a token are letters of ASCII, so whatever the user name and the
password are, the value that brings it may stand in a header, and to look at it before a request is built
changes no request. -/

namespace GatewayFeed

namespace Credential

variable {c d : Credential}

/-- Why a value may not stand in a header. -/
def refusal : String := "failed to parse header value"

/-- The value of the `Authorization` header, if it may stand in one. -/
def headerValue (c : Credential) : Except String String :=
  if (Utf8.encode c.header).all Admin.isHeaderByte then .ok c.header else .error refusal

theorem bytes_eq_encode (c : Credential) : c.bytes = Utf8.encode (c.username ++ ":" ++ c.password) := by
  rw [Utf8.encode_append, Utf8.encode_append]
  rfl

theorem token_toList (c : Credential) : c.token.toList = Base64.encode c.bytes := String.toList_ofList

theorem token_eq_iff :
    c.token = d.token ↔ c.username ++ ":" ++ c.password = d.username ++ ":" ++ d.password := by
  constructor
  · intro h
    have hbytes : c.bytes = d.bytes := by
      have hc := Base64.decode?_encode c.bytes
      rw [← token_toList, h, token_toList, Base64.decode?_encode] at hc
      exact (Option.some.inj hc).symm
    rw [bytes_eq_encode, bytes_eq_encode] at hbytes
    have htext := Utf8.decode?_encode (c.username ++ ":" ++ c.password)
    rw [hbytes, Utf8.decode?_encode] at htext
    exact (Option.some.inj htext).symm
  · intro h
    rw [token, token, bytes_eq_encode, bytes_eq_encode, h]

/-- Everything that a token is made of may stand in a header. -/
theorem isHeaderByte_of_mem {x : Char} (hx : x ∈ '=' :: Base64.alphabet) :
    (Utf8.encodeChar x).all Admin.isHeaderByte = true := by
  have hall : (('=' :: Base64.alphabet).all fun x => (Utf8.encodeChar x).all Admin.isHeaderByte) = true := by
    decide +kernel
  exact List.all_eq_true.1 hall x hx

theorem all_isHeaderByte_token (c : Credential) : (Utf8.encode c.token).all Admin.isHeaderByte = true := by
  obtain ⟨letters, hletters, hmem⟩ := Base64.exists_letters c.bytes
  rw [Utf8.encode, token_toList, hletters, List.all_eq_true]
  intro b hb
  obtain ⟨x, hx, hb⟩ := List.mem_flatMap.1 hb
  refine List.all_eq_true.1 (isHeaderByte_of_mem ?_) b hb
  rcases List.mem_append.1 hx with hx | hx
  · exact List.mem_cons_of_mem _ (hmem x hx)
  · rw [List.eq_of_mem_replicate hx]
    exact List.mem_cons_self

theorem headerValue_eq (c : Credential) : c.headerValue = .ok ("Basic " ++ c.token) := by
  have hscheme : (Utf8.encode "Basic ").all Admin.isHeaderByte = true := by decide +kernel
  have hall : (Utf8.encode c.header).all Admin.isHeaderByte = true := by
    rw [header, Utf8.encode_append, List.all_append, hscheme, c.all_isHeaderByte_token]
    rfl
  rw [headerValue, if_pos hall, header]

end Credential

namespace Fetcher

variable {f : Fetcher} {server : Fetch.Server} {e : Endpoint} {reason : String}

/-- The request for a dataset, if it looks at the value of its header first. -/
def checkedRequest (f : Fetcher) (e : Endpoint) : Except FetchError Fetch.Request :=
  match f.credential.headerValue with
  | .error reason => .error (.requestBuild reason)
  | .ok value => (f.request e).map fun r => { r with authorization := some value }

theorem authorization_of_request {r : Fetch.Request} (h : f.request e = .ok r) :
    r.authorization = some f.credential.header := by
  unfold request at h
  split at h
  · cases h
  · split at h
    · cases h
    · rw [← Except.ok.inj h]

theorem checkedRequest_eq (f : Fetcher) (e : Endpoint) : f.checkedRequest e = f.request e := by
  rw [checkedRequest, Credential.headerValue_eq]
  cases hr : f.request e with
  | error x => rfl
  | ok r =>
    have hvalue := authorization_of_request hr
    rw [Credential.header] at hvalue
    dsimp only
    rw [Except.map, ← hvalue]

/-- No request is left unbuilt for the value of its header: what is wrong with an address reads otherwise. -/
theorem request_ne_refusal (f : Fetcher) (e : Endpoint) :
    f.request e ≠ .error (.requestBuild Credential.refusal) := by
  have hbuilder : "builder error".toList.head? = some 'b' := by decide
  have hrefusal : Credential.refusal.toList.head? = some 'f' := by decide
  have hne : ∀ text, "builder error" ++ text ≠ Credential.refusal := by
    intro text h
    rw [← h, String.toList_append, List.head?_append, hbuilder, Option.some_or] at hrefusal
    exact absurd hrefusal (by decide)
  unfold request
  split
  · intro h
    have htext := FetchError.requestBuild.inj (Except.error.inj h)
    exact hne "" (by rw [String.append_empty, htext])
  · split
    · intro h
      have htext := FetchError.requestBuild.inj (Except.error.inj h)
      rw [Fetch.forUrl, String.append_assoc, String.append_assoc] at htext
      exact hne _ htext
    · nofun

/-- An answer is a payload or an error of its own. -/
theorem outcome_ne_requestBuild (r : Fetch.Response) : f.outcome r ≠ some (.error (.requestBuild reason)) := by
  unfold outcome
  split
  · split
    · nofun
    · nofun
    · split <;> nofun
  · split <;> nofun

theorem request_of_attempt {t : Fetch.Traffic}
    (h : (f.attempt server e t).1 = some (.error (.requestBuild reason))) :
    f.request e = .error (.requestBuild reason) := by
  unfold attempt at h
  split at h
  · rename_i x hx
    cases h
    exact hx
  · split at h
    · split at h
      · exact absurd h (outcome_ne_requestBuild _)
      · cases h
      · split at h <;> cases h
    · cases h

/-- A fetch comes to what one of its attempts comes to. -/
theorem exists_attempt {σ : Type} {tryOnce : σ → Option Outcome × σ} {left n : Nat} {s : σ} {o : Outcome}
    (h : (attemptsFrom tryOnce left n s).1.outcome = some o) : ∃ s, (tryOnce s).1 = some o := by
  induction left generalizing n s with
  | zero =>
    cases hs : tryOnce s with
    | mk x s' =>
      cases x with
      | none =>
        rw [attemptsFrom_hung hs] at h
        cases h
      | some x =>
        rw [attemptsFrom_last hs] at h
        exact ⟨s, by rw [hs, ← h]⟩
  | succ left ih =>
    cases hs : tryOnce s with
    | mk x s' =>
      cases x with
      | none =>
        rw [attemptsFrom_hung hs] at h
        cases h
      | some x =>
        rw [attemptsFrom_more hs] at h
        split at h
        · exact ih h
        · exact ⟨s, by rw [hs, ← h]⟩

theorem fetch_ne_refusal (f : Fetcher) (server : Fetch.Server) (e : Endpoint) (t : Fetch.Traffic) :
    (f.fetch server e t).1.outcome ≠ some (.error (.requestBuild Credential.refusal)) := by
  intro h
  rw [fetch] at h
  obtain ⟨t', hattempt⟩ := exists_attempt h
  exact f.request_ne_refusal e (request_of_attempt hattempt)

end Fetcher

namespace Credential

/-- For every user name and every password the token is the text of both in base64, as long as the groups of
its bytes make it and filled up at its end. It may stand in a header, so that looking at it first changes no
request and no fetch fails for it. Two credentials share their token only if they are the same text. -/
theorem token_encodes_and_sends (c : Credential) :
    Base64.decode? c.token.toList = some (Utf8.encode (c.username ++ ":" ++ c.password)) ∧
    c.token.length = 4 * (((Utf8.encode (c.username ++ ":" ++ c.password)).length + 2) / 3) ∧
    (∃ letters, (∀ x ∈ letters, x ∈ Base64.alphabet) ∧ c.token.toList =
      letters ++ List.replicate (Base64.missing (Utf8.encode (c.username ++ ":" ++ c.password)).length) '=') ∧
    c.headerValue = .ok ("Basic " ++ c.token) ∧
    (∀ (f : Fetcher) (e : Endpoint),
      { f with credential := c }.checkedRequest e = { f with credential := c }.request e) ∧
    (∀ (f : Fetcher) (server : Fetch.Server) (e : Endpoint) (t : Fetch.Traffic),
      ({ f with credential := c }.fetch server e t).1.outcome ≠ some (.error (.requestBuild refusal))) ∧
    (∀ d : Credential, c.token = d.token ↔
      c.username ++ ":" ++ c.password = d.username ++ ":" ++ d.password) := by
  rw [← bytes_eq_encode]
  obtain ⟨letters, hletters, hmem⟩ := Base64.exists_letters c.bytes
  refine ⟨?_, ?_, ⟨letters, hmem, ?_⟩, c.headerValue_eq, ?_, ?_, fun d => token_eq_iff⟩
  · rw [token_toList, Base64.decode?_encode]
  · rw [← String.length_toList, token_toList, Base64.length_encode]
  · rw [token_toList, hletters]
  · intro f e
    exact Fetcher.checkedRequest_eq _ e
  · intro f server e t
    exact Fetcher.fetch_ne_refusal _ server e t

end Credential

end GatewayFeed
