import GatewayFeed.Proofs.Fetch.Target
import GatewayFeed.Proofs.Url.Ending
import GatewayFeed.Proofs.Url.Form

/-! What the requests for the datasets ask for. The gateway's label and its type are put behind the address of
the dataset as a query. Whatever the two texts are, they stay in it: the path ends where the query begins, and
what is read there are the two texts again. -/

namespace GatewayFeed

variable {s : Settings} {e : Endpoint} {base : String} {f : Fetcher} {r : Fetch.Request}

theorem Endpoint.bare_url (he : e ∈ Endpoint.all) (hbase : Url.Bare base.toList) :
    Url.Bare (e.url base).toList := by
  have hprefix : Url.Bare pathPrefix := by decide
  have hname : ∀ e ∈ Endpoint.all, Url.Bare e.path.toList := by decide
  rw [url, String.toList_ofList]
  refine Url.bare_append (Url.bare_append ?_ hprefix) (hname e he)
  intro c hc
  apply hbase
  rw [← withoutSlashes_append_trailing base.toList]
  exact List.mem_append_left _ hc

namespace Fetcher

theorem parse_of_request (h : f.request e = .ok r) : ∃ t, Url.parse (e.url f.baseUrl) = .ok t ∧
    t.host.isSome = true ∧ r.url = (withoutUser t).appendQuery f.query := by
  unfold request at h
  split at h
  · cases h
  · rename_i t ht
    split at h
    · cases h
    · rename_i hhost
      cases h
      exact ⟨t, ht, by simpa [Option.isSome_iff_ne_none] using hhost, rfl⟩

/-- A request is built for every address with a host, and for no other. -/
theorem exists_request_iff : (∃ r, f.request e = .ok r) ↔
    ∃ t, Url.parse (e.url f.baseUrl) = .ok t ∧ t.host.isSome = true := by
  constructor
  · rintro ⟨r, hr⟩
    obtain ⟨t, ht, hhost, -⟩ := parse_of_request hr
    exact ⟨t, ht, hhost⟩
  · rintro ⟨t, ht, hhost⟩
    obtain ⟨r, hr, -⟩ := request_of_parse ht hhost
    exact ⟨r, hr⟩

/-- Without a query of its own, the address of a dataset gets all of its query from the label and the type. -/
theorem url_of_request {givesUp : Bool} (he : e ∈ Endpoint.all)
    (hbase : Url.Bare s.controlPlane.serviceUrl.toList) (h : (ofSettings s givesUp).request e = .ok r) :
    ∃ t, Url.parse (e.url s.controlPlane.serviceUrl) = .ok t ∧ t.fragment = none ∧ Url.Bare t.path.chars ∧
      r.url = { t with
        username := []
        password := []
        query := some (Url.Form.append []
          (queryOf s.controlPlane.gatewayLabel s.controlPlane.connectorType)) } := by
  obtain ⟨t, ht, -, hurl⟩ := parse_of_request h
  have hreads := Url.reads_parse ht
  obtain ⟨hquery, hfragment⟩ := hreads.ending.2 (Endpoint.bare_url he hbase)
  have hne : Url.Form.append [] (ofSettings s givesUp).query ≠ [] :=
    Url.Form.append_ne_nil (List.cons_ne_nil _ _) []
  refine ⟨t, ht, hfragment, hreads.path, ?_⟩
  rw [hurl, Url.appendQuery, withoutUser, hquery, Option.getD_none]
  dsimp only
  rw [if_neg (by simpa using hne)]
  rfl

/-- If the text of the control plane's address has neither a question mark nor a hash, which for an address that
can be read is to say that it has neither a query nor a fragment (`Url.reads_parse`), a request for a dataset is
built as soon as the address of the dataset has a host. The path it asks for is the one of that address, up to
the first question mark, and the pairs that are read behind that are the label and the type and no others,
whatever these are. Two such requests have the same query only if they have the same label and the same type. -/
theorem query_reads_as_label_and_type (he : e ∈ Endpoint.all)
    (hbase : Url.Bare s.controlPlane.serviceUrl.toList) (givesUp : Bool) :
    ((∃ r, (ofSettings s givesUp).request e = .ok r) ↔
      ∃ t, Url.parse (e.url s.controlPlane.serviceUrl) = .ok t ∧ t.host.isSome = true) ∧
    ∀ r, (ofSettings s givesUp).request e = .ok r →
      (∃ t q, Url.parse (e.url s.controlPlane.serviceUrl) = .ok t ∧
        r.url = { t with username := [], password := [], query := some q } ∧
        r.url.fragment = none ∧ r.url.target.toList = t.path.chars ++ '?' :: q ∧
        Url.Bare t.path.chars ∧ '#' ∉ q ∧
        Url.Form.pairs q =
          [("gatewayLabel", s.controlPlane.gatewayLabel), ("type", s.controlPlane.connectorType)]) ∧
      ∀ (s' : Settings) (e' : Endpoint) (givesUp' : Bool) (r' : Fetch.Request), e' ∈ Endpoint.all →
        Url.Bare s'.controlPlane.serviceUrl.toList → (ofSettings s' givesUp').request e' = .ok r' →
        (r.url.query = r'.url.query ↔ s.controlPlane.gatewayLabel = s'.controlPlane.gatewayLabel ∧
          s.controlPlane.connectorType = s'.controlPlane.connectorType) := by
  refine ⟨exists_request_iff, ?_⟩
  intro r hr
  obtain ⟨t, ht, hfragment, hpath, hurl⟩ := url_of_request he hbase hr
  have hpairs := Url.Form.pairs_append []
  have hempty : Url.Form.pairs [] = [] := rfl
  refine ⟨⟨t, _, ht, hurl, ?_, ?_, hpath, ?_, ?_⟩, ?_⟩
  · rw [hurl]
    exact hfragment
  · rw [hurl, Url.target, String.toList_ofList]
    rfl
  · exact Url.Form.notMem_append rfl (by decide) List.not_mem_nil _
  · rw [hpairs, hempty, List.nil_append]
    rfl
  · intro s' e' givesUp' r' he' hbase' hr'
    obtain ⟨t', -, -, -, hurl'⟩ := url_of_request he' hbase' hr'
    rw [hurl, hurl']
    constructor
    · intro hsame
      have hread := congrArg Url.Form.pairs (Option.some.inj hsame)
      rw [hpairs, hpairs, hempty, List.nil_append, List.nil_append] at hread
      simpa [queryOf] using hread
    · rintro ⟨hlabel, htype⟩
      rw [hlabel, htype]

/-- Settings with a label full of separators, and without a type. -/
def settingsWithSeparators : Settings where
  controlPlane :=
    { serviceUrl := "https://[::1]:9443/base/", gatewayLabel := "a&type=b+c %26#é?", connectorType := "" }

theorem query_reads_as_label_with_separators :
    ∃ r q, (ofSettings settingsWithSeparators true).request (.ofKind .apis) = .ok r ∧
      r.url.target.toList = "/base/internal/data/v1/apis".toList ++ '?' :: q ∧
      Url.Form.pairs q = [("gatewayLabel", "a&type=b+c %26#é?"), ("type", "")] := by
  have haddress : (Url.parse ((Endpoint.ofKind .apis).url "https://[::1]:9443/base/")).toOption.map
      (fun t => (t.path.chars, t.host.isSome)) = some ("/base/internal/data/v1/apis".toList, true) := by
    decide +kernel
  obtain ⟨hbuilt, hall⟩ := query_reads_as_label_and_type (s := settingsWithSeparators) (e := .ofKind .apis)
    (by decide) (by decide) true
  cases hparse : Url.parse ((Endpoint.ofKind .apis).url "https://[::1]:9443/base/") with
  | error x =>
    rw [hparse] at haddress
    cases haddress
  | ok t =>
    rw [hparse] at haddress
    obtain ⟨hpath, hhost⟩ := Prod.mk.inj (Option.some.inj haddress)
    obtain ⟨r, hr⟩ := hbuilt.2 ⟨t, hparse, hhost⟩
    obtain ⟨⟨t', q, ht', -, -, htarget, -, -, hpairs⟩, -⟩ := hall r hr
    have hsame : t' = t := Except.ok.inj (ht'.symm.trans hparse)
    rw [hsame, hpath] at htarget
    exact ⟨r, q, hr, htarget, hpairs⟩

end Fetcher

end GatewayFeed
