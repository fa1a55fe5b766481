import GatewayFeed.Fetch.Fetcher
import GatewayFeed.Proofs.Url.Below
import GatewayFeed.Settings.Validation

/-! Where the requests for the datasets go. Their addresses are made from the text of the control plane's
address, and that text is accepted if it can be read as the address of a web server. This is not enough for
the datasets to be below it: text behind a query or a fragment is no path, a backslash at the end stays
beside the slash that follows, and dots behind an empty segment leave that segment at the end. -/

namespace GatewayFeed

open Endpoint (withoutSlashes pathPrefix)

variable {s : Settings} {e : Endpoint} {base : String} {u : Url} {c : Char}

theorem Settings.parse_of_accepted (h : s.problems = []) :
    ∃ u, Url.parse s.controlPlane.serviceUrl = .ok u ∧ Url.IsWeb u.scheme := by
  have hnone : serviceUrlProblem? s.controlPlane.serviceUrl = none := by
    cases hp : serviceUrlProblem? s.controlPlane.serviceUrl with
    | none => rfl
    | some p =>
      rw [problems, controlPlaneProblems, hp] at h
      cases h
  unfold serviceUrlProblem? at hnone
  split at hnone
  · cases hnone
  · rename_i u hu
    split at hnone
    · rename_i hw
      rw [Bool.or_eq_true, decide_eq_true_eq, decide_eq_true_eq] at hw
      exact ⟨u, hu, hw⟩
    · cases hnone

namespace Url

/-- Whether what is put behind the text of an address is put behind its path. -/
structure Extensible (text : String) (u : Url) : Prop where
  query : '?' ∉ text.toList
  fragment : '#' ∉ text.toList
  backslash : text.toList.getLast? ≠ some '\\'
  slashes : trailingSlashes u.path.chars ≤ max 1 (trailingSlashes text.toList)

/-- The slashes at the end of a text are behind its front. -/
theorem Front.split {scheme front rest cs : List Char} {a : Authority} {n : Nat} (h : Front scheme a front)
    (hcs : cs ++ List.replicate n '/' = front ++ rest) :
    ∃ path, cs = front ++ path ∧ rest = path ++ List.replicate n '/' := by
  rcases List.append_eq_append_iff.1 hcs with ⟨z, hfront, hslashes⟩ | ⟨path, hcs, hrest⟩
  · obtain ⟨c, hc, hin⟩ := h.last
    rcases List.eq_nil_or_concat' z with rfl | ⟨init, x, rfl⟩
    · exact ⟨[], by rw [hfront, List.append_nil, List.append_nil], hslashes.symm⟩
    · have hx : x = '/' := by
        apply List.eq_of_mem_replicate (n := n)
        rw [hslashes]
        simp
      rw [hfront, ← List.append_assoc, List.getLast?_concat, hx] at hc
      cases hc
      cases hin
  · exact ⟨path, hcs, hrest⟩

end Url

theorem mem_withoutSlashes (hc : c ≠ '/') (cs : List Char) : c ∈ withoutSlashes cs ↔ c ∈ cs := by
  have hsplit := withoutSlashes_append_trailing cs
  constructor
  · intro h
    rw [← hsplit]
    exact List.mem_append_left _ h
  · intro h
    rw [← hsplit] at h
    rcases List.mem_append.1 h with h | h
    · exact h
    · exact absurd (List.eq_of_mem_replicate h) hc

theorem getLast?_ne_slash {cs : List Char} (h : trailingSlashes cs = 0) : cs.getLast? ≠ some '/' := by
  intro hlast
  obtain ⟨init, rfl⟩ := List.getLast?_eq_some_iff.1 hlast
  have hone := trailingSlashes_append_replicate init 1
  rw [List.replicate_one, h] at hone
  omega

namespace Endpoint

/-- What the names of the datasets are like. -/
theorem name_facts : ∀ e ∈ all, Url.Walk.Plain e.path.toList ∧ e.path.toList.all Url.counts = true ∧
    (e.path.toList.getLast?.any fun c => !Url.isBlankOrControl c) = true := by decide

variable {scheme front path : List Char} {a : Url.Authority}

/-- Where the path begins in the text of an address. -/
theorem exists_split (hu : Url.parse base = .ok u) (hw : Url.IsWeb u.scheme)
    (hlast : ∀ c, base.toList.getLast? = some c → Url.isBlankOrControl c = false) :
    ∃ a front path, Url.Front u.scheme a front ∧ Url.EndsAuthority path ∧
      Url.kept (withoutSlashes base.toList) = front ++ path ∧
      u = Url.urlAt u.scheme a (path ++ List.replicate (trailingSlashes base.toList) '/') := by
  obtain ⟨a, front, rest, hfront, hrest, hcleaned⟩ := Url.exists_front hu hw
  have hsplit := withoutSlashes_append_trailing base.toList
  -- the text has a colon, so it is not blank
  have hcolon : ':' ∈ base.toList := by
    rw [← Url.mem_cleaned rfl, hcleaned]
    exact List.mem_append_left _ hfront.colon
  obtain ⟨init, c, hc⟩ := (List.eq_nil_or_concat' base.toList).resolve_left (List.ne_nil_of_mem hcolon)
  have hgetLast : base.toList.getLast? = some c := by rw [hc, List.getLast?_concat]
  have htext := Url.cleaned_append hsplit.symm ((mem_withoutSlashes (by decide) _).2 hcolon) rfl hgetLast
    (hlast c hgetLast) (fun c hmem => by rw [List.eq_of_mem_replicate hmem]; rfl)
  obtain ⟨path, hkept, rfl⟩ := hfront.split (htext.symm.trans hcleaned)
  refine ⟨a, front, path, hfront, ?_, hkept, ?_⟩
  · intro c hc
    apply hrest c
    rw [List.head?_append, Option.mem_def.1 hc]
    rfl
  · have hparse := hfront.parse base _ hrest hcleaned
    exact Except.ok.inj (hu.symm.trans hparse)

/-- Behind the text of an address without its slashes, a path of a dataset is read as a path. -/
theorem parse_below (hfront : Url.Front scheme a front) (hpath : Url.EndsAuthority path)
    (hkept : Url.kept (withoutSlashes base.toList) = front ++ path) (he : e ∈ all) :
    Url.parse (e.url base) = .ok (Url.urlAt scheme a (path ++ (pathPrefix ++ e.path.toList))) := by
  obtain ⟨-, hcounts, hname⟩ := name_facts e he
  have hprefix : pathPrefix.all Url.counts = true := by decide
  have htext : (e.url base).toList = withoutSlashes base.toList ++ (pathPrefix ++ e.path.toList) := by
    rw [url, String.toList_ofList, List.append_assoc]
  obtain ⟨c, hc, hblank⟩ := (Option.any_eq_true _ _).1 hname
  have hgetLast : (e.url base).toList.getLast? = some c := by
    rw [htext, List.getLast?_append, List.getLast?_append, hc]
    rfl
  have hcolon : ':' ∈ withoutSlashes base.toList := by
    have hmem : ':' ∈ Url.kept (withoutSlashes base.toList) := hkept ▸ List.mem_append_left _ hfront.colon
    exact (Url.mem_kept rfl).1 hmem
  have hcleaned := Url.cleaned_append htext hcolon rfl hgetLast (by simpa using hblank) (by
    intro c hc
    rcases List.mem_append.1 hc with hc | hc
    · exact List.all_eq_true.1 hprefix c hc
    · exact List.all_eq_true.1 hcounts c hc)
  rw [hkept, List.append_assoc] at hcleaned
  refine hfront.parse _ _ ?_ hcleaned
  intro c hc
  cases path with
  | nil =>
    cases hc
    rfl
  | cons d path => exact hpath c hc

/-- The end of a text without slashes at its end. -/
theorem getLast?_split (hlast : ∀ c, base.toList.getLast? = some c → Url.isBlankOrControl c = false)
    (hkept : Url.kept (withoutSlashes base.toList) = front ++ path) (hn : trailingSlashes base.toList = 0)
    (hne : front ≠ []) : base.toList.getLast? = (front ++ path).getLast? := by
  rw [← withoutSlashes_eq_iff] at hn
  rw [← hkept, hn]
  rcases List.eq_nil_or_concat' base.toList with hnil | ⟨init, c, hc⟩
  · rw [hn, hnil] at hkept
    exact absurd (List.append_eq_nil_iff.1 hkept.symm).1 hne
  · have hgetLast : base.toList.getLast? = some c := by rw [hc, List.getLast?_concat]
    rw [Url.getLast?_kept hgetLast (hlast c hgetLast), hgetLast]

theorem mem_text_iff {q : Char} (hq : Url.isBlankOrControl q = false) (hslash : q ≠ '/') (hfront : q ∉ front)
    (hkept : Url.kept (withoutSlashes base.toList) = front ++ path) : q ∈ base.toList ↔ q ∈ path := by
  rw [← mem_withoutSlashes hslash, ← Url.mem_kept hq, hkept, List.mem_append]
  constructor
  · intro h
    exact h.resolve_left hfront
  · intro h
    exact .inr h

theorem backslash_iff (hfront : Url.Front scheme a front)
    (hlast : ∀ c, base.toList.getLast? = some c → Url.isBlankOrControl c = false)
    (hkept : Url.kept (withoutSlashes base.toList) = front ++ path) :
    base.toList.getLast? ≠ some '\\' ↔
      (trailingSlashes base.toList = 0 → path.getLast? ≠ some '\\') := by
  obtain ⟨d, hd, hinside⟩ := hfront.last
  cases hn : trailingSlashes base.toList with
  | zero =>
    have hne : front ≠ [] := List.ne_nil_of_mem hfront.colon
    rw [getLast?_split hlast hkept hn hne, List.getLast?_append]
    cases hpath : path.getLast? with
    | none =>
      -- the authority ends in no backslash
      rw [Option.none_or, hd]
      constructor
      · intro _ _ hnone
        cases hnone
      · intro _ hbackslash
        cases hbackslash
        cases hinside
    | some c => simp
  | succ n =>
    have hsplit := withoutSlashes_append_trailing base.toList
    rw [hn, List.replicate_succ', ← List.append_assoc] at hsplit
    rw [← hsplit, List.getLast?_concat]
    constructor
    · intro _ hzero
      cases hzero
    · intro _ hbackslash
      cases hbackslash

theorem extensible_iff (hfront : Url.Front scheme a front)
    (hlast : ∀ c, base.toList.getLast? = some c → Url.isBlankOrControl c = false)
    (hkept : Url.kept (withoutSlashes base.toList) = front ++ path) :
    Url.Extensible base u ↔ (∀ c ∈ path, c ≠ '?' ∧ c ≠ '#') ∧
      (trailingSlashes base.toList = 0 → path.getLast? ≠ some '\\') ∧
      trailingSlashes u.path.chars ≤ max 1 (trailingSlashes base.toList) := by
  have hquery : '?' ∈ base.toList ↔ '?' ∈ path :=
    mem_text_iff rfl (by decide) (fun hq => (hfront.plain _ hq).1 rfl) hkept
  have hfragment : '#' ∈ base.toList ↔ '#' ∈ path :=
    mem_text_iff rfl (by decide) (fun hf => (hfront.plain _ hf).2 rfl) hkept
  rw [← backslash_iff hfront hlast hkept]
  constructor
  · intro h
    refine ⟨?_, h.backslash, h.slashes⟩
    intro c hc
    constructor
    · rintro rfl
      exact h.query (hquery.2 hc)
    · rintro rfl
      exact h.fragment (hfragment.2 hc)
  · rintro ⟨hplain, hbackslash, hslashes⟩
    refine ⟨?_, ?_, hbackslash, hslashes⟩
    · intro hq
      exact (hplain _ (hquery.1 hq)).1 rfl
    · intro hf
      exact (hplain _ (hfragment.1 hf)).2 rfl

theorem parse_url (hu : Url.parse base = .ok u) (hw : Url.IsWeb u.scheme) (he : e ∈ all)
    (hlast : ∀ c, base.toList.getLast? = some c → Url.isBlankOrControl c = false) :
    ∃ t, Url.parse (e.url base) = .ok t ∧ t.scheme = u.scheme ∧ t.host = u.host ∧ t.port = u.port ∧
      t.host.isSome = true ∧
      (t.path.chars = withoutSlashes u.path.chars ++ (pathPrefix ++ e.path.toList) ↔ Url.Extensible base u) := by
  obtain ⟨a, front, path, hfront, hpath, hkept, hbase⟩ := exists_split hu hw hlast
  have hparse := parse_below hfront hpath hkept he
  obtain ⟨hplain, -, -⟩ := name_facts e he
  obtain ⟨-, huhost, huport, hupath⟩ := Url.urlAt_parts u.scheme a
    (path ++ List.replicate (trailingSlashes base.toList) '/')
  obtain ⟨htscheme, hthost, htport, htpath⟩ := Url.urlAt_parts u.scheme a (path ++ (pathPrefix ++ e.path.toList))
  rw [← hbase] at huhost huport hupath
  refine ⟨_, hparse, htscheme, hthost.trans huhost.symm, htport.trans huport.symm, ?_, ?_⟩
  · rw [hthost]
    exact hfront.host
  · rw [htpath, extensible_iff hfront hlast hkept, hupath]
    apply Url.path_below_iff hplain hpath
    intro hn hslash
    have hne : front ≠ [] := List.ne_nil_of_mem hfront.colon
    have hgetLast := getLast?_split hlast hkept hn hne
    rw [List.getLast?_append, hslash] at hgetLast
    exact getLast?_ne_slash hn hgetLast

end Endpoint

namespace Fetcher

/-- A request for a dataset is made as soon as its address has a host. -/
theorem request_of_parse {f : Fetcher} {t : Url} (ht : Url.parse (e.url f.baseUrl) = .ok t)
    (hhost : t.host.isSome = true) :
    ∃ r, f.request e = .ok r ∧ r.url = (withoutUser t).appendQuery f.query := by
  have hsome : t.host.isNone = false := by
    rw [← Option.not_isSome, hhost]
    rfl
  refine ⟨⟨(withoutUser t).appendQuery f.query, some f.credential.header⟩, ?_, rfl⟩
  unfold request
  rw [ht]
  dsimp only
  rw [hsome]
  rfl

/-- Under settings that are accepted, if the address of the control plane does not end in a blank or in a
control, the address of every dataset is one of the same server and a request for it can be made. Its path
is the path of the control plane's address without the slashes at its end and then the path of the dataset
exactly if the text can be made longer in this way: it has no query, no fragment and no backslash at its
end, and its path ends in no more slashes than the text does, but for a single one. -/
theorem request_below_serviceUrl (hs : s.problems = []) (he : e ∈ Endpoint.all)
    (hlast : ∀ c, s.controlPlane.serviceUrl.toList.getLast? = some c → Url.isBlankOrControl c = false)
    (givesUp : Bool) :
    ∃ u t r query, Url.parse s.controlPlane.serviceUrl = .ok u ∧
      Url.parse (e.url s.controlPlane.serviceUrl) = .ok t ∧
      Url.IsWeb t.scheme ∧ t.scheme = u.scheme ∧ t.host = u.host ∧ t.port = u.port ∧
      (ofSettings s givesUp).request e = .ok r ∧
      r.url = { t with username := [], password := [], query := query } ∧
      (t.path.chars = withoutSlashes u.path.chars ++ (pathPrefix ++ e.path.toList) ↔
        Url.Extensible s.controlPlane.serviceUrl u) := by
  obtain ⟨u, hu, hw⟩ := Settings.parse_of_accepted hs
  obtain ⟨t, ht, hscheme, hhost, hport, hsome, hpath⟩ := Endpoint.parse_url hu hw he hlast
  obtain ⟨r, hr, hurl⟩ := request_of_parse (f := ofSettings s givesUp) ht hsome
  exact ⟨u, t, r, _, hu, ht, hscheme ▸ hw, hscheme, hhost, hport, hr, hurl, hpath⟩

def settingsAt (serviceUrl : String) : Settings := { controlPlane := { serviceUrl } }

theorem request_below_two_slashes :
    ∃ t r, Url.parse ((Endpoint.ofKind .apis).url "https://[::1]:9443/base//") = .ok t ∧
      t.path.chars = "/base/internal/data/v1/apis".toList ∧
      (ofSettings (settingsAt "https://[::1]:9443/base//") true).request (.ofKind .apis) = .ok r ∧
      r.url.path = t.path := by
  have hpath : (Url.parse "https://[::1]:9443/base//").toOption.map (·.path.chars) =
      some "/base//".toList := by decide +kernel
  have hlast : ∀ c, "https://[::1]:9443/base//".toList.getLast? = some c → Url.isBlankOrControl c = false := by
    intro c hc
    rw [show "https://[::1]:9443/base//".toList.getLast? = some '/' from rfl] at hc
    cases hc
    rfl
  obtain ⟨u, t, r, query, hu, ht, -, -, -, -, hr, hurl, hiff⟩ := request_below_serviceUrl
    (s := settingsAt "https://[::1]:9443/base//") (e := .ofKind .apis) (by decide +kernel) (by decide) hlast true
  have hu' : Url.parse "https://[::1]:9443/base//" = .ok u := hu
  rw [hu'] at hpath
  have hchars : u.path.chars = "/base//".toList := Option.some.inj hpath
  rw [hchars] at hiff
  refine ⟨t, r, ht, ?_, hr, by rw [hurl]⟩
  refine hiff.2 ⟨by decide, by decide, by decide, ?_⟩
  rw [hchars]
  decide

/-- Behind a fragment there is no path, and the request goes to the control plane's own. -/
theorem request_below_fragment :
    ¬ ∀ (s : Settings) (e : Endpoint), s.problems = [] → e ∈ Endpoint.all →
      ∃ u t, Url.parse s.controlPlane.serviceUrl = .ok u ∧ Url.parse (e.url s.controlPlane.serviceUrl) = .ok t ∧
        Url.IsWeb t.scheme ∧ t.scheme = u.scheme ∧ t.host = u.host ∧ t.port = u.port ∧
        t.path.chars = withoutSlashes u.path.chars ++ (pathPrefix ++ e.path.toList) := by
  intro hall
  obtain ⟨u, t, hu, ht, -, -, -, -, hpath⟩ :=
    hall (settingsAt "http://[::1]/#frag") (.ofKind .apis) (by decide +kernel) (by decide)
  have hupath : (Url.parse "http://[::1]/#frag").toOption.map (·.path.chars) = some "/".toList := by
    decide +kernel
  have htpath : (Url.parse ((Endpoint.ofKind .apis).url "http://[::1]/#frag")).toOption.map (·.path.chars) =
      some "/".toList := by decide +kernel
  have hu' : Url.parse "http://[::1]/#frag" = .ok u := hu
  have ht' : Url.parse ((Endpoint.ofKind .apis).url "http://[::1]/#frag") = .ok t := ht
  rw [hu'] at hupath
  rw [ht'] at htpath
  have huchars : u.path.chars = "/".toList := Option.some.inj hupath
  have htchars : t.path.chars = "/".toList := Option.some.inj htpath
  rw [huchars, htchars] at hpath
  exact absurd hpath (by decide)

end Fetcher

end GatewayFeed
