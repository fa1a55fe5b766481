import GatewayFeed.Fetch.Fetcher
import GatewayFeed.Proofs.Url.Front
import GatewayFeed.Proofs.Url.Slashes
import GatewayFeed.Settings.Validation

/-! Where the addresses of the datasets lead. They are made from the text of the control plane's address,
while its address is accepted as a URL, so what is accepted is more than what can be made longer: a query,
a fragment, a backslash at the end or dots behind an empty segment keep the datasets from being below it. -/

namespace GatewayFeed

namespace Url

variable {s : String} {cs rest : List Char} {c : Char}

/-- Characters that count wherever they stand. -/
def counts (c : Char) : Bool := c ≠ '\t' && c ≠ '\n' && c ≠ '\r'

/-- What is left of a text that something follows. -/
def kept (cs : List Char) : List Char := (cs.dropWhile isBlankOrControl).filter counts

theorem counts_of_not_blank (hc : isBlankOrControl c = false) : counts c = true := by
  unfold counts
  by_contra h
  have hblank : c = '\t' ∨ c = '\n' ∨ c = '\r' := by
    by_contra hne
    simp only [not_or] at hne
    simp [hne] at h
  rcases hblank with rfl | rfl | rfl <;> cases hc

theorem mem_kept (hc : isBlankOrControl c = false) : c ∈ kept cs ↔ c ∈ cs := by
  rw [kept, List.mem_filter, mem_dropWhile_iff hc]
  exact and_iff_left (counts_of_not_blank hc)

theorem mem_cleaned (hc : isBlankOrControl c = false) : c ∈ cleaned s ↔ c ∈ s.toList := by
  have hcounts : (c ≠ '\t' && c ≠ '\n' && c ≠ '\r') = true := counts_of_not_blank hc
  unfold cleaned
  dsimp only
  rw [List.mem_filter, List.mem_reverse, mem_dropWhile_iff hc, List.mem_reverse, mem_dropWhile_iff hc]
  exact and_iff_left hcounts

theorem dropWhile_concat (cs : List Char) (hc : isBlankOrControl c = false) :
    ∃ init, (cs ++ [c]).dropWhile isBlankOrControl = init ++ [c] := by
  rw [List.dropWhile_append]
  split
  · exact ⟨[], List.dropWhile_cons_of_neg (by simp [hc])⟩
  · exact ⟨_, rfl⟩

theorem getLast?_kept (h : cs.getLast? = some c) (hc : isBlankOrControl c = false) :
    (kept cs).getLast? = some c := by
  obtain ⟨init, rfl⟩ := List.getLast?_eq_some_iff.1 h
  obtain ⟨init', hdrop⟩ := dropWhile_concat init hc
  have hlast : [c].filter counts = [c] := by simp [counts_of_not_blank hc]
  rw [kept, hdrop, List.filter_append, hlast, List.getLast?_concat]

/-- A text that begins with more than blanks and does not end in one. -/
theorem cleaned_append {b : Char} (hs : s.toList = cs ++ rest) (hb : b ∈ cs) (hblank : isBlankOrControl b = false)
    (hlast : s.toList.getLast? = some c) (hc : isBlankOrControl c = false) (hrest : ∀ c ∈ rest, counts c = true) :
    cleaned s = kept cs ++ rest := by
  have hstart : (cs.dropWhile isBlankOrControl).isEmpty = false := by
    rw [List.isEmpty_eq_false_iff]
    intro hnil
    have hall := List.dropWhile_eq_nil_iff.1 hnil b hb
    rw [hblank] at hall
    cases hall
  have hdrop : s.toList.dropWhile isBlankOrControl = cs.dropWhile isBlankOrControl ++ rest := by
    rw [hs, List.dropWhile_append, hstart]
    rfl
  have hend : (s.toList.dropWhile isBlankOrControl).reverse.dropWhile isBlankOrControl =
      (s.toList.dropWhile isBlankOrControl).reverse := by
    obtain ⟨init, hinit⟩ := List.getLast?_eq_some_iff.1 hlast
    obtain ⟨init', hconcat⟩ := dropWhile_concat init hc
    rw [hinit, hconcat, List.reverse_append]
    exact List.dropWhile_cons_of_neg (by simp [hc])
  have hfilter : rest.filter counts = rest := List.filter_eq_self.2 hrest
  unfold cleaned
  dsimp only
  rw [hend, List.reverse_reverse, hdrop]
  exact (List.filter_append _ _).trans (congrArg (kept cs ++ ·) hfilter)

theorem finish_below {name : List Char} (hname : Walk.Plain name) (cs : List Char) :
    (walkPath (cs ++ (Endpoint.pathPrefix ++ name))).finish =
      above cs ++ ["internal".toList, "data".toList, "v1".toList, name] := by
  have htext : Endpoint.pathPrefix ++ name =
      '/' :: ("internal".toList ++ '/' :: ("data".toList ++ '/' :: ("v1".toList ++ '/' :: name))) := rfl
  rw [htext, walkPath_append_slash, Walk.walk_plain_slash (by decide), Walk.walk_plain_slash (by decide),
    Walk.walk_plain_slash (by decide), Walk.walk_plain hname.1, Walk.finish, List.nil_append,
    Walk.pushSegment_plain hname]
  simp

theorem chars_below (ss : List (List Char)) (name : List Char) :
    (Path.segments (ss ++ ["internal".toList, "data".toList, "v1".toList, name])).chars =
      (Path.segments ss).chars ++ Endpoint.pathPrefix ++ name := by
  rw [chars_append, List.append_assoc]
  congr 1
  exact congrArg (Endpoint.pathPrefix ++ ·) (List.append_nil name)

theorem ne_withoutSlashes_append (cs name : List Char) :
    cs ≠ Endpoint.withoutSlashes cs ++ (Endpoint.pathPrefix ++ name) := by
  intro h
  have hslashes := (withoutSlashes_append_trailing cs).trans h
  have hall := List.append_cancel_left hslashes
  have hmem : 'i' ∈ List.replicate (trailingSlashes cs) '/' := by
    rw [hall]
    exact List.mem_append_left _ (by decide)
  have hi := List.eq_of_mem_replicate hmem
  cases hi

theorem isSlash_of_ends (h : endsAuthority true c = true) (hp : c ≠ '?' ∧ c ≠ '#') : isSlash c = true := by
  unfold endsAuthority at h
  unfold isSlash
  simpa [hp.1, hp.2] using h

theorem startsPath_of_ends (hstart : EndsAuthority cs) (hplain : ∀ c ∈ cs, c ≠ '?' ∧ c ≠ '#') :
    StartsPath cs := by
  intro c hc
  exact isSlash_of_ends (hstart c hc) (hplain c (List.mem_of_mem_head? hc))

theorem StartsPath.append (h : StartsPath cs) (hr : StartsPath rest) : StartsPath (cs ++ rest) := by
  intro c hc
  cases cs with
  | nil => exact hr c hc
  | cons d cs => exact h c hc

theorem absolutePath_plain (hstart : StartsPath cs) (hplain : ∀ c ∈ cs, c ≠ '?' ∧ c ≠ '#') :
    (absolutePath true cs).1 = (walkPath cs).finish := by
  have hall : absolutePath true (cs ++ []) = ((walkPath cs).finish, []) := absolutePath_append hstart hplain nofun
  rw [List.append_nil] at hall
  rw [hall]

/-- A path stops at a query or at a fragment, whatever stands behind that. -/
theorem absolutePath_stops (hstart : EndsAuthority cs) (h : ¬ ∀ c ∈ cs, c ≠ '?' ∧ c ≠ '#')
    (rest rest' : List Char) :
    (absolutePath true (cs ++ rest)).1 = (absolutePath true (cs ++ rest')).1 := by
  let path := cs.takeWhile fun c => c ≠ '?' && c ≠ '#'
  have hplain : ∀ c ∈ path, c ≠ '?' ∧ c ≠ '#' := by
    intro c hc
    simpa using List.mem_takeWhile_imp hc
  have hsplit := List.takeWhile_append_dropWhile (p := fun c => c ≠ '?' && c ≠ '#') (l := cs)
  have hends := List.head?_dropWhile_not (fun c => c ≠ '?' && c ≠ '#') cs
  cases hdrop : cs.dropWhile fun c => c ≠ '?' && c ≠ '#' with
  | nil =>
    refine absurd ?_ h
    intro c hc
    simpa using List.dropWhile_eq_nil_iff.1 hdrop c hc
  | cons q tail =>
    rw [hdrop] at hsplit hends
    have hq : q = '?' ∨ q = '#' := by
      by_contra hne
      simp [not_or.1 hne] at hends
    have hpath : StartsPath path := by
      apply startsPath_of_ends _ hplain
      intro c hc
      apply hstart c
      rw [← hsplit, List.head?_append, Option.mem_def.1 hc]
      rfl
    have hall : ∀ rest, (absolutePath true (cs ++ rest)).1 = (walkPath path).finish := by
      intro rest
      have hrest : EndsPath (q :: tail ++ rest) := by
        intro c hc
        cases hc
        exact hq
      rw [← hsplit, List.append_assoc, absolutePath_append hpath hplain hrest]
    rw [hall, hall]

/-- Where the text of a path goes on to the path of a dataset, and the path itself does as well. -/
theorem path_below_iff {n : Nat} {name : List Char} (hname : Walk.Plain name) (hstart : EndsAuthority cs)
    (hn : n = 0 → cs.getLast? ≠ some '/') :
    (Path.segments (absolutePath true (cs ++ (Endpoint.pathPrefix ++ name))).1).chars =
        Endpoint.withoutSlashes (Path.segments (absolutePath true (cs ++ List.replicate n '/')).1).chars ++
          (Endpoint.pathPrefix ++ name) ↔
      (∀ c ∈ cs, c ≠ '?' ∧ c ≠ '#') ∧ (n = 0 → cs.getLast? ≠ some '\\') ∧
        trailingSlashes (Path.segments (absolutePath true (cs ++ List.replicate n '/')).1).chars ≤ max 1 n := by
  by_cases hplain : ∀ c ∈ cs, c ≠ '?' ∧ c ≠ '#'
  · have hpath := startsPath_of_ends hstart hplain
    have hprefix : (Endpoint.pathPrefix.all fun c => c ≠ '?' ∧ c ≠ '#') = true := by decide
    have hslashes : ∀ c ∈ List.replicate n '/', c = '/' := fun c hc => List.eq_of_mem_replicate hc
    have hbase : (absolutePath true (cs ++ List.replicate n '/')).1 =
        (walkPath (cs ++ List.replicate n '/')).finish := by
      apply absolutePath_plain
      · apply hpath.append
        intro c hc
        rw [hslashes c (List.mem_of_mem_head? hc)]
        rfl
      · intro c hc
        rcases List.mem_append.1 hc with hc | hc
        · exact hplain c hc
        · rw [hslashes c hc]
          exact ⟨by decide, by decide⟩
    have hbelow : (absolutePath true (cs ++ (Endpoint.pathPrefix ++ name))).1 =
        (walkPath (cs ++ (Endpoint.pathPrefix ++ name))).finish := by
      apply absolutePath_plain
      · apply hpath.append
        intro c hc
        cases hc
        rfl
      · intro c hc
        rcases List.mem_append.1 hc with hc | hc
        · exact hplain c hc
        · rcases List.mem_append.1 hc with hc | hc
          · exact of_decide_eq_true (List.all_eq_true.1 hprefix c hc)
          · have hwritten := (hname.1 c hc).2
            constructor
            · rintro rfl
              exact absurd hwritten (by decide)
            · rintro rfl
              exact absurd hwritten (by decide)
    obtain ⟨k, hk⟩ := exists_finish_eq cs n
    have hiff := above_closed_iff hpath hn
    rw [hbase, hbelow, finish_below hname, chars_below, List.append_assoc, List.append_cancel_right_eq]
    rw [← hiff, hk, withoutSlashes_append_empty, ← withoutSlashes_eq_iff]
    constructor
    · intro h
      exact ⟨hplain, h.symm⟩
    · intro h
      exact h.2.symm
  · rw [absolutePath_stops hstart hplain (Endpoint.pathPrefix ++ name) (List.replicate n '/')]
    constructor
    · intro h
      exact absurd h (ne_withoutSlashes_append _ name)
    · intro h
      exact absurd h.1 hplain

end Url

end GatewayFeed
