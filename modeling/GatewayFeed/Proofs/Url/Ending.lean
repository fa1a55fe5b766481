import GatewayFeed.Proofs.Url.Below

/-! Where the query or the fragment of an address begins: at the first question mark or at the first hash of
its text, whatever its scheme. What is read before that has neither of the two, and neither has the path. -/

namespace GatewayFeed.Url

theorem exists_of_bind_eq_ok {α β : Type} {x : Parse α} {f : α → Parse β} {b : β} (h : x >>= f = .ok b) :
    ∃ a, x = .ok a ∧ f a = .ok b := by
  cases x with
  | error e => cases h
  | ok a => exact ⟨a, rfl, h⟩

theorem ok_of_ite_throw {α β : Type} {p : Prop} [Decidable p] {e : Error} {k : α → Parse β} {x : Parse β} {b : β}
    (h : (if p then throw e >>= k else x) = .ok b) : x = .ok b := by
  split at h
  · cases h
  · exact h

/-- Neither a query nor a fragment begins in it. -/
def Bare (cs : List Char) : Prop := ∀ c ∈ cs, c ≠ '?' ∧ c ≠ '#'

instance (cs : List Char) : Decidable (Bare cs) := List.decidableBAll _ cs

/-- Reading has come from a text to the rest of it, past neither a query nor a fragment. -/
def Leaves (cs rest : List Char) : Prop := ∃ front, cs = front ++ rest ∧ Bare front

variable {s : String} {u : Url} {a : Authority} {c : Char} {cs ds rest scheme : List Char} {special : Bool}

theorem bare_nil : Bare [] := nofun

theorem bare_append (hcs : Bare cs) (hds : Bare ds) : Bare (cs ++ ds) := by
  intro c hc
  rcases List.mem_append.1 hc with hc | hc
  · exact hcs c hc
  · exact hds c hc

theorem bare_cons (hc : c ≠ '?' ∧ c ≠ '#') (hcs : Bare cs) : Bare (c :: cs) :=
  List.forall_mem_cons.2 ⟨hc, hcs⟩

namespace Leaves

theorem refl (cs : List Char) : Leaves cs cs := ⟨[], rfl, bare_nil⟩

theorem trans (h : Leaves cs ds) (h' : Leaves ds rest) : Leaves cs rest := by
  obtain ⟨front, rfl, hfront⟩ := h
  obtain ⟨front', rfl, hfront'⟩ := h'
  exact ⟨front ++ front', (List.append_assoc ..).symm, bare_append hfront hfront'⟩

theorem cons (hc : c ≠ '?' ∧ c ≠ '#') (h : Leaves cs rest) : Leaves (c :: cs) rest := by
  obtain ⟨front, rfl, hfront⟩ := h
  exact ⟨c :: front, rfl, bare_cons hc hfront⟩

theorem dropWhile {p : Char → Bool} (hq : p '?' = false) (hf : p '#' = false) (cs : List Char) :
    Leaves cs (cs.dropWhile p) :=
  ⟨cs.takeWhile p, List.takeWhile_append_dropWhile.symm, fun _ hc => plain_of hq hf (List.mem_takeWhile_imp hc)⟩

theorem bare_iff (h : Leaves cs rest) : Bare cs ↔ Bare rest := by
  obtain ⟨front, rfl, hfront⟩ := h
  constructor
  · intro hall c hc
    exact hall c (List.mem_append_right _ hc)
  · exact bare_append hfront

end Leaves

theorem bare_percentByte (b : UInt8) : Bare (percentByte b) := by
  have hhex : ∀ n < 16, upperHex n ≠ '?' ∧ upperHex n ≠ '#' := by decide
  have hb := b.toNat_lt
  exact bare_cons (by decide) (bare_cons (hhex _ (by omega)) (bare_cons (hhex _ (by omega)) bare_nil))

theorem bare_percentChar (set : EncodeSet) (hc : c ≠ '?' ∧ c ≠ '#') : Bare (percentChar set c) := by
  unfold percentChar
  split
  · intro x hx
    obtain ⟨b, -, hx⟩ := List.mem_flatMap.1 hx
    exact bare_percentByte b x hx
  · exact bare_cons hc bare_nil

theorem bare_percentEncode (set : EncodeSet) (hcs : Bare cs) : Bare (percentEncode set cs) := by
  intro x hx
  obtain ⟨c, hc, hx⟩ := List.mem_flatMap.1 hx
  exact bare_percentChar set (hcs c hc) x hx

theorem plain_of_inside (h : endsAuthority special c = false) : c ≠ '?' ∧ c ≠ '#' :=
  plain_of (p := fun c => !endsAuthority special c) (by simp [endsAuthority]) (by simp [endsAuthority])
    (by rw [h]; rfl)

theorem leaves_userSpan (special : Bool) (cs : List Char) : Leaves cs (userSpan special cs).2 := by
  let span := cs.takeWhile fun c => !endsAuthority special c
  let rest := cs.dropWhile fun c => !endsAuthority special c
  have hspan : Bare span := by
    intro c hc
    have hinside : endsAuthority special c = false := by simpa using List.mem_takeWhile_imp hc
    exact plain_of_inside hinside
  have hsplit : cs = span ++ rest := List.takeWhile_append_dropWhile.symm
  unfold userSpan
  dsimp only
  split
  · -- what stands behind the last `@` is the end of the span
    have hreverse := List.takeWhile_append_dropWhile (p := fun c => decide (c ≠ '@')) (l := span.reverse)
    have hback := congrArg List.reverse hreverse
    rw [List.reverse_append, List.reverse_reverse] at hback
    refine ⟨(span.reverse.dropWhile (· ≠ '@')).reverse, ?_, ?_⟩
    · rw [← List.append_assoc, hback]
      exact hsplit
    · intro c hc
      exact hspan c (hback ▸ List.mem_append_left _ hc)
  · exact Leaves.refl cs

theorem leaves_hostSpan (special bracket : Bool) (cs : List Char) :
    Leaves cs (hostSpan special bracket cs).2 := by
  induction cs generalizing bracket with
  | nil => exact Leaves.refl []
  | cons c cs ih =>
    rw [hostSpan]
    split
    · exact Leaves.refl _
    · rename_i hc
      simp only [Bool.or_eq_true, not_or, Bool.not_eq_true] at hc
      exact (ih _).cons (plain_of_inside hc.2)

theorem leaves_portOf {p : Option Nat} (h : portOf scheme cs = .ok (p, rest)) : Leaves cs rest := by
  unfold portOf at h
  dsimp only at h
  have hdigits : Leaves cs (cs.dropWhile Char.isDigit) := Leaves.dropWhile rfl rfl cs
  split at h
  · cases h
  · split at h
    · split at h
      · cases h
        exact hdigits
      · cases h
    · cases h
      exact hdigits

/-- What follows the host of an authority is a port or nothing. -/
theorem leaves_authorityOf (h : authorityOf scheme cs = .ok (a, rest)) : Leaves cs rest := by
  have huser := leaves_userSpan (isSpecial scheme) cs
  have hhost := leaves_hostSpan (isSpecial scheme) false (userSpan (isSpecial scheme) cs).2
  refine huser.trans (hhost.trans ?_)
  unfold authorityOf at h
  dsimp only at h
  have h := ok_of_ite_throw h
  by_cases hs : isSpecial scheme = true
  all_goals
    first | rw [if_pos hs] at h | rw [if_neg hs] at h
    obtain ⟨host, -, h⟩ := exists_of_bind_eq_ok h
    split at h
    · rename_i afterColon hbehind
      obtain ⟨⟨port, after⟩, hport, h⟩ := exists_of_bind_eq_ok (ok_of_ite_throw h)
      cases h
      rw [hbehind]
      exact (leaves_portOf hport).cons (by decide)
    · have h := ok_of_ite_throw h
      cases h
      exact Leaves.refl _

theorem bare_pushSegment {ss : List (List Char)} (hss : ∀ s ∈ ss, Bare s) (hcs : Bare cs) (last : Bool) :
    ∀ s ∈ pushSegment ss cs last, Bare s := by
  have hempty : ∀ s ∈ (if last then [[]] else [] : List (List Char)), Bare s := by
    cases last
    · nofun
    · exact List.forall_mem_singleton.2 bare_nil
  unfold pushSegment
  intro s hs
  split at hs
  · rcases List.mem_append.1 hs with hs | hs
    · exact hss s ((List.dropLast_sublist ss).subset hs)
    · exact hempty s hs
  · split at hs
    · rcases List.mem_append.1 hs with hs | hs
      · exact hss s hs
      · exact hempty s hs
    · rcases List.mem_append.1 hs with hs | hs
      · exact hss s hs
      · rw [List.mem_singleton.1 hs]
        exact hcs

/-- A path is read up to a query or to a fragment, if there is one. -/
theorem pathOf_ends {ss : List (List Char)} (special : Bool) {current : List Char} (hss : ∀ s ∈ ss, Bare s)
    (hcurrent : Bare current) (cs : List Char) :
    (∀ s ∈ (pathOf special ss current cs).1, Bare s) ∧ Leaves cs (pathOf special ss current cs).2 ∧
      EndsPath (pathOf special ss current cs).2 := by
  induction cs generalizing ss current with
  | nil => exact ⟨bare_pushSegment hss hcurrent true, Leaves.refl [], nofun⟩
  | cons c cs ih =>
    rw [pathOf]
    split
    · rename_i hslash
      obtain ⟨hall, hleaves, hends⟩ := ih (bare_pushSegment hss hcurrent false) bare_nil
      refine ⟨hall, hleaves.cons ?_, hends⟩
      rw [Bool.or_eq_true, Bool.and_eq_true, decide_eq_true_eq, decide_eq_true_eq] at hslash
      rcases hslash with rfl | ⟨-, rfl⟩ <;> decide
    · split
      · rename_i hend
        refine ⟨bare_pushSegment hss hcurrent true, Leaves.refl _, ?_⟩
        intro x hx
        cases hx
        simpa using hend
      · rename_i hplain
        have hc : c ≠ '?' ∧ c ≠ '#' := by simpa using hplain
        obtain ⟨hall, hleaves, hends⟩ := ih hss (bare_append hcurrent (bare_percentChar pathSet hc))
        exact ⟨hall, hleaves.cons hc, hends⟩

theorem pathOf_nil_ends (special : Bool) (cs : List Char) :
    (∀ s ∈ (pathOf special [] [] cs).1, Bare s) ∧ Leaves cs (pathOf special [] [] cs).2 ∧
      EndsPath (pathOf special [] [] cs).2 :=
  pathOf_ends special (List.forall_mem_nil _) bare_nil cs

theorem absolutePath_ends (special : Bool) (cs : List Char) :
    (∀ s ∈ (absolutePath special cs).1, Bare s) ∧ Leaves cs (absolutePath special cs).2 ∧
      EndsPath (absolutePath special cs).2 := by
  unfold absolutePath
  split
  · refine ⟨?_, Leaves.refl [], nofun⟩
    cases special
    · nofun
    · exact List.forall_mem_singleton.2 bare_nil
  · rename_i c rest
    split
    · rename_i hslash
      obtain ⟨hall, hleaves, hends⟩ := pathOf_nil_ends special rest
      refine ⟨hall, hleaves.cons ?_, hends⟩
      rw [Bool.or_eq_true, Bool.and_eq_true, decide_eq_true_eq, decide_eq_true_eq] at hslash
      rcases hslash with rfl | ⟨-, rfl⟩ <;> decide
    · split
      · rename_i hend
        refine ⟨nofun, Leaves.refl _, ?_⟩
        intro x hx
        cases hx
        rw [Bool.and_eq_true, Bool.or_eq_true, decide_eq_true_eq, decide_eq_true_eq] at hend
        exact hend.2
      · exact pathOf_nil_ends special (c :: rest)

theorem bare_segments {ss : List (List Char)} (h : ∀ s ∈ ss, Bare s) : Bare (Path.segments ss).chars := by
  intro c hc
  obtain ⟨s, hs, hc⟩ := List.mem_flatMap.1 hc
  exact bare_cons (by decide) (h s hs) c hc

/-- What has become of a text: a path, and the query and the fragment that its rest begins with. -/
structure Reads (cs : List Char) (u : Url) : Prop where
  path : Bare u.path.chars
  ending : u.query = none ∧ u.fragment = none ↔ Bare cs

theorem withEnd_ends (hquery : u.query = none) (hfragment : u.fragment = none) (hends : EndsPath rest) :
    (withEnd u rest).query = none ∧ (withEnd u rest).fragment = none ↔ Bare rest := by
  cases rest with
  | nil =>
    have hsame : withEnd u [] = u := rfl
    rw [hsame]
    exact ⟨fun _ => bare_nil, fun _ => ⟨hquery, hfragment⟩⟩
  | cons c rest =>
    have hnot : ¬ Bare (c :: rest) := by
      intro hbare
      obtain ⟨hq, hf⟩ := hbare c List.mem_cons_self
      rcases hends c rfl with hc | hc
      · exact hq hc
      · exact hf hc
    refine iff_of_false ?_ hnot
    rintro ⟨hq, hf⟩
    rcases hends c rfl with rfl | rfl
    · have hsome : ∃ q, (withEnd u ('?' :: rest)).query = some q := by
        rw [withEnd]
        split
        · exact ⟨_, rfl⟩
        · exact ⟨_, rfl⟩
      obtain ⟨q, hsome⟩ := hsome
      rw [hsome] at hq
      cases hq
    · cases hf

theorem reads_withEnd (hpath : Bare u.path.chars) (hquery : u.query = none) (hfragment : u.fragment = none)
    (hleaves : Leaves cs rest) (hends : EndsPath rest) : Reads cs (withEnd u rest) := by
  refine ⟨?_, ?_⟩
  · obtain ⟨q, f, h⟩ := withEnd_eq u rest
    rw [h]
    exact hpath
  · rw [hleaves.bare_iff]
    exact withEnd_ends hquery hfragment hends

theorem Reads.of_leaves (h : Reads ds u) (hleaves : Leaves cs ds) : Reads cs u :=
  ⟨h.path, h.ending.trans hleaves.bare_iff.symm⟩

theorem reads_afterSlashes (h : afterSlashes scheme cs = .ok u) : Reads cs u := by
  unfold afterSlashes at h
  obtain ⟨⟨a, text⟩, ha, h⟩ := exists_of_bind_eq_ok h
  cases h
  obtain ⟨hall, hleaves, hends⟩ := absolutePath_ends (isSpecial scheme) text
  exact reads_withEnd (bare_segments hall) rfl rfl ((leaves_authorityOf ha).trans hleaves) hends

theorem reads_filePath (host : Option Host) (cs : List Char) : Reads cs (filePath host cs) := by
  obtain ⟨hall, hleaves, hends⟩ := absolutePath_ends true cs
  exact reads_withEnd (bare_segments hall) rfl rfl hleaves hends

theorem plain_of_isSlash (h : isSlash c = true) : c ≠ '?' ∧ c ≠ '#' := plain_of (p := isSlash) rfl rfl h

theorem reads_fileOf (h : fileOf cs = .ok u) : Reads cs u := by
  unfold fileOf at h
  split at h
  · rename_i x y rest
    split at h
    · rename_i hslashes
      rw [Bool.and_eq_true] at hslashes
      have hrest : Leaves (x :: y :: rest) rest :=
        ((Leaves.refl rest).cons (plain_of_isSlash hslashes.2)).cons (plain_of_isSlash hslashes.1)
      have hbehind : Leaves rest (rest.dropWhile fun c => !endsAuthority true c) := Leaves.dropWhile rfl rfl rest
      dsimp only at h
      split at h
      · cases h
        exact (reads_filePath none rest).of_leaves hrest
      · split at h
        all_goals
          obtain ⟨host, -, h⟩ := exists_of_bind_eq_ok h
          cases h
          exact (reads_filePath _ _).of_leaves (hrest.trans hbehind)
    · cases h
      exact reads_filePath none _
  · cases h
    exact reads_filePath none _

theorem reads_generalOf (h : generalOf scheme cs = .ok u) : Reads cs u := by
  unfold generalOf at h
  split at h
  · exact (reads_afterSlashes h).of_leaves (((Leaves.refl _).cons (by decide)).cons (by decide))
  · rename_i rest _
    cases h
    obtain ⟨hall, hleaves, hends⟩ := pathOf_nil_ends false rest
    exact reads_withEnd (bare_segments hall) rfl rfl (hleaves.cons (by decide)) hends
  · cases h
    refine reads_withEnd (bare_percentEncode [] ?_) rfl rfl (Leaves.dropWhile rfl rfl cs) ?_
    · intro c hc
      simpa using List.mem_takeWhile_imp hc
    · intro c hc
      have hnot := List.head?_dropWhile_not (fun c => c ≠ '?' && c ≠ '#') cs
      rw [Option.mem_def.1 hc] at hnot
      by_contra hne
      simp [not_or.1 hne] at hnot

theorem bare_cleaned : Bare (cleaned s) ↔ Bare s.toList := by
  have hall : ∀ cs, Bare cs ↔ '?' ∉ cs ∧ '#' ∉ cs := by
    intro cs
    constructor
    · intro h
      exact ⟨fun hq => (h _ hq).1 rfl, fun hf => (h _ hf).2 rfl⟩
    · rintro ⟨hq, hf⟩ c hc
      exact ⟨fun he => hq (he ▸ hc), fun he => hf (he ▸ hc)⟩
  rw [hall, hall, mem_cleaned rfl, mem_cleaned rfl]

/-- An address has neither a query nor a fragment if its text has neither a question mark nor a hash, and only
then. Its path has neither of them in any case. -/
theorem reads_parse (h : parse s = .ok u) : Reads s.toList u := by
  unfold parse parseWith at h
  dsimp only at h
  cases hscheme : scheme? (cleaned s) with
  | none =>
    rw [hscheme] at h
    cases h
  | some sr =>
    obtain ⟨scheme, rest⟩ := sr
    rw [hscheme] at h
    dsimp only at h
    obtain ⟨name, hcleaned, hname, -⟩ := scheme?_eq_some hscheme
    have hrest : Leaves (cleaned s) rest := by
      refine ⟨name ++ [':'], ?_, bare_append ?_ (bare_cons (by decide) bare_nil)⟩
      · rw [hcleaned, List.append_assoc]
        rfl
      · intro c hc
        exact plain_of rfl rfl (hname c hc)
    have hreads : Reads rest u := by
      split at h
      · exact reads_fileOf h
      · split at h
        · exact (reads_afterSlashes h).of_leaves (Leaves.dropWhile rfl rfl rest)
        · exact reads_generalOf h
    have htext := hreads.of_leaves hrest
    exact ⟨htext.path, htext.ending.trans bare_cleaned⟩

end GatewayFeed.Url
