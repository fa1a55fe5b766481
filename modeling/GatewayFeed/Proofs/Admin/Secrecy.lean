import GatewayFeed.Admin.Answer

/-! What the admin pages tell without the key. An answer depends on the store only through which kinds
have been loaded, which the readiness page tells everyone; and the pages that show what was loaded are
refused, whether or not there is something to show. -/

namespace GatewayFeed.Admin

variable {key : String} {r : Request} {a b s : Snapshot} {route : Route}

/-- Only the first value counts, byte for byte. -/
theorem Request.authorized_iff : r.authorized key = true ↔
    r.header? "authorization" = some (bearer key) ∧ (bearer key).all isVisible = true := by
  unfold authorized
  cases r.header? "authorization" with
  | none => simp
  | some value =>
    simp only [Bool.and_eq_true, decide_eq_true_iff, Option.some.injEq]
    constructor
    · rintro ⟨hv, rfl⟩
      exact ⟨rfl, hv⟩
    · rintro ⟨rfl, hv⟩
      exact ⟨hv, rfl⟩

theorem Request.not_authorized (h : r.header? "authorization" ≠ some (bearer key)) :
    r.authorized key = false := by
  rw [← Bool.not_eq_true, authorized_iff]
  rintro ⟨ha, -⟩
  exact h ha

namespace Route

theorem ofPath?_snapshot : ofPath? "/admin/snapshot".toList = some snapshot := by decide

/-- Every single part of a path below the collections has their page, whatever it says. -/
theorem ofPath?_collection {segment : List Char} (hs : segment ≠ []) (hn : '/' ∉ segment) :
    ofPath? (collectionsPath ++ segment) = some (collection segment) := by
  have hstarts : collectionsPath.isPrefixOf (collectionsPath ++ segment) = true :=
    List.isPrefixOf_iff_prefix.2 (List.prefix_append _ _)
  have hother : ∀ path, collectionsPath.isPrefixOf path = false → collectionsPath ++ segment ≠ path := by
    rintro path hp rfl
    rw [hstarts] at hp
    cases hp
  have hsegment : (segment.isEmpty || segment.contains '/') = false := by
    simp [hs, hn]
  rw [ofPath?, if_neg (hother _ (by decide)), if_neg (hother _ (by decide)), if_neg (hother _ (by decide)),
    if_pos hstarts, List.drop_left, if_neg (by rw [hsegment]; exact Bool.false_ne_true)]

end Route

theorem Readiness.ofSnapshot_congr (h : ∀ k, a.isPopulated k = b.isPopulated k) :
    ofSnapshot a = ofSnapshot b := by
  have hsame : a.isPopulated = b.isPopulated := funext h
  rw [ofSnapshot, ofSnapshot, Snapshot.missing, Snapshot.missing, Snapshot.populated, Snapshot.populated,
    hsame]

/-- An open page shows which kinds have been loaded, and nothing else of the store. -/
theorem page_congr (ho : route.isOpen = true) (h : ∀ k, a.isPopulated k = b.isPopulated k) :
    page a route = page b route := by
  cases route with
  | live => rfl
  | ready => rw [page, page, Readiness.ofSnapshot_congr h]
  | snapshot => cases ho
  | collection segment => cases ho

theorem atRoute_congr (method : String) (ho : route.isOpen = true)
    (h : ∀ k, a.isPopulated k = b.isPopulated k) : atRoute a method route = atRoute b method route := by
  rw [atRoute, atRoute, page_congr ho h]

/-- Where the page of a route is not open, the request is refused. -/
theorem respond_protected (hr : r.authorized key = false) (hroute : Route.ofPath? r.path = some route)
    (ho : route.isOpen = false) : respond key s r = allowing r.method .unauthorized := by
  simp [respond, hroute, ho, hr]

theorem respond_congr (hr : r.authorized key = false) (h : ∀ k, a.isPopulated k = b.isPopulated k) :
    respond key a r = respond key b r := by
  cases hroute : Route.ofPath? r.path with
  | none => simp [respond, hroute]
  | some route =>
    cases ho : route.isOpen with
    | false => rw [respond_protected hr hroute ho, respond_protected hr hroute ho]
    | true => simp [respond, hroute, ho, atRoute_congr r.method ho h]

/-- A refusal shows nothing, whatever was asked for. -/
theorem allowing_unauthorized (method : String) :
    (allowing method .unauthorized).status = 401 ∧ (allowing method .unauthorized).body = "" := by
  unfold allowing
  split <;> exact ⟨rfl, rfl⟩

/-- Whoever does not bring the key, exactly and in the first header of its name, gets the same answer from
any two stores in which the same kinds have been loaded, whatever the method and the path; and the pages
that show what was loaded refuse the request, whatever the store holds and whether or not there is such a
kind. -/
theorem respond_without_key (hr : r.header? "authorization" ≠ some (bearer key)) :
    (∀ a b : Store, (∀ k, a.snapshot.isPopulated k = b.snapshot.isPopulated k) →
      respond key a.snapshot r = respond key b.snapshot r) ∧
    ((r.path = "/admin/snapshot".toList ∨ ∃ segment, segment ≠ [] ∧ '/' ∉ segment ∧
        r.path = "/admin/collections/".toList ++ segment) →
      ∀ s : Store, (respond key s.snapshot r).status = 401 ∧ (respond key s.snapshot r).body = "") := by
  have hauthorized := Request.not_authorized hr
  refine ⟨fun a b h => respond_congr hauthorized h, ?_⟩
  intro hpath s
  obtain ⟨route, hroute, ho⟩ : ∃ route, Route.ofPath? r.path = some route ∧ route.isOpen = false := by
    rcases hpath with hpath | ⟨segment, hs, hn, hpath⟩
    · exact ⟨.snapshot, by rw [hpath, Route.ofPath?_snapshot], rfl⟩
    · exact ⟨.collection segment, by rw [hpath]; exact Route.ofPath?_collection hs hn, rfl⟩
  rw [respond_protected hauthorized hroute ho]
  exact allowing_unauthorized r.method

/-- The wrong case of the scheme comes first, the right value after it. -/
def lateKey : Request where
  method := "PUT"
  path := "/admin/collections/application-policies".toList
  headers := [("AUTHORIZATION", Utf8.encode "bearer k"), ("Authorization", Utf8.encode "Bearer k")]

theorem refused_late_key :
    lateKey.header? "authorization" ≠ some (bearer "k") ∧
    respond "k" (Store.empty.publish [⟨.applicationPolicies, []⟩]).snapshot lateKey =
      respond "k" (Store.empty.publish [⟨.applicationPolicies, [⟨1, -1234, "Gold", "", none⟩]⟩]).snapshot lateKey ∧
    (respond "k" Store.empty.snapshot lateKey).status = 401 := by
  have hr : lateKey.header? "authorization" ≠ some (bearer "k") := by decide +kernel
  obtain ⟨hsame, hrefused⟩ := respond_without_key hr
  refine ⟨hr, hsame _ _ fun k => ?_, (hrefused (.inr ?_) _).1⟩
  · cases k <;> rfl
  · exact ⟨"application-policies".toList, by decide, by decide, by decide⟩

end GatewayFeed.Admin
