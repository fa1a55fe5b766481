import GatewayFeed.Inspect.Command
import GatewayFeed.Proofs.Admin.Secrecy
import GatewayFeed.Proofs.Text.Utf8

/-! Who gets in with the key. A key of which every character is one of ASCII opens the protected pages.
Of any other key the value that brings it, and that may stand in a header, cannot be read as visible text,
so nobody gets in with it. -/

namespace GatewayFeed.Admin

variable {key : String} {r : Request} {s : Snapshot}

/-- A byte that may stand in the value of a header. -/
def isHeaderByte (b : UInt8) : Bool := b = 0x09 || (0x20 ≤ b && b ≠ 0x7F)

theorem isVisible_iff (b : UInt8) : isVisible b = true ↔ isHeaderByte b = true ∧ b.toNat < 0x80 := by
  simp only [isVisible, isHeaderByte, Bool.or_eq_true, Bool.and_eq_true, decide_eq_true_iff,
    UInt8.le_iff_toNat_le, UInt8.lt_iff_toNat_lt, ne_eq, ← UInt8.toNat_inj, UInt8.reduceToNat]
  omega

theorem bearer_eq (key : String) : bearer key = Utf8.encode "Bearer " ++ Utf8.encode key := by
  rw [bearer, Utf8.encode, String.toList_append, Utf8.encodeChars_append]
  rfl

/-- Among the keys that can be sent, those of ASCII alone can be read. -/
theorem all_isVisible_bearer_iff (hl : (bearer key).all isHeaderByte = true) :
    (bearer key).all isVisible = true ↔ ∀ c ∈ key.toList, c.toNat < 0x80 := by
  have hscheme : ∀ b ∈ Utf8.encode "Bearer ", b.toNat < 0x80 := by decide +kernel
  rw [List.all_eq_true] at hl ⊢
  rw [← Utf8.forall_encodeChars_lt_iff]
  constructor
  · intro h b hb
    refine ((isVisible_iff b).1 (h b ?_)).2
    rw [bearer_eq]
    exact List.mem_append_right _ hb
  · intro h b hb
    refine (isVisible_iff b).2 ⟨hl b hb, ?_⟩
    rw [bearer_eq] at hb
    rcases List.mem_append.1 hb with hb | hb
    · exact hscheme b hb
    · exact h b hb

/-- No page refuses a request. -/
theorem status_atRoute (s : Snapshot) (method : String) (route : Route) :
    (atRoute s method route).status ≠ 401 := by
  have hpage : (page s route).status ≠ 401 := by
    cases route with
    | live =>
      change 200 ≠ 401
      decide
    | snapshot =>
      change 200 ≠ 401
      decide
    | ready =>
      change Readiness.status _ ≠ 401
      unfold Readiness.status
      split <;> decide
    | collection segment =>
      change (collectionAnswer s segment).status ≠ 401
      unfold collectionAnswer
      split
      · decide
      · split
        · change 200 ≠ 401
          decide
        · decide
  unfold atRoute
  split
  · exact hpage
  · split
    · exact hpage
    · decide

@[simp] theorem status_allowing (method : String) (a : Answer) : (allowing method a).status = a.status := by
  unfold allowing
  split <;> rfl

/-- Whether or not there is a page, what is not open is refused exactly without the key. -/
theorem status_respond_iff (ho : ∀ route, Route.ofPath? r.path = some route → route.isOpen = false) :
    (respond key s r).status = 401 ↔ r.authorized key = false := by
  unfold respond
  split
  · rename_i route hroute
    cases ha : r.authorized key with
    | false => simp [ho route hroute, Answer.unauthorized]
    | true => simp [status_atRoute]
  · cases r.authorized key with
    | false => simp [Answer.unauthorized]
    | true => simp [Answer.notFound]

/-- For every key that can be sent in a header: the value that brings it, which is the one that the command
line sends, is let in exactly if all characters of the key are of ASCII, whatever the method and the path,
as long as the path is not one of the open pages. Where there is a page, it is the answer then. -/
theorem key_opens_iff (hl : (Utf8.encode "Bearer " ++ Utf8.encode key).all isHeaderByte = true)
    (hr : r.header? "authorization" = some (Utf8.encode "Bearer " ++ Utf8.encode key))
    (ho : ∀ route, Route.ofPath? r.path = some route → route.isOpen = false) (store : Store) :
    ((respond key store.snapshot r).status ≠ 401 ↔ ∀ c ∈ key.toList, c.toNat < 0x80) ∧
    ((∀ c ∈ key.toList, c.toNat < 0x80) → ∀ route, Route.ofPath? r.path = some route →
      respond key store.snapshot r = allowing r.method (atRoute store.snapshot r.method route)) ∧
    ∀ q : Inspect.Query, q.key = key →
      Utf8.encode q.authorization = Utf8.encode "Bearer " ++ Utf8.encode key := by
  rw [← bearer_eq] at hl hr ⊢
  have hauthorized : r.authorized key = true ↔ ∀ c ∈ key.toList, c.toNat < 0x80 := by
    rw [Request.authorized_iff, ← all_isVisible_bearer_iff hl]
    exact and_iff_right hr
  refine ⟨?_, ?_, ?_⟩
  · rw [ne_eq, status_respond_iff ho, Bool.not_eq_false]
    exact hauthorized
  · intro hkey route hroute
    simp [respond, hroute, hauthorized.2 hkey]
  · rintro q rfl
    rfl

def asking (path : String) (key : String) : Request where
  path := path.toList
  headers := [("Authorization", Utf8.encode "Bearer " ++ Utf8.encode key)]

theorem key_opens_tab_not_accent :
    (respond "a\t~" Store.empty.snapshot (asking "/admin/snapshot" "a\t~")).status ≠ 401 ∧
    (respond "é" Store.empty.snapshot (asking "/admin/snapshot" "é")).status = 401 := by
  have ho : ∀ key route, Route.ofPath? (asking "/admin/snapshot" key).path = some route →
      route.isOpen = false := by
    intro key route hroute
    have hsnapshot : Route.ofPath? "/admin/snapshot".toList = some route := hroute
    rw [Route.ofPath?_snapshot] at hsnapshot
    cases hsnapshot
    rfl
  have htab : (Utf8.encode "Bearer " ++ Utf8.encode "a\t~").all isHeaderByte = true := by decide +kernel
  have haccent : (Utf8.encode "Bearer " ++ Utf8.encode "é").all isHeaderByte = true := by decide +kernel
  have hopens :=
    (key_opens_iff htab (r := asking "/admin/snapshot" "a\t~") (by decide +kernel) (ho _) .empty).1
  have hrefused :=
    (key_opens_iff haccent (r := asking "/admin/snapshot" "é") (by decide +kernel) (ho _) .empty).1
  refine ⟨hopens.2 (by simp), Decidable.not_not.1 fun h => ?_⟩
  exact absurd (hrefused.1 h) (by simp)

/-- A key that can be sent and that nobody gets in with. -/
theorem key_refused_cyrillic :
    ¬ ∀ (key : String) (store : Store) (r : Request) (route : Route),
      (Utf8.encode "Bearer " ++ Utf8.encode key).all isHeaderByte = true →
      r.header? "authorization" = some (Utf8.encode "Bearer " ++ Utf8.encode key) →
      Route.ofPath? r.path = some route → route.isOpen = false →
      (respond key store.snapshot r).status ≠ 401 := by
  intro h
  exact h "ключ" .empty (asking "/admin/snapshot" "ключ") .snapshot (by decide +kernel) (by decide +kernel)
    (by decide) rfl (by decide +kernel)

end GatewayFeed.Admin
