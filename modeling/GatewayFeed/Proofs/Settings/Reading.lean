import GatewayFeed.Settings.Document

/-! Settings that were read from a file are those of its text, and no rule is broken. -/

namespace GatewayFeed.Settings

variable {text : String} {content : Option (List UInt8)} {password : Option String} {s : Settings}

theorem problems_of_parse (h : parse text password = .ok s) : s.problems = [] := by
  unfold parse at h
  split at h
  · cases h
  split at h
  · cases h
  rename_i t ht
  unfold validated at h
  split at h
  · rename_i hnone
    cases h
    exact List.isEmpty_iff.1 hnone
  · cases h

theorem load_eq_ok_iff : load content password = .ok s ↔
    ∃ bytes text, content = some bytes ∧ Utf8.decode? bytes = some text ∧ parse text password = .ok s := by
  constructor
  · intro h
    unfold load at h
    split at h
    · cases h
    split at h
    · cases h
    rename_i bytes _ text ht
    exact ⟨bytes, text, rfl, ht, h⟩
  · rintro ⟨bytes, text, rfl, ht, h⟩
    simp only [load, ht, h]

theorem problems_of_load (h : load content password = .ok s) : s.problems = [] := by
  obtain ⟨bytes, text, -, -, h⟩ := load_eq_ok_iff.1 h
  exact problems_of_parse h

/-- A file that is gone gives no settings. -/
theorem load_none_ne_ok : load none password ≠ .ok s := nofun

end GatewayFeed.Settings
