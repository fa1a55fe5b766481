import Mathlib.Data.List.Forall2
import Mathlib.Data.List.Induction
import GatewayFeed.Proofs.Settings.Reading
import GatewayFeed.Watcher

/-! What a watcher sends. A change waits in the queue while the file goes on changing, so the watcher may
read a later version than the one that a change was about, the same version again, or none at all. Still it
never goes back to an earlier version, and with nothing left in the queue it has caught up. -/

namespace GatewayFeed.Watcher

/-- The queue holds the changes that the watcher has not come to yet. -/
def enqueue (queue : List Change) : Step → List Change
  | .change c => queue ++ [c]
  | .handle => queue.tail

def queued (steps : List Step) : List Change := steps.foldl enqueue []

/-- What the file holds from now on, if the step changes that. -/
def newVersion? : Step → Option (Option (List UInt8))
  | .change (.replaced name new) => if name = fileName then some (some new) else none
  | .change .removed => some none
  | .handle => none

/-- What the file has held, from the beginning on. -/
def versions (file : Option (List UInt8)) (steps : List Step) : List (Option (List UInt8)) :=
  file :: steps.filterMap newVersion?

/-- Number of the version that the file holds after the steps. -/
def version (steps : List Step) : Nat := (steps.filterMap newVersion?).length

/-- Step number `t` sends the settings `s`: it handles a replacement of the file, and `s` is what the
file's text at that moment gives. -/
structure Sends (password : Option String) (file : Option (List UInt8)) (steps : List Step) (t : Nat)
    (s : Settings) : Prop where
  handles : steps[t]? = some .handle
  replaced : ∃ new, (queued (steps.take t)).head? = some (.replaced fileName new)
  reads : ∃ bytes text, (versions file steps)[version (steps.take t)]? = some (some bytes) ∧
    Utf8.decode? bytes = some text ∧ Settings.parse text password = .ok s
  valid : s.problems = []

variable {password : Option String} {file : Option (List UInt8)} {steps : List Step} {w : Watcher}
  {a : Step} {c : Change} {s : Settings} {t : Nat}

/-- What handling the next change can do. -/
theorem handle_cases (password : Option String) (w : Watcher) :
    (w.pending = [] ∧ w.step password .handle = w) ∨
    (∃ rest, w.pending = true :: rest ∧ w.step password .handle =
      { w with pending := rest, sent := w.sent ++ reading password w.file }) ∨
    ∃ rest, w.pending = false :: rest ∧ w.step password .handle = { w with pending := rest } := by
  cases hp : w.pending with
  | nil => exact .inl ⟨rfl, by simp only [step, hp]⟩
  | cons due rest =>
    cases due with
    | true => exact .inr (.inl ⟨rest, rfl, by simp only [step, hp]⟩)
    | false => exact .inr (.inr ⟨rest, rfl, by simp only [step, hp]⟩)

theorem concerns_iff : concerns c = true ↔ ∃ new, c = .replaced fileName new := by
  cases c with
  | replaced name new => simp [concerns]
  | removed => simp [concerns]

theorem reading_of_ok (h : Settings.load file password = .ok s) : reading password file = [s] := by
  rw [reading, h]

theorem reading_of_error {e : Settings.Refusal} (h : Settings.load file password = .error e) :
    reading password file = [] := by
  rw [reading, h]

theorem reading_of_not_ok (h : ∀ s, Settings.load file password ≠ .ok s) : reading password file = [] := by
  unfold reading
  split
  · rename_i s hs
    exact absurd hs (h s)
  · rfl

theorem run_concat (w : Watcher) (steps : List Step) (a : Step) :
    w.run password (steps ++ [a]) = (w.run password steps).step password a := by
  rw [run, List.foldl_append]
  rfl

theorem queued_concat (steps : List Step) (a : Step) : queued (steps ++ [a]) = enqueue (queued steps) a := by
  rw [queued, List.foldl_append]
  rfl

theorem version_append (steps more : List Step) : version (steps ++ more) = version steps + version more := by
  rw [version, List.filterMap_append, List.length_append, version, version]

/-- The watcher remembers of each change whether it calls for reading the file. -/
theorem pending_run (steps : List Step) :
    (run password { file } steps).pending = (queued steps).map concerns := by
  induction steps using List.reverseRecOn with
  | nil => rfl
  | append_singleton steps a ih =>
    rw [run_concat, queued_concat]
    cases a with
    | change c => simp [step, enqueue, ih]
    | handle =>
      rw [enqueue, List.map_tail, ← ih]
      rcases handle_cases password (run password { file } steps) with ⟨hp, hs⟩ | ⟨rest, hp, hs⟩ | ⟨rest, hp, hs⟩
      · rw [hs, hp, List.tail_nil]
      · rw [hs, hp, List.tail_cons]
      · rw [hs, hp, List.tail_cons]

theorem replaced_of_pending {rest : List Bool} (h : (run password { file } steps).pending = true :: rest) :
    ∃ new, (queued steps).head? = some (.replaced fileName new) := by
  rw [pending_run] at h
  obtain ⟨c, cs, hq, hc, -⟩ := List.map_eq_cons_iff.1 h
  obtain ⟨new, rfl⟩ := concerns_iff.1 hc
  exact ⟨new, by rw [hq, List.head?_cons]⟩

theorem versions_append (file : Option (List UInt8)) (steps more : List Step) :
    versions file (steps ++ more) = versions file steps ++ more.filterMap newVersion? := by
  rw [versions, List.filterMap_append, versions, List.cons_append]

theorem length_versions (file : Option (List UInt8)) (steps : List Step) :
    (versions file steps).length = version steps + 1 := by
  rw [versions, List.length_cons, version]

/-- A step leaves the file alone, or it makes a new version of it. -/
theorem file_step (w : Watcher) (a : Step) :
    (w.step password a).file = (newVersion? a).getD w.file := by
  cases a with
  | change c =>
    cases c with
    | replaced name new => by_cases hn : name = fileName <;> simp [step, content, newVersion?, hn]
    | removed => rfl
  | handle =>
    rcases handle_cases password w with ⟨-, hs⟩ | ⟨rest, -, hs⟩ | ⟨rest, -, hs⟩
    · rw [hs]
      rfl
    · rw [hs]
      rfl
    · rw [hs]
      rfl

/-- The file holds its last version. -/
theorem getElem?_versions (password : Option String) (file : Option (List UInt8)) (steps : List Step) :
    (versions file steps)[version steps]? = some (run password { file } steps).file := by
  induction steps using List.reverseRecOn with
  | nil => rfl
  | append_singleton steps a ih =>
    have hlen := length_versions file steps
    rw [run_concat, file_step, versions_append, version_append]
    cases hnew : newVersion? a with
    | none =>
      have hv : version [a] = 0 := by simp [version, hnew]
      rw [hv, Nat.add_zero, List.getElem?_append_left (by omega), ih]
      rfl
    | some content =>
      have hv : version [a] = 1 := by simp [version, hnew]
      rw [hv, ← hlen, List.getElem?_append_right (Nat.le_refl _)]
      simp [hnew]

theorem version_take_le (steps : List Step) {t u : Nat} (h : t ≤ u) :
    version (steps.take t) ≤ version (steps.take u) := by
  have htake : (steps.take u).take t = steps.take t := by rw [List.take_take, Nat.min_eq_left h]
  have happ := version_append ((steps.take u).take t) ((steps.take u).drop t)
  rw [List.take_append_drop, htake] at happ
  omega

/-- What was sent stays sent, with its reason. -/
theorem Sends.append (h : Sends password file steps t s) (more : List Step) :
    Sends password file (steps ++ more) t s := by
  have hlt : t < steps.length := (List.getElem?_eq_some_iff.1 h.handles).1
  have htake : (steps ++ more).take t = steps.take t := List.take_append_of_le_length (Nat.le_of_lt hlt)
  obtain ⟨bytes, text, hversion, hread⟩ := h.reads
  refine ⟨?_, ?_, ⟨bytes, text, ?_, hread⟩, h.valid⟩
  · rw [List.getElem?_append_left hlt]
    exact h.handles
  · rw [htake]
    exact h.replaced
  · have hv := (List.getElem?_eq_some_iff.1 hversion).1
    rw [htake, versions_append, List.getElem?_append_left hv]
    exact hversion

/-- Only a replacement of the file that now holds settings makes the watcher send anything. -/
theorem sent_concat (file : Option (List UInt8)) (steps : List Step) (a : Step) :
    (run password { file } (steps ++ [a])).sent = (run password { file } steps).sent ∨
      ∃ s, Sends password file (steps ++ [a]) steps.length s ∧
        (run password { file } (steps ++ [a])).sent = (run password { file } steps).sent ++ [s] := by
  rw [run_concat]
  cases a with
  | change c => exact .inl rfl
  | handle =>
    rcases handle_cases password (run password { file } steps) with ⟨-, hs⟩ | ⟨rest, hp, hs⟩ | ⟨rest, -, hs⟩
    · exact .inl (by rw [hs])
    · cases hload : Settings.load (run password { file } steps).file password with
      | error e =>
        refine .inl ?_
        rw [hs, reading_of_error hload, List.append_nil]
      | ok s =>
        refine .inr ⟨s, ?_, by rw [hs, reading_of_ok hload]⟩
        obtain ⟨bytes, text, hfile, hread⟩ := Settings.load_eq_ok_iff.1 hload
        have htake : (steps ++ [Step.handle]).take steps.length = steps := List.take_left
        have hversion := getElem?_versions password file steps
        have hlt := (List.getElem?_eq_some_iff.1 hversion).1
        refine ⟨by simp, ?_, ⟨bytes, text, ?_, hread⟩, Settings.problems_of_load hload⟩
        · rw [htake]
          exact replaced_of_pending hp
        · rw [htake, versions_append, List.getElem?_append_left hlt, hversion, hfile]
    · exact .inl (by rw [hs])

/-- Everything that was sent was sent in a step of its own. -/
theorem exists_moments (password : Option String) (file : Option (List UInt8)) (steps : List Step) :
    ∃ moments, moments.Pairwise (· < ·) ∧ (∀ t ∈ moments, t < steps.length) ∧
      List.Forall₂ (Sends password file steps) moments (run password { file } steps).sent := by
  induction steps using List.reverseRecOn with
  | nil => exact ⟨[], .nil, nofun, .nil⟩
  | append_singleton steps a ih =>
    obtain ⟨moments, hordered, hbefore, hsends⟩ := ih
    have hsends' := hsends.imp fun t s h => h.append [a]
    have hlen : (steps ++ [a]).length = steps.length + 1 := by rw [List.length_append, List.length_singleton]
    rcases sent_concat file steps a with hs | ⟨s, hnew, hs⟩
    · refine ⟨moments, hordered, fun t ht => ?_, by rw [hs]; exact hsends'⟩
      have := hbefore t ht
      omega
    · refine ⟨moments ++ [steps.length], ?_, fun t ht => ?_, ?_⟩
      · rw [List.pairwise_append]
        refine ⟨hordered, List.pairwise_singleton _ _, fun t ht u hu => ?_⟩
        rw [List.mem_singleton.1 hu]
        exact hbefore t ht
      · rcases List.mem_append.1 ht with ht | ht
        · have := hbefore t ht
          omega
        · rw [List.mem_singleton.1 ht]
          omega
      · rw [hs]
        exact List.rel_append hsends' (.cons hnew .nil)

/-- A watcher has caught up as soon as no change is left that calls for reading the file. -/
theorem getLast?_sent (hreplaced : ∃ new, Step.change (.replaced fileName new) ∈ steps)
    (hp : true ∉ (run password { file } steps).pending)
    (hs : Settings.load (run password { file } steps).file password = .ok s) :
    (run password { file } steps).sent.getLast? = some s := by
  induction steps using List.reverseRecOn with
  | nil =>
    obtain ⟨new, hmem⟩ := hreplaced
    cases hmem
  | append_singleton steps a ih =>
    rw [run_concat] at hp hs ⊢
    cases a with
    | change c =>
      have hnot : concerns c = false := by
        rw [← Bool.not_eq_true]
        intro hc
        exact hp (List.mem_append_right _ (List.mem_singleton.2 hc.symm))
      cases c with
      | removed => exact absurd hs Settings.load_none_ne_ok
      | replaced name new =>
        have hname : name ≠ fileName := by simpa [concerns] using hnot
        refine ih ?_ (fun hmem => hp (List.mem_append_left _ hmem)) ?_
        · obtain ⟨new', hmem⟩ := hreplaced
          rcases List.mem_append.1 hmem with hmem | hmem
          · exact ⟨new', hmem⟩
          · cases List.mem_singleton.1 hmem
            exact absurd rfl hname
        · simpa only [step, content, if_neg hname] using hs
    | handle =>
      have hreplaced' : ∃ new, Step.change (.replaced fileName new) ∈ steps := by simpa using hreplaced
      rcases handle_cases password (run password { file } steps) with ⟨-, h⟩ | ⟨rest, -, h⟩ | ⟨rest, hrest, h⟩
      · rw [h] at hp hs ⊢
        exact ih hreplaced' hp hs
      · rw [h] at hs ⊢
        rw [reading_of_ok hs, List.getLast?_concat]
      · rw [h] at hp hs ⊢
        refine ih hreplaced' ?_ hs
        rw [hrest]
        simpa using hp

theorem sent_concat_of_idle {before : List Step}
    (h : (∃ c, a = .change c) ∨ (∀ new, (queued before).head? ≠ some (.replaced fileName new)) ∨
      ∀ s, Settings.load (run password { file } before).file password ≠ .ok s) :
    (run password { file } (before ++ [a])).sent = (run password { file } before).sent := by
  rw [run_concat]
  cases a with
  | change c => rfl
  | handle =>
    rcases handle_cases password (run password { file } before) with ⟨-, hs⟩ | ⟨rest, hp, hs⟩ | ⟨rest, -, hs⟩
    · rw [hs]
    · rcases h with ⟨c, hc⟩ | hother | hnone
      · cases hc
      · obtain ⟨new, hhead⟩ := replaced_of_pending hp
        exact absurd hhead (hother new)
      · rw [hs, reading_of_not_ok hnone, List.append_nil]
    · rw [hs]

/-- However changes in the directory and the watcher's steps come between each other: all settings that were
sent, in their order, come from steps one after another, each of which handled a replacement of the file and
read settings without a broken rule from the version that the file then held, and no version is earlier than
that of a send before it. A change itself sends nothing, nor does handling a change of another file or a
removal, nor handling anything while the file is missing or gives no settings. And when no change is left to
handle and the file holds settings that were written since the watcher began, they are the last that were sent. -/
theorem sends_each_version_in_order (password : Option String) (file : Option (List UInt8)) (steps : List Step) :
    (∃ moments : List Nat, moments.Pairwise (· < ·) ∧
      (moments.map fun t => version (steps.take t)).Pairwise (· ≤ ·) ∧
      List.Forall₂ (Sends password file steps) moments (run password { file } steps).sent) ∧
    (∀ before a after, steps = before ++ a :: after →
      ((∃ c, a = .change c) ∨ (∀ new, (queued before).head? ≠ some (.replaced fileName new)) ∨
        ∀ s, Settings.load (run password { file } before).file password ≠ .ok s) →
      (run password { file } (before ++ [a])).sent = (run password { file } before).sent) ∧
    ∀ s, (run password { file } steps).pending = [] →
      (∃ new, Step.change (.replaced fileName new) ∈ steps) →
      Settings.load (run password { file } steps).file password = .ok s →
      (run password { file } steps).sent.getLast? = some s := by
  refine ⟨?_, ?_, ?_⟩
  · obtain ⟨moments, hordered, -, hsends⟩ := exists_moments password file steps
    refine ⟨moments, hordered, ?_, hsends⟩
    exact hordered.map _ fun t u htu => version_take_le steps (Nat.le_of_lt htu)
  · intro before a after _ h
    exact sent_concat_of_idle h
  · intro s hp hreplaced hs
    exact getLast?_sent hreplaced (by rw [hp]; exact List.not_mem_nil) hs

/-- Both changes find the second version. -/
example : (run none { file := none } [.change (.replaced fileName (Utf8.encode "control_plane=['http://[::1]','a']")),
      .change (.replaced fileName (Utf8.encode "control_plane=['http://[::1]','b']")), .handle, .handle]).sent.map
    (·.controlPlane.username) = ["b", "b"] := by decide +kernel

end GatewayFeed.Watcher
