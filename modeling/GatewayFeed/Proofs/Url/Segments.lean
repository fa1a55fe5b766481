import GatewayFeed.Kind
import GatewayFeed.Url.Parser

/-! The segments of a path as they are read, and the slashes at its end. -/

namespace GatewayFeed.Url

/-- The segments so far and the one that is being read. -/
structure Walk where
  segments : List (List Char)
  current : List Char

namespace Walk

/-- What a slash after the current segment leaves. -/
def enter (w : Walk) : List (List Char) := pushSegment w.segments w.current false

def finish (w : Walk) : List (List Char) := pushSegment w.segments w.current true

def read (w : Walk) (c : Char) : Walk :=
  if isSlash c then ⟨w.enter, []⟩ else ⟨w.segments, w.current ++ percentChar pathSet c⟩

def walk (w : Walk) (cs : List Char) : Walk := cs.foldl read w

variable {w : Walk} {c : Char} {cs ds : List Char}

theorem walk_append (w : Walk) (cs ds : List Char) : w.walk (cs ++ ds) = (w.walk cs).walk ds :=
  List.foldl_append

theorem walk_cons (w : Walk) (c : Char) (cs : List Char) : w.walk (c :: cs) = (w.read c).walk cs := rfl

theorem read_slash (hc : isSlash c = true) : w.read c = ⟨w.enter, []⟩ := if_pos hc

theorem read_other (hc : isSlash c = false) : w.read c = ⟨w.segments, w.current ++ percentChar pathSet c⟩ := by
  rw [read, hc]
  rfl

/-- An empty segment stays, wherever it stands. -/
theorem walk_slashes (ss : List (List Char)) (n : Nat) :
    walk ⟨ss, []⟩ (List.replicate n '/') = ⟨ss ++ List.replicate n [], []⟩ := by
  induction n generalizing ss with
  | zero => simp [walk]
  | succ n ih =>
    have hread : read ⟨ss, []⟩ '/' = ⟨ss ++ [[]], []⟩ := rfl
    rw [List.replicate_succ, walk_cons, hread, ih, List.replicate_succ, List.append_assoc]
    rfl

/-- Characters that a segment is written with, as they are. -/
def Plain (s : List Char) : Prop :=
  (∀ c ∈ s, isSlash c = false ∧ percentChar pathSet c = [c]) ∧ isDoubleDot s = false ∧ isSingleDot s = false

instance (s : List Char) : Decidable (Plain s) :=
  -- looking through the text, not through all characters there are
  have : Decidable (∀ c ∈ s, isSlash c = false ∧ percentChar pathSet c = [c]) := List.decidableBAll _ s
  inferInstanceAs (Decidable (_ ∧ _ ∧ _))

theorem walk_plain (h : ∀ c ∈ cs, isSlash c = false ∧ percentChar pathSet c = [c]) :
    w.walk cs = ⟨w.segments, w.current ++ cs⟩ := by
  induction cs generalizing w with
  | nil => simp [walk]
  | cons c cs ih =>
    obtain ⟨hc, hp⟩ := h c List.mem_cons_self
    rw [walk_cons, read_other hc, hp, ih fun c hmem => h c (List.mem_cons_of_mem _ hmem), List.append_assoc]
    rfl

theorem pushSegment_plain {s : List Char} (h : Plain s) (ss : List (List Char)) (last : Bool) :
    pushSegment ss s last = ss ++ [s] := by
  rw [pushSegment, h.2.1, h.2.2]
  rfl

theorem walk_plain_slash {s : List Char} (h : Plain s) (ss : List (List Char)) :
    walk ⟨ss, []⟩ (s ++ '/' :: cs) = walk ⟨ss ++ [s], []⟩ cs := by
  rw [walk_append, walk_plain h.1, walk_cons, read_slash rfl, List.nil_append, enter, pushSegment_plain h]

end Walk

open Walk

/-- What a path is read up to. -/
def EndsPath (rest : List Char) : Prop := ∀ c ∈ rest.head?, c = '?' ∨ c = '#'

theorem pathOf_append {w : Walk} {cs rest : List Char} (hcs : ∀ c ∈ cs, c ≠ '?' ∧ c ≠ '#')
    (hrest : EndsPath rest) : pathOf true w.segments w.current (cs ++ rest) = ((w.walk cs).finish, rest) := by
  induction cs generalizing w with
  | nil =>
    cases rest with
    | nil => rfl
    | cons c rest =>
      have hc := hrest c rfl
      have hslash : ¬(c = '/' ∨ (true = true ∧ c = '\\')) := by
        rcases hc with rfl | rfl <;> decide
      rw [List.nil_append, pathOf, if_neg (by simpa using hslash), if_pos (by simpa using hc)]
      rfl
  | cons c cs ih =>
    obtain ⟨hq, hf⟩ := hcs c List.mem_cons_self
    have ih := fun w => ih (w := w) fun c hmem => hcs c (List.mem_cons_of_mem _ hmem)
    rw [List.cons_append, pathOf, walk_cons]
    by_cases hc : isSlash c = true
    · rw [read_slash hc, if_pos (by simpa [isSlash] using hc)]
      exact ih ⟨w.enter, []⟩
    · rw [read_other (Bool.not_eq_true _ ▸ hc), if_neg (by simpa [isSlash] using hc), if_neg (by simp [hq, hf])]
      exact ih ⟨w.segments, w.current ++ percentChar pathSet c⟩

/-- A path that is there begins with a slash. -/
def StartsPath (cs : List Char) : Prop := ∀ c ∈ cs.head?, isSlash c = true

def walkPath (cs : List Char) : Walk := walk ⟨[], []⟩ (cs.drop 1)

theorem absolutePath_append {cs rest : List Char} (hstart : StartsPath cs)
    (hcs : ∀ c ∈ cs, c ≠ '?' ∧ c ≠ '#') (hrest : EndsPath rest) :
    absolutePath true (cs ++ rest) = ((walkPath cs).finish, rest) := by
  cases cs with
  | nil =>
    cases rest with
    | nil => rfl
    | cons c rest =>
      have hc := hrest c rfl
      have hslash : ¬(c = '/' ∨ (true = true ∧ c = '\\')) := by
        rcases hc with rfl | rfl <;> decide
      rw [List.nil_append, absolutePath, if_neg (by simpa using hslash), if_neg (by simp)]
      exact @pathOf_append ⟨[], []⟩ [] (c :: rest) nofun hrest
  | cons c cs =>
    have hslash : c = '/' ∨ (true = true ∧ c = '\\') := by simpa [isSlash] using hstart c rfl
    rw [List.cons_append, absolutePath, if_pos (by simpa using hslash)]
    exact pathOf_append (w := ⟨[], []⟩) (fun c hmem => hcs c (List.mem_cons_of_mem _ hmem)) hrest

/-- The segments of a path that goes on with a slash. -/
def above (cs : List Char) : List (List Char) :=
  match cs with
  | [] => []
  | _ :: cs => (walk ⟨[], []⟩ cs).enter

theorem walkPath_append_slash (cs ds : List Char) : walkPath (cs ++ '/' :: ds) = walk ⟨above cs, []⟩ ds := by
  cases cs with
  | nil => rfl
  | cons c cs =>
    rw [walkPath, List.cons_append, List.drop_one, List.tail_cons, walk_append, walk_cons, read_slash rfl]
    rfl

end GatewayFeed.Url
