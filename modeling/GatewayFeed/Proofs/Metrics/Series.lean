import GatewayFeed.Metrics

/-! What a series shows comes from the recordings that have its name. Recordings of one name are of one
measurement, and of the same endpoint, the same kind or the same outcome. -/

namespace GatewayFeed

namespace Recording

variable {r r' : Recording} {s t : String} {c : Char}

/-- What tells the names of measurements apart: the letter behind their common beginning. Only fetches and
their durations share theirs. -/
def letter : Recording → Char
  | fetchOutcome _ _ => 'f'
  | fetchDuration _ => 'f'
  | decodeError _ => 'd'
  | collectionItems _ _ => 'c'
  | populatedSlots _ => 's'
  | cycle _ => 'l'

theorem getElem?_append_left (h : s.toList[8]? = some c) (t : String) : (s ++ t).toList[8]? = some c := by
  rw [String.toList_append, List.getElem?_append_left (List.getElem?_eq_some_iff.1 h).1]
  exact h

end Recording

namespace Metrics

variable {rs rs' : List Recording} {r : Recording} {series : String}

/-- What was recorded of a series. -/
def entries (rs : List Recording) (series : String) : List Recording := rs.filter fun r => r.series = series

end Metrics

end GatewayFeed
