import FilterEditor.Fault

/-!
# Timing

When a request is sent and how long it may take.  A change of the text is sent to the oracle once
no further change has come for the debounce time; a burst of changes holds a request back no longer
than the longest debounce time, counted from its first change (`delay`).  A timing whose buffer is
too large is a fault when a session starts (`check`).
-/

namespace FilterEditor

/-- The times of a session, in milliseconds, and the number of events that may wait. -/
structure Timing where
  debounceMs : Nat := 150
  maxDebounceMs : Nat := 1000
  oracleTimeoutMs : Nat := 2000
  eventBuffer : Nat := 64
deriving DecidableEq, Repr

namespace Timing

/-- A session can hold as many events as the timing asks for. -/
def check (t : Timing) : Except Fault Unit :=
  if t.eventBuffer ≤ largestBuffer then .ok () else .error .bufferTooLarge

/-- The number of events that may wait: as many as the timing asks for, and one at least. -/
def room (t : Timing) : Nat :=
  max 1 t.eventBuffer

/-- The longest debounce time, which is no shorter than the debounce time. -/
def longestMs (t : Timing) : Nat :=
  max t.maxDebounceMs t.debounceMs

/-- How long a request waits after a change, when its burst began `since` ago: the debounce time,
or what is left of the longest one if that is less.  All times are in the same unit. -/
def delay (debounce longest since : Nat) : Nat :=
  min debounce (longest - since)

/-- The delay in milliseconds. -/
def delayMs (t : Timing) (since : Nat) : Nat :=
  delay t.debounceMs t.longestMs since

/-- The number of microseconds in some milliseconds. -/
def micros (ms : Nat) : Nat :=
  1000 * ms

/-- The delay in microseconds. -/
def delayMicros (t : Timing) (since : Nat) : Nat :=
  delay (micros t.debounceMs) (micros t.longestMs) since

theorem delayMicros_micros (t : Timing) (since : Nat) :
    t.delayMicros (micros since) = micros (t.delayMs since) := by
  simp only [delayMicros, delayMs, delay, micros]
  omega

/-- A request waits no longer than the debounce time. -/
theorem delayMs_le (t : Timing) (since : Nat) : t.delayMs since ≤ t.debounceMs :=
  Nat.min_le_left ..

end Timing
end FilterEditor
