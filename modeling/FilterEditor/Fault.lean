/-!
# Fault

The failures of the program itself, as opposed to a verdict on a query.  Offsets, cursors and
request ids fit 64 bits, and their arithmetic is checked: a sum past the end is a fault, and is
never wrapped (`addOffset`).
-/

namespace FilterEditor

/-- A failure of the program itself. -/
inductive Fault where
  /-- A sum of offsets or ids does not fit 64 bits. -/
  | overflow
  /-- A literal was asked for a terminal that a token table of the given size does not hold. -/
  | unknownTerminal (terminal size : Nat)
  /-- The oracle stopped in the middle of a call. -/
  | oracleStopped
  /-- A session was to hold more waiting events than `largestBuffer`. -/
  | bufferTooLarge
deriving DecidableEq, Repr

/-- The number of different offsets. -/
def offsetLimit : Nat := UInt64.size

/-- The most events that a session can hold: three of the 64 bits of their count are taken. -/
def largestBuffer : Nat := offsetLimit / 8 - 1

/-- The text of a fault. -/
def Fault.message : Fault → String
  | .overflow => "attempt to add with overflow"
  | .unknownTerminal terminal size =>
      "terminal id #" ++ terminal.repr ++ " is outside the token catalog (size " ++ size.repr ++ ")"
  | .oracleStopped => "the oracle stopped"
  | .bufferTooLarge =>
      "a semaphore may not have more than MAX_PERMITS permits (" ++ largestBuffer.repr ++ ")"

/-- The sum of two offsets, if it is an offset. -/
def addOffset (a b : Nat) : Except Fault Nat :=
  if a + b < offsetLimit then .ok (a + b) else .error .overflow

theorem addOffset_of_lt {a b : Nat} (h : a + b < offsetLimit) : addOffset a b = .ok (a + b) :=
  if_pos h

theorem addOffset_of_le {a b : Nat} (h : offsetLimit ≤ a + b) : addOffset a b = .error .overflow :=
  if_neg (Nat.not_lt.2 h)

theorem map_eq_ok {α β : Type} {x : Except Fault α} {f : α → β} {b : β} :
    x.map f = .ok b ↔ ∃ a, x = .ok a ∧ f a = b := by
  cases x <;> simp [Except.map]

end FilterEditor
