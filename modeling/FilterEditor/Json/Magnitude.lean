/-!
# Json — Magnitude

Which numbers a text can give.  A number is taken as a double: the leading digits that fit 64 bits
(`leading`), rounded to a double, times the power of ten that the others leave, rounded to a double
as well.  It has no value if the product is beyond the doubles (`isBeyond`).
-/

namespace FilterEditor.Json.Magnitude

/-- The longest run of digits at the head that spells a number of 64 bits: that number, and how many
digits it takes.  The digits read so far spell `value`, and there are `count` of them. -/
def leading (value count : Nat) : List Char → Nat × Nat
  | [] => (value, count)
  | d :: ds =>
      let next := 10 * value + (d.toNat - '0'.toNat)
      if next < UInt64.size then leading next (count + 1) ds else (value, count)

/-- The nearest number of at most 53 binary digits and zeros after them; of two that are equally
near, the one whose last digit of the 53 is even. -/
def round53 (n : Nat) : Nat :=
  let shift := n.log2 + 1 - 53
  let kept := n >>> shift
  let dropped := n - kept <<< shift
  let half := (1 <<< shift) / 2
  let up := half < dropped || half == dropped && 0 < shift && kept % 2 == 1
  (if up then kept + 1 else kept) <<< shift

/-- The least number that is rounded away from every double: half a step beyond the largest one. -/
def ceiling : Nat :=
  1 <<< 1024 - 1 <<< 970

/-- The largest power of ten that is a double. -/
def maxPower : Nat := 308

/-- The digits, shifted by `power` places to the left, are beyond the doubles. -/
def isBeyond (digits : List Char) (power : Int) : Bool :=
  let (significand, taken) := leading 0 0 digits
  let exponent := power + (digits.length - taken : Nat)
  significand != 0 && (maxPower < exponent ||
    0 < exponent && ceiling ≤ round53 significand * round53 (Nat.pow 10 exponent.toNat))

end FilterEditor.Json.Magnitude
