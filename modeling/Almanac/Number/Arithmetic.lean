import Almanac.Number.Binary64

/-!
# Sums of doubles

Sums and products are exact on the units of `2 ^ -1074`, and rounded once.
-/

namespace Almanac.Binary64

/-- A finite number in units of `2 ^ -1074`. -/
def units (negative : Bool) (rank : Nat) : Int :=
  if negative then -(scaled rank : Int) else scaled rank

/-- Changes the sign. -/
def negated : Binary64 → Binary64
  | nan payload => nan payload
  | infinite negative => infinite (!negative)
  | finite negative rank => finite (!negative) rank

/-- The sum, rounded once. A sum of zero is negative only if both terms are. What is no
number stays what it is. -/
def add : Binary64 → Binary64 → Binary64
  | finite s a, finite t b =>
    let sum := units s a.val + units t b.val
    ofRatio (if sum = 0 then s && t else decide (sum < 0)) sum.natAbs unitsPerOne
  | infinite s, infinite t => if s = t then infinite s else nan 0
  | infinite s, finite _ _ | finite _ _, infinite s => infinite s
  | nan payload, _ | _, nan payload => nan payload

/-- The product with the double nearest to a natural number, rounded once. Nothing times
infinity is no number. -/
def times (x : Binary64) (n : Nat) : Binary64 :=
  match x, ofRatio false n 1 with
  | finite s a, finite _ b =>
    ofRatio s (scaled a.val * scaled b.val) (unitsPerOne * unitsPerOne)
  | infinite s, infinite _ => infinite s
  | infinite s, finite _ r | finite s r, infinite _ => if r.val = 0 then nan 0 else infinite s
  | nan payload, _ | _, nan payload => nan payload

/-- What is no number with a payload of its own; the numbers stay what they are. -/
def marked (payload : Nat) : Binary64 → Binary64
  | nan _ => nan payload
  | x => x

/-- The natural number is beyond every double. -/
def isBeyond (n : Nat) : Bool := ofRatio false n 1 == infinite false

end Almanac.Binary64
