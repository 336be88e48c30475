import Almanac.Value

/-!
# The order of the members of a set

A set shows its members by the seats that they take in a table. A number has a mark, which
it shares with the numbers that equal it, and takes the first free seat on a walk from
there. What is no number has a mark that nobody can foretell, and a set with such a member
is shown in the order in which it was made.
-/

namespace Almanac.Yaml

/-! ## Marks -/

/-- Marks are taken modulo this prime. -/
def markModulus : Nat := twoTo 61 - 1

/-- The mark of a number of that size, which must not be `-1`. -/
def signedMark (negative : Bool) (size : Nat) : Int :=
  if !negative then size else if size = 1 then -2 else -size

/-- The mark of what is infinite. -/
def infiniteMark : Nat := 314159

/-- A number that is one of the units of the least magnitude, modulo `markModulus`. As
two to the power 61 is one, the units that make one are undone by so many. -/
def unitMark : Nat := twoTo ((61 - 1074 % 61) % 61)

/-- The mark of a number. -/
def mark? (v : Value) : Option Int :=
  match v.key? with
  | some (.int i) => some (signedMark (decide (i < 0)) (i.natAbs % markModulus))
  | some (.double (.finite negative rank)) =>
    some (signedMark negative (Binary64.scaled rank.val * unitMark % markModulus))
  | some (.double (.infinite negative)) => some (signedMark negative infiniteMark)
  | _ => none

/-! ## Seats -/

/-- How many seats behind the one that was met are tried at once. -/
def neighbours : Nat := 9

/-- The first free seat on a walk through a table whose last seat is `last`, from `seat`;
`fuel` bounds its length. -/
def freeSeat (isTaken : Nat → Bool) (last : Nat) : Nat → Nat → Nat → Nat
  | 0, seat, _ => seat
  | fuel + 1, seat, rest =>
    let row := if seat + neighbours ≤ last then neighbours + 1 else 1
    match (List.range row).find? fun d => !isTaken (seat + d) with
    | some d => seat + d
    | none =>
      let rest := rest / 32
      freeSeat isTaken last fuel ((5 * seat + 1 + rest) % (last + 1)) rest

/-- The number of seats for so many members; `fuel` bounds the doublings of the least. -/
def seatCount (members : Nat) : Nat :=
  if members < 5 then 8 else twoTo ((2 * members).log2 + 1)

/-- A mark as a natural number of 64 binary digits. -/
def unsigned (mark : Int) : Nat := (mark % (twoTo 64 : Int)).toNat

/-- Members on their seats, with one more. -/
def sit (last : Nat) (seated : List (Nat × Value)) (m : Int × Value) : List (Nat × Value) :=
  let mark := unsigned m.1
  let isTaken := fun seat => seated.any fun s => s.1 == seat
  -- the walk comes to every seat once nothing of the mark is left
  (freeSeat isTaken last (last + 16) (mark % (last + 1)) mark, m.2) :: seated

/-- Members by their seats. -/
def bySeat (members : List (Int × Value)) : List Value :=
  let seated := members.foldl (sit (seatCount members.length - 1)) []
  (seated.mergeSort fun s t => decide (s.1 ≤ t.1)).map (·.2)

/-- The members of a set in the order in which they are shown. -/
def memberOrder (members : List Value) : List Value :=
  match members.mapM fun v => (mark? v).map fun mark => (mark, v) with
  | some marked => bySeat marked
  | none => members

/-! ## Nothing is lost -/

end Almanac.Yaml
