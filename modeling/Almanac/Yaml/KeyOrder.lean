import Almanac.Number.Arithmetic
import Almanac.Text.Order
import Almanac.Value

/-!
# The order of keys

The keys of a mapping are written in order if they have one: if they are all texts, all
numbers, all bytes, or all moments that can be compared. Sorting takes the run with which
the keys start, turned round if it goes down, and inserts the others one after another by
halving. What is no number is neither less nor greater than any number, so that its place
depends on the way.
-/

namespace Almanac.Yaml

/-! ## Sorting -/

/-- How far a list goes on as it starts, behind items that are given latest first: each
item stands to the one before it as `goesOn` says. -/
def runFrom {α : Type} (goesOn : α → α → Bool) (last : α) (run : List α) :
    List α → List α × List α
  | [] => (last :: run, [])
  | x :: rest => if goesOn x last then runFrom goesOn x (last :: run) rest else (last :: run, x :: rest)

/-- The run with which a list starts, in ascending order, and what follows it. -/
def initialRun {α : Type} (less : α → α → Bool) : List α → List α × List α
  | [] => ([], [])
  | [x] => ([x], [])
  | x :: y :: rest =>
    if less y x then runFrom less y [x] rest
    else
      let (run, rest) := runFrom (fun z w => !less z w) y [x] rest
      (run.reverse, rest)

/-- Where an item belongs among sorted ones, between two places, found by halving; `fuel`
bounds how often. -/
def placeBetween {α : Type} (less : α → α → Bool) (x : α) (sorted : List α) :
    Nat → Nat → Nat → Nat
  | 0, low, _ => low
  | fuel + 1, low, high =>
    if low < high then
      let middle := low + (high - low) / 2
      if (sorted[middle]?).any (less x) then placeBetween less x sorted fuel low middle
      else placeBetween less x sorted fuel (middle + 1) high
    else low

/-- Puts an item among sorted ones. -/
def insertSorted {α : Type} (less : α → α → Bool) (sorted : List α) (x : α) : List α :=
  let place := placeBetween less x sorted sorted.length 0 sorted.length
  sorted.take place ++ x :: sorted.drop place

/-- The items in order. -/
def sort {α : Type} (less : α → α → Bool) (items : List α) : List α :=
  let (run, rest) := initialRun less items
  rest.foldl (insertSorted less) run

/-! ## Keys -/

/-- Where a number lies: below all others, above them, or at a whole number of the units
in which doubles are counted. -/
inductive Rank where
  | below
  | units (n : Int)
  | above
  | nowhere
deriving DecidableEq

/-- The rank of a number. -/
def rank? : Value → Option Rank
  | .bool b => some (.units (if b then unitsPerOne else 0))
  | .int i => some (.units (i * unitsPerOne))
  | .double (.nan _) => some .nowhere
  | .double (.infinite negative) => some (if negative then .below else .above)
  | .double (.finite negative r) => some (.units (Binary64.units negative r.val))
  | _ => none

/-- A number is less than another. -/
def Rank.less : Rank → Rank → Bool
  | .units a, .units b => decide (a < b)
  | .below, .units _ | .below, .above | .units _, .above => true
  | _, _ => false

/-- Bytes come before others. -/
def bytesLess : List UInt8 → List UInt8 → Bool
  | _, [] => false
  | [], _ :: _ => true
  | a :: s, b :: t => if a = b then bytesLess s t else decide (a < b)

/-- A key comes before another. -/
def keyLess : Value → Value → Bool
  | .text s, .text t => s != t && Text.precedes s t
  | .bytes s, .bytes t => bytesLess s t
  | .moment m, .moment n => decide (m.ordinal.2 < n.ordinal.2)
  | k, l =>
    match rank? k, rank? l with
    | some a, some b => a.less b
    | _, _ => false

/-- The kinds of keys that can be compared with each other. -/
inductive Comparable where
  | texts
  | numbers
  | bytes
  | moments (scale : Moment.Scale)
deriving DecidableEq

/-- What a key can be compared with. -/
def comparable? : Value → Option Comparable
  | .text _ => some .texts
  | .bytes _ => some .bytes
  | .moment m => some (.moments m.ordinal.1)
  | k => if (rank? k).isSome then some .numbers else none

/-- Keys that have an order. -/
def isOrdered : List Value → Bool
  | [] => true
  | k :: rest => (comparable? k).isSome && rest.all fun l => comparable? l == comparable? k

/-- What has keys, in their order if they have one. -/
def sortByKey {α : Type} (key : α → Value) (items : List α) : List α :=
  if isOrdered (items.map key) then sort (fun x y => keyLess (key x) (key y)) items else items

end Almanac.Yaml
