import Almanac.Fault.Basic
import Almanac.Text.Digit

/-!
# Layouts of texts

A layout says how a text is fitted into its place: it is cut off behind some characters,
and filled up to a width on one side or on both.
-/

namespace Almanac.Text

/-- The side of a place at which a text stands. -/
inductive Side where
  | left
  | right
  | middle
deriving DecidableEq

/-- How a text is fitted into its place. -/
structure Layout where
  fill : Char
  side : Side
  width : Nat
  limit : Option Nat
deriving DecidableEq

namespace Layout

/-- The side that a mark stands for. -/
def side? : Char → Option Side
  | '<' => some .left
  | '>' => some .right
  | '^' => some .middle
  | _ => none

/-- The greatest number in a layout. -/
def greatest : Nat := 0x7FFFFFFFFFFFFFFF

/-- A number, which may be missing, and what follows it. -/
def number? (t : Text) : Option (Option Nat × Text) :=
  let digits := t.takeWhile isDecimalDigit
  if digits = [] then some (none, t)
  else if greatest < digitsValue digits then none
  else some (some (digitsValue digits), t.dropWhile isDecimalDigit)

/-- What fills the place and the side, as far as they are said, and what follows. A mark in
second place makes the first character the filling. -/
def filling (t : Text) : Option Char × Side × Text :=
  match t with
  | c :: d :: r =>
    match side? d, side? c with
    | some side, _ => (some c, side, r)
    | none, some side => (none, side, d :: r)
    | none, none => (none, .left, t)
  | [c] =>
    match side? c with
    | some side => (none, side, [])
    | none => (none, .left, t)
  | [] => (none, .left, t)

/-- The limit behind a point, and what follows; a point without a number is none. -/
def limit? (t : Text) : Option (Option Nat × Text) :=
  match t with
  | '.' :: r =>
    match number? r with
    | some (some n, r) => some (some n, r)
    | _ => none
  | t => some (none, t)

/-- The layout of a text. -/
def ofText? (t : Text) : Option Layout := do
  let (fill, side, t) := filling t
  let zeros := fill.isNone && t.head? == some '0'
  let (width, t) ← number? t
  let (limit, t) ← limit? t
  if t = [] ∨ t = ['s'] then
    some ⟨fill.getD (if zeros then '0' else ' '), side, width.getD 0, limit⟩
  else none

/-- Fits a text into its place. -/
def fit (layout : Layout) (t : Text) : Text :=
  let t := match layout.limit with
    | some n => t.take n
    | none => t
  let missing := layout.width - t.length
  let before := match layout.side with
    | .left => 0
    | .right => missing
    | .middle => missing / 2
  List.replicate before layout.fill ++ t ++ List.replicate (missing - before) layout.fill

end Layout

end Almanac.Text
