import Almanac.Moment
import Almanac.Text.Digit
import Almanac.Yaml.Character

/-!
# Moments in documents

The forms in which a scalar names a day, or a day and a time of day, perhaps with the
distance of its zone. A scalar may have the form of a moment that there is not.
-/

namespace Almanac.Yaml

/-- A number of `least` to `greatest` digits, and what follows it. -/
def digits? (least greatest : Nat) (t : Text) : Option (Nat × Text) :=
  let digits := (t.take greatest).takeWhile Char.isDigit
  if least ≤ digits.length then some (Text.digitsValue digits, t.drop digits.length) else none

/-- What follows that character. -/
def after? (c : Char) : Text → Option Text
  | d :: r => if c = d then some r else none
  | [] => none

/-- The distance of a zone in minutes; none may be given. -/
def zone? (t : Text) : Option (Option Int) :=
  if t = [] then some none
  else match t.dropWhile isBlank with
  | [] => none
  | s :: r =>
    if s = 'Z' then if r = [] then some (some 0) else none
    else if s = '+' ∨ s = '-' then do
      let signed := fun (n : Nat) => if s = '-' then -(n : Int) else n
      let (hours, r) ← digits? 1 2 r
      if r = [] then return some (signed (60 * hours))
      let (minutes, r) ← digits? 2 2 (← after? ':' r)
      if r = [] then return some (signed (60 * hours + minutes))
      none
    else none

/-- The microseconds of a fraction: its first six digits, filled up with zeros. -/
def microseconds (digits : Text) : Nat :=
  Text.digitsValue ((digits ++ List.replicate 6 '0').take 6)

/-- A time of day; a fraction of a second may follow it, and a zone. -/
def timeOfDay? (t : Text) : Option TimeOfDay := do
  let (hour, t) ← digits? 1 2 t
  let (minute, t) ← digits? 2 2 (← after? ':' t)
  let (second, t) ← digits? 2 2 (← after? ':' t)
  let (fraction, t) := match t with
    | '.' :: r => (r.takeWhile Char.isDigit, r.dropWhile Char.isDigit)
    | r => ([], r)
  return ⟨hour, minute, second, microseconds fraction, ← zone? t⟩

/-- What stands between a day and a time of day. -/
def afterDay? (t : Text) : Option Text :=
  match t with
  | [] => none
  | c :: r =>
    if c = 'T' ∨ c = 't' then some r else if isBlank c then some (r.dropWhile isBlank) else none

/-- The moment that a scalar names. -/
def moment? (t : Text) : Option Moment := do
  let (year, r) ← digits? 4 4 t
  let (month, r) ← digits? 1 2 (← after? '-' r)
  let (day, r) ← digits? 1 2 (← after? '-' r)
  if r = [] then return ⟨year, month, day, none⟩
  return ⟨year, month, day, ← timeOfDay? (← afterDay? r)⟩

/-- The form of a moment. A day by itself has two digits for month and day. -/
def isMoment (t : Text) : Bool := (moment? t).any fun m => m.time.isSome || t.length == 10

end Almanac.Yaml
