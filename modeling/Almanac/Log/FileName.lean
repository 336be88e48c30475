import Almanac.Path
import Almanac.Text.Pattern

/-!
# Names of log files

The name of a log file is a pattern in which the time may be a field. What depends on the
time is shown by a placeholder; a layout of the time has letters that stand for parts of
it, and all else in it stands for itself.
-/

namespace Almanac.Log

/-- What stands for the time in the name of a file. -/
def timeMark : Text := "<time>".toList

/-- What a field in the name of a file stands for: the time of opening, its moment, its text,
or something else that belongs to it. -/
inductive Stamp where
  | time
  | moment
  | text
  | other
deriving DecidableEq

namespace Stamp

/-- The name of the time's moment. -/
def momentName : Text := "datetime".toList

/-- Parts of a moment. -/
def momentParts : List Text :=
  ["year", "month", "day", "hour", "minute", "second", "microsecond", "fold", "tzinfo", "date",
   "time", "timetz", "min", "max", "resolution", "timestamp", "weekday", "isoweekday",
   "isoformat", "ctime", "strftime", "utcoffset", "tzname", "dst", "astimezone", "replace",
   "timetuple", "utctimetuple", "toordinal", "isocalendar", "now", "utcnow", "today",
   "fromtimestamp", "utcfromtimestamp", "fromordinal", "fromisoformat", "fromisocalendar",
   "combine", "strptime"].map String.toList

/-- Parts that everything has are between two lines each. -/
def isCommonPart (name : Text) : Bool :=
  4 < name.length && name.take 2 == ['_', '_'] && name.reverse.take 2 == ['_', '_']

/-- The part with that name. -/
def part (s : Stamp) (name : Text) : Except ExternalFault Stamp :=
  if isCommonPart name then .ok .other
  else if s = .time ∧ name = momentName then .ok .moment
  else if s = .moment ∧ momentParts.contains name then .ok .other
  else .error .noSuchPart

/-! ## Layouts of the time -/

/-- Letters that stand for a part of the time, and how often in a row they may. -/
def partLetters : List (Char × List Nat) :=
  [('H', [1, 2]), ('h', [1, 2]), ('m', [1, 2]), ('s', [1, 2]), ('S', [1, 2, 3, 4, 5, 6]),
   ('Y', [2, 4]), ('M', [1, 2, 3, 4]), ('D', [1, 2, 3, 4]), ('Z', [1, 2]), ('z', [2]),
   ('A', [1]), ('X', [1]), ('x', [1]), ('E', [1]), ('Q', [1]), ('d', [1, 3, 4])]

/-- How many of the letters with which a text starts stand for a part of the time. -/
def partLength (t : Text) : Nat :=
  match t with
  | [] => 0
  | c :: r =>
    let row := (r.takeWhile fun d => d == c).length + 1
    match partLetters.lookup c with
    | some lengths => (lengths.filter fun n => n ≤ row).foldl Nat.max 0
    | none => 0

/-- What between brackets stands for itself: letters that would stand for one part of the
time, the mark of the meridian, or nothing. -/
def isBracketed (t : Text) : Bool :=
  t.isEmpty || t == "!UTC".toList || partLength t == t.length

/-- What starts with a bracket and stands for itself, and what follows it. -/
def bracketed? (t : Text) : Option (Text × Text) :=
  match t with
  | '[' :: r =>
    match Text.cut? ']' r with
    | some (inner, rest) => if isBracketed inner then some (inner, rest) else none
    | none => none
  | _ => none

/-- The text of a layout by letters; `fuel` bounds its length. -/
def byLetters : Nat → Text → Text
  | 0, _ => []
  | _, [] => []
  | fuel + 1, c :: r =>
    match bracketed? (c :: r) with
    | some (inner, rest) => inner ++ byLetters fuel rest
    | none =>
      if partLength (c :: r) = 0 then c :: byLetters fuel r
      else timeMark ++ byLetters fuel ((c :: r).drop (partLength (c :: r)))

/-- The text of a layout in which percent signs stand in front of what stands for a part of
the time. -/
def byPercents : Text → Text
  | '%' :: c :: r => (if c = '%' then ['%'] else timeMark) ++ byPercents r
  | c :: r => c :: byPercents r
  | [] => []

/-- The end of a layout that asks for the time at the meridian. -/
def meridianMark : Text := "!UTC".toList

/-- A layout without the mark of the meridian at its end. -/
def withoutMeridian (t : Text) : Text :=
  if t.reverse.take 4 = meridianMark.reverse then t.take (t.length - 4) else t

/-- More digits of a fraction than there are. -/
def tooManyDigits : Text := List.replicate 7 'S'

/-- More digits of a fraction are asked for than there are. -/
def asksTooMuch : Text → Bool
  | [] => false
  | c :: r => tooManyDigits.isPrefixOf (c :: r) || asksTooMuch r

/-- The text of the time in a layout. -/
def timeText (layout : Text) : Except ExternalFault Text :=
  let layout := withoutMeridian layout
  if layout = [] then .ok timeMark
  else if layout.contains '%' then .ok (byPercents layout)
  else if asksTooMuch layout then .error .badPattern
  else .ok (byLetters layout.length layout)

/-- The text of what a field stands for, in a layout. -/
def textIn (s : Stamp) (layout : Text) : Except ExternalFault Text :=
  match s with
  | .time | .moment => timeText layout
  | .text =>
    if layout = [] then .ok timeMark
    else match Text.Layout.ofText? layout with
    | some l => .ok (l.fit timeMark)
    | none => .error .badPattern
  | .other => .ok timeMark

/-- What the fields in the name of a file mean. -/
def meaning : Text.Pattern.Meaning Stamp where
  named := fun name => if name = "time".toList then .ok .time else .error .unknownWord
  part := part
  member := fun _ _ => .error .wrongKind
  taken := fun _ c => if c = 'r' ∨ c = 's' ∨ c = 'a' then .ok .text else .error .badPattern
  text := textIn

end Stamp

/-- How deep fields can be in the layouts of others. -/
def patternDepth : Nat := 2

/-- The name of a file from its pattern. -/
def fileName (pattern : Text) : Except ExternalFault Text :=
  Text.Pattern.textOf Stamp.meaning patternDepth pattern

end Almanac.Log
