import Almanac.Yaml.Gap

/-!
# Plain scalars as they are written

A scalar without quotes starts where no mark does, and ends before a mark or a comment.
It may go on in further lines, as long as these are indented.
-/

namespace Almanac.Yaml

/-- Characters with a meaning inside flow collections. -/
def flowMarks : Text := [',', '[', ']', '\x7b', '\x7d']

/-- Characters that start no plain scalar. -/
def indicators : Text :=
  ['-', '?', ':', ',', '[', ']', '\x7b', '\x7d', '#', '&', '*', '!', '|', '>', '\'', '"', '%',
   '@', '\x60', ' ', '\t', '\n', '\u0085', '\u2028', '\u2029']

/-- A plain scalar may start with that character, given what follows it. -/
def startsPlain (flow : Bool) (c : Char) (rest : Text) : Bool :=
  !indicators.contains c ||
    (!endsWord rest && (c == '-' || (!flow && (c == '?' || c == ':'))))

/-- A plain scalar ends before that character, given what follows it. -/
def endsPlain (flow : Bool) (c : Char) (rest : Text) : Bool :=
  c == '\t' || (c == ':' && (endsWord rest || (flow && rest.head?.any flowMarks.contains))) ||
    (flow && (c == '?' || flowMarks.contains c))

/-- A plain scalar, what follows it, and whether a line ends between the two. -/
structure PlainRead where
  text : Text
  rest : Text
  crossed : Bool

/-- A plain scalar does not go on behind a gap: a comment stands there, or the line is
indented too little. -/
def Gap.closes (flow : Bool) (least : Nat) (c : Char) : Gap → Bool
  | .blanks t => !t.isEmpty && c == '#'
  | .lines _ _ column => c == '#' || (!flow && decide (column < least))

/-- The rest of a plain scalar whose lines are indented by `least` or more. -/
def readPlain (flow : Bool) (least : Nat) (gap : Gap) : Text → PlainRead
  | [] => ⟨[], [], gap.crosses⟩
  | c :: r =>
    if c = ' ' then readPlain flow least (gap.afterBlank c) r
    else if isBreak c then
      if isBoundary r then ⟨[], r, true⟩ else readPlain flow least (gap.afterBreak c) r
    else if gap.closes flow least c || endsPlain flow c r then ⟨[], c :: r, gap.crosses⟩
    else
      let p := readPlain flow least .none r
      { p with text := gap.text ++ c :: p.text }

end Almanac.Yaml
