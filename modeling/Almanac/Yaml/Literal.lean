import Almanac.Yaml.Character

/-!
# Literal scalars

A scalar may stand on lines of its own, behind a mark and a header. Its lines share an
indentation, which does not belong to it; the header says what becomes of the line ends
behind it. In a folded scalar a line's end between two lines that start with a word is
read as a space.
-/

namespace Almanac.Yaml

/-- Which of the line ends behind a literal scalar belong to it: none, one, or all. -/
inductive Chomp where
  | strip
  | clip
  | keep
deriving DecidableEq

/-- The header of a literal scalar: its line ends, and its indentation if that is given. -/
structure LiteralHeader where
  chomp : Chomp
  indent : Option Nat

/-- The mark that says what becomes of the line ends behind a scalar. -/
def chomp? : Char → Option Chomp
  | '-' => some .strip
  | '+' => some .keep
  | _ => none

/-- The header, and what follows its line. The indentation may stand on either side of
the mark, and is not zero. -/
def literalHeader? (t : Text) : Option (LiteralHeader × Text) :=
  let take := fun (t : Text) => match t with
    | c :: r => if (chomp? c).isSome then (chomp? c, r) else (none, t)
    | [] => (none, t)
  let (before, t) := take t
  let (indent, t) := match t with
    | c :: r => if c.isDigit then (some (c.toNat - 48), r) else (none, t)
    | [] => (none, t)
  let (chomp, t) := if before.isSome then (before, t) else take t
  let closed := t.head?.all fun c => c == ' ' || isBreak c
  if indent = some 0 ∨ closed = false then none
  else (skipComment? t).map fun rest => (⟨chomp.getD .clip, indent⟩, rest)

/-- Line ends that were passed over, the column that was reached behind them, and the text
from there on. -/
structure Skipped where
  breaks : Text
  column : Nat
  rest : Text

/-- Passes over blank lines, and over spaces up to a column. -/
def skipTo (indent column : Nat) : Text → Skipped
  | [] => ⟨[], column, []⟩
  | c :: r =>
    if c = ' ' ∧ column < indent then skipTo indent (column + 1) r
    else if isBreak c then
      let s := skipTo indent 0 r
      { s with breaks := breakRead c :: s.breaks }
    else ⟨[], column, c :: r⟩

/-- The greatest number of spaces on the blank lines in front and on the line behind them. -/
def widest (greatest column : Nat) : Text → Nat
  | [] => greatest
  | c :: r =>
    if c = ' ' then widest (Nat.max greatest (column + 1)) (column + 1) r
    else if isBreak c then widest greatest 0 r
    else greatest

/-- What a literal scalar's lines hold: their text, the last one's end, the ends of the
blank lines behind it, and what follows. -/
structure LiteralLines where
  text : Text
  lineEnd : Text
  breaks : Text
  rest : Text

/-- A line starts with a blank. -/
def startsBlank (t : Text) : Bool := t.head?.any isBlank

/-- The lines from one at its column on; `fuel` bounds their number. -/
def literalLines (folded : Bool) (indent : Nat) : Nat → Text → LiteralLines
  | 0, t => ⟨[], [], [], t⟩
  | fuel + 1, t =>
    let line := t.takeWhile fun c => !isBreak c
    let lineEnd := ((skipLine t).take 1).map breakRead
    let s := skipTo indent 0 ((skipLine t).drop 1)
    if s.column = indent ∧ s.rest ≠ [] then
      let next := literalLines folded indent fuel s.rest
      let joint :=
        if folded ∧ lineEnd = ['\n'] ∧ startsBlank t = false ∧ startsBlank s.rest = false then
          if s.breaks = [] then [' '] else []
        else lineEnd
      { next with text := line ++ joint ++ s.breaks ++ next.text }
    else ⟨line, lineEnd, s.breaks, s.rest⟩

/-- The scalar that its lines make. -/
def LiteralLines.scalar (chomp : Chomp) (lines : LiteralLines) : Text :=
  match chomp with
  | .strip => lines.text
  | .clip => lines.text ++ lines.lineEnd
  | .keep => lines.text ++ lines.lineEnd ++ lines.breaks

/-- A literal scalar from behind its mark on, whose lines are indented by `least` or more,
and what follows it. -/
def readLiteral? (folded : Bool) (least : Nat) (t : Text) : Option (Text × Text) :=
  (literalHeader? t).map fun (header, t) =>
    let indent := match header.indent with
      | some more => least + more - 1
      | none => Nat.max least (widest 0 0 t)
    let s := skipTo indent 0 t
    let lines :=
      if s.column = indent ∧ s.rest ≠ [] then
        let lines := literalLines folded indent s.rest.length s.rest
        { lines with text := s.breaks ++ lines.text }
      else ⟨[], [], s.breaks, s.rest⟩
    (lines.scalar header.chomp, lines.rest)

end Almanac.Yaml
