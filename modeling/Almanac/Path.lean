import Almanac.Text.Basic

/-!
# Paths

The parts of a path, seen from a working directory. `.` and empty parts mean nothing, and
`..` leads upward, also out of the working directory.
-/

namespace Almanac

/-- The parts of a path. -/
abbrev Path := List Text

namespace Path

/-- The part that leads upward. -/
def up : Text := ['.', '.']

/-- The part from which a path starts that does not start from the working directory. -/
def root : Text := ['/']

/-- The parts of a path that mean something. -/
def ofText (t : Text) : Path := (Text.pieces '/' t).filter fun p => p ≠ [] ∧ p ≠ ['.']

/-- A path as it is shown. -/
def display (p : Path) : Text := if p.isEmpty then ['.'] else Text.joined ['/'] p

/-- The directory above a place. -/
def above (here : Path) : Path :=
  if here.getLast?.all fun c => c = up then here ++ [up] else here.dropLast

/-- One part further. -/
def further (here : Path) (part : Text) : Path := if part = up then above here else here ++ [part]

/-- The place that a path names, whatever is on the way. -/
def resolved (p : Path) : Path := p.foldl further []

/-- The place that a text names. -/
def place (t : Text) : Path :=
  if t.head? = some '/' then root :: (ofText t).resolved.dropWhile (fun c => c = up)
  else (ofText t).resolved

/-- Every part of the path can be a name: none holds the character of code zero. -/
def isNameable (p : Path) : Bool := p.all fun part => !part.contains '\x00'

/-- The greatest number of bytes in a part of a path. -/
def partLimit : Nat := 255

/-- The greatest number of bytes in a path as a whole. -/
def limit : Nat := 4095

/-- How many bytes a text takes. -/
def byteCount (t : Text) : Nat := t.foldl (fun n c => n + c.utf8Size) 0

/-- A part of a path that is too long for a name. -/
def isLongPart (part : Text) : Bool := partLimit < byteCount part

/-- A text that is too long for a path. -/
def isLong (t : Text) : Bool := limit < byteCount t

/-- The place is not below the working directory. -/
def isOutside (p : Path) : Bool := p.head? == some up || p.head? == some root

end Path

end Almanac
