import Almanac.Yaml.Character

/-!
# Gaps

What stands between two words of a scalar. Blanks inside a line belong to the scalar.
Where the scalar goes on in another line, the blanks around the line's end do not: one
line's end is read as a space, and of several the first is left out.
-/

namespace Almanac.Yaml

/-- What stands between two words of a scalar: blanks, or line ends. Of these are kept
the first one and the others, as they are read, and how many blanks follow the last. -/
inductive Gap where
  | blanks (t : Text)
  | lines (first : Text) (more : Text) (column : Nat)
deriving DecidableEq

namespace Gap

/-- No gap. -/
def none : Gap := blanks []

/-- The gap goes on with a blank. -/
def afterBlank (c : Char) : Gap → Gap
  | blanks t => blanks (t ++ [c])
  | lines first more column => lines first more (column + 1)

/-- The gap goes on with a line's end. -/
def afterBreak (c : Char) : Gap → Gap
  | blanks _ => lines [breakRead c] [] 0
  | lines first more _ => lines first (more ++ [breakRead c]) 0

/-- What the gap is read as. -/
def text : Gap → Text
  | blanks t => t
  | lines first more _ =>
    if first = ['\n'] then (if more = [] then [' '] else more) else first ++ more

/-- The gap holds a line's end. -/
def crosses : Gap → Bool
  | blanks _ => false
  | lines _ _ _ => true

@[simp] theorem text_none : none.text = [] := rfl
@[simp] theorem crosses_none : none.crosses = false := rfl

end Gap

end Almanac.Yaml
