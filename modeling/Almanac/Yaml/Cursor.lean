import Almanac.Yaml.Character

/-!
# Places in a document

A place is known by the text that lies ahead of it, and by how far it is from the start
of the document and of its line.

* `upTo_ahead`: **to go up to what follows is to have that ahead.**
-/

namespace Almanac.Yaml

/-- A place in a document. -/
structure Cursor where
  ahead : Text
  index : Nat
  line : Nat
  column : Nat
deriving DecidableEq

namespace Cursor

/-- The start of a document. -/
def start (t : Text) : Cursor := ⟨t, 0, 0, 0⟩

/-- One character further. The mark of a byte order has no width. -/
def step (c : Cursor) : Cursor :=
  match c.ahead with
  | [] => c
  | d :: r =>
    if isBreak d then ⟨r, c.index + 1, c.line + 1, 0⟩
    else ⟨r, c.index + 1, c.line, if d = orderMark then c.column else c.column + 1⟩

/-- Some characters further. -/
def advance : Nat → Cursor → Cursor
  | 0, c => c
  | n + 1, c => advance n c.step

/-- Up to what follows, which is an end of what lies ahead. -/
def upTo (c : Cursor) (rest : Text) : Cursor := c.advance (c.ahead.length - rest.length)

theorem ahead_step (c : Cursor) : c.step.ahead = c.ahead.drop 1 := by
  unfold step
  split
  · simp_all
  · split <;> simp_all

theorem ahead_advance (n : Nat) (c : Cursor) : (c.advance n).ahead = c.ahead.drop n := by
  induction n generalizing c with
  | zero => rfl
  | succ n ih => rw [advance, ih, ahead_step, List.drop_drop, Nat.add_comm]

/-- **To go up to what follows is to have that ahead.** -/
theorem upTo_ahead {c : Cursor} {front rest : Text} (h : c.ahead = front ++ rest) :
    (c.upTo rest).ahead = rest := by
  simp [upTo, ahead_advance, h]

end Cursor

end Almanac.Yaml
