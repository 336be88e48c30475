import Almanac.Text.Basic

/-!
# The order of texts

Texts are ordered character by character, by code point; a text comes before its
continuations.
-/

namespace Almanac.Text

/-- The order of texts by code point. -/
def precedes : Text → Text → Bool
  | [], _ => true
  | _ :: _, [] => false
  | c :: s, d :: t => if c = d then precedes s t else c.toNat < d.toNat

/-- Puts an item before the first one whose text does not precede its own. -/
def insertBy {α : Type} (key : α → Text) (x : α) : List α → List α
  | [] => [x]
  | y :: ys => if precedes (key x) (key y) then x :: y :: ys else y :: insertBy key x ys

/-- The items in the order of their texts. -/
def sortBy {α : Type} (key : α → Text) : List α → List α
  | [] => []
  | x :: xs => insertBy key x (sortBy key xs)

end Almanac.Text
