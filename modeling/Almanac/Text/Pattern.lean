import Almanac.Text.Layout

/-!
# Patterns

A pattern is a text with fields between braces. A brace that stands for itself is written
twice. A field has a name, behind which parts of what it names can be selected; it may say
behind an exclamation mark how that is to be taken, and behind a colon how it is to be laid
out. A layout can have fields of its own.
-/

namespace Almanac.Text.Pattern

/-- A field: its name with what selects a part of it, how it is taken, and its layout. -/
structure Field where
  name : Text
  conversion : Option Char
  layout : Text
deriving DecidableEq

/-! ## Fields in a pattern -/

/-- Where the filling of a pattern has come to: between fields; behind one brace; in a
field's name, perhaps in brackets; in the two places behind an exclamation mark; in what
follows a colon, with the number of braces that are open. -/
inductive Position where
  | outside
  | opened
  | closed
  | name (t : Text) (bracketed : Bool)
  | conversion (name : Text)
  | converted (name : Text) (c : Char)
  | layout (f : Field) (depth : Nat)

/-- What a character does to a field, from a position inside it: the position behind it,
or the end of the field. -/
inductive Advance where
  | to (position : Position)
  | finish (f : Field)
  | bad

/-- One character further in a field's name. -/
def inName (t : Text) (c : Char) : Advance :=
  if c = '\x7b' then .bad
  else if c = '\x7d' then .finish ⟨t, none, []⟩
  else if c = ':' then .to (.layout ⟨t, none, []⟩ 1)
  else if c = '!' then .to (.conversion t)
  else .to (.name (t ++ [c]) (c == '['))

/-- One character further in a field. -/
def inField (position : Position) (c : Char) : Advance :=
  match position with
  | .name t false => inName t c
  | .name t true => .to (.name (t ++ [c]) (c != ']'))
  | .conversion t => .to (.converted t c)
  | .converted t d =>
    if c = '\x7d' then .finish ⟨t, some d, []⟩
    else if c = ':' then .to (.layout ⟨t, some d, []⟩ 1)
    else .bad
  | .layout f depth =>
    if c = '\x7d' ∧ depth = 1 then .finish f
    else
      let f := { f with layout := f.layout ++ [c] }
      .to (.layout f (if c = '\x7b' then depth + 1 else if c = '\x7d' then depth - 1 else depth))
  | _ => inName [] c

/-- A pattern that is not well formed. -/
def bad {α : Type} : Except ExternalFault α := .error .badPattern

/-- Fills a pattern with the texts of its fields, one after another. -/
def fill (field : Field → Except ExternalFault Text) (position : Position) :
    Text → Except ExternalFault Text
  | [] =>
    match position with
    | .outside => .ok []
    | _ => bad
  | c :: r =>
    match position with
    | .outside =>
      if c = '\x7b' then fill field .opened r
      else if c = '\x7d' then fill field .closed r
      else (fill field .outside r).map (c :: ·)
    | .closed => if c = '\x7d' then (fill field .outside r).map (c :: ·) else bad
    | position =>
      match position, c == '\x7b' with
      | .opened, true => (fill field .outside r).map (c :: ·)
      | position, _ =>
        match inField position c with
        | .to next => fill field next r
        | .bad => bad
        | .finish f =>
          match field f with
          | .ok t => (fill field .outside r).map (t ++ ·)
          | .error f => .error f

/-! ## What fields stand for -/

/-- What fields can name: what a name stands for, the part of that with a name and the one
under a key, how it is taken, and its text in a layout. -/
structure Meaning (α : Type) where
  named : Text → Except ExternalFault α
  part : α → Text → Except ExternalFault α
  member : α → Text → Except ExternalFault α
  taken : α → Char → Except ExternalFault α
  text : α → Text → Except ExternalFault Text

variable {α : Type}

/-- Where a name ends and the selection of a part begins. -/
def isSelector (c : Char) : Bool := c == '.' || c == '['

/-- A number that is too great for a place. -/
def isBeyondPlaces (key : Text) : Bool :=
  key.all isDecimalDigit && decide (Layout.greatest < digitsValue key)

/-- Follows the selection of parts, one after another; `fuel` bounds their number. -/
def follow (m : Meaning α) (a : α) : Nat → Text → Except ExternalFault α
  | _, [] => .ok a
  | 0, _ => bad
  | fuel + 1, c :: r =>
    if c = '.' then
      let name := r.takeWhile fun d => !isSelector d
      if name = [] then bad
      else do follow m (← m.part a name) fuel (r.dropWhile fun d => !isSelector d)
    else if c = '[' then
      match cut? ']' r with
      | some (key, rest) =>
        if key = [] ∨ isBeyondPlaces key then bad else do follow m (← m.member a key) fuel rest
      | none => bad
    else bad

/-- What a field's name stands for. One without a name but a number stands for nothing. -/
def valueOf (m : Meaning α) (name : Text) : Except ExternalFault α := do
  let base := name.takeWhile fun c => !isSelector c
  if base.all isDecimalDigit then bad
  else follow m (← m.named base) name.length (name.drop base.length)

/-- The text of a pattern. Fields can be in the layouts of others, up to a depth. -/
def textOf (m : Meaning α) : Nat → Text → Except ExternalFault Text
  | 0, _ => bad
  | depth + 1, t =>
    fill (fun f => do
      let a ← valueOf m f.name
      let a ← match f.conversion with
        | some c => m.taken a c
        | none => .ok a
      let layout ← if f.layout.contains '\x7b' then textOf m depth f.layout else .ok f.layout
      m.text a layout) .outside t

end Almanac.Text.Pattern
