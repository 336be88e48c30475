import Almanac.Yaml.Cursor
import Almanac.Yaml.Property
import Almanac.Yaml.Quoted

/-!
# Tokens

A document is read as tokens before its nodes are. Block collections open and close with
the indentation, so their tokens stand for columns and not for characters.

A scalar, or a flow collection, is the key of an entry if a colon follows it. Whether one
does is known only behind it, so what may yet be a key is remembered, on each level of
flow collections by itself. A key stands on one line, and not far from its colon.

* `settle_of_key_none`: **where nothing may yet be a key, nothing is forgotten.**
-/

namespace Almanac.Yaml

/-- A part of a document. -/
inductive Token where
  | directive (d : Directive)
  | documentStart
  | documentEnd
  | blockSequence
  | blockMapping
  | blockEnd
  | sequenceStart
  | sequenceEnd
  | mappingStart
  | mappingEnd
  | separator
  | item
  | key
  | value
  | alias (name : Text)
  | anchor (name : Text)
  | tag (t : WrittenTag)
  | scalar (plain : Bool) (t : Text)
  | finish
  | fault (f : ExternalFault)
deriving DecidableEq

/-- What may yet be a key: how many tokens come before it, where it starts, and whether
only a key may stand there. -/
structure Candidate where
  number : Nat
  required : Bool
  index : Nat
  line : Nat
  column : Nat
deriving DecidableEq

/-- How far from its start a key's colon may stand. -/
def keyReach : Nat := 1024

/-- Where the reading of tokens has come to: the place; the columns of the block
collections that are open, innermost first; what may yet be a key on this level, and on
the levels around it; whether a key may start here; and the tokens, latest first. -/
structure Lexer where
  cursor : Cursor
  columns : List Nat
  candidate : Option Candidate
  outer : List (Option Candidate)
  keyMayStart : Bool
  tokens : List Token

namespace Lexer

/-- The start of a document. -/
def start (t : Text) : Lexer := ⟨.start t, [], none, [], true, []⟩

/-- Inside a flow collection. -/
def inFlow (lx : Lexer) : Bool := !lx.outer.isEmpty

/-- The column from which on a scalar belongs to the innermost block collection. -/
def least (lx : Lexer) : Nat :=
  match lx.columns with
  | [] => 0
  | column :: _ => column + 1

/-- Can no longer be a key. -/
def isStale (c : Cursor) (k : Candidate) : Bool :=
  k.line != c.line || decide (k.index + keyReach < c.index)

/-- Forgets what can no longer be a key. -/
def forget (c : Cursor) : Option Candidate → Except ExternalFault (Option Candidate)
  | none => .ok none
  | some k =>
    if isStale c k then if k.required then malformed else .ok none else .ok (some k)

/-- Forgets, on every level, what can no longer be a key. -/
def settle (lx : Lexer) : Except ExternalFault Lexer := do
  let candidate ← forget lx.cursor lx.candidate
  let outer ← lx.outer.mapM (forget lx.cursor)
  return { lx with candidate := candidate, outer := outer }

/-- The tokens before the first one that may yet be a key. -/
def settled (lx : Lexer) : List Token :=
  let numbers := (lx.candidate :: lx.outer).filterMap fun k => k.map (·.number)
  lx.tokens.reverse.take (numbers.foldl Nat.min lx.tokens.length)

/-- The text behind spaces, comments and line ends, and whether there are line ends
before it. A comment has started already if `comment` says so. -/
def skipGap (comment : Bool) : Text → Text × Bool
  | [] => ([], false)
  | c :: r =>
    if isBreak c then ((skipGap false r).1, true)
    else if comment || c == '#' then skipGap true r
    else if c = ' ' then skipGap false r
    else (c :: r, false)

/-- Passes over what stands between tokens. In a block collection, a key may start on a
new line. -/
def skip (lx : Lexer) : Lexer :=
  let cursor := if lx.cursor.index = 0 ∧ lx.cursor.ahead.head? = some orderMark then lx.cursor.step
    else lx.cursor
  let (rest, crossed) := skipGap false cursor.ahead
  { lx with
    cursor := cursor.upTo rest
    keyMayStart := lx.keyMayStart || (crossed && !lx.inFlow) }

/-- Closes the block collections that stand further to the right. -/
def unwind (lx : Lexer) (isInside : Nat → Bool) : Lexer :=
  if lx.inFlow then lx
  else
    { lx with
      columns := lx.columns.dropWhile isInside
      tokens := (lx.columns.takeWhile isInside).map (fun _ => .blockEnd) ++ lx.tokens }

/-- Nothing may be a key any more on this level; what had to be one is at fault. -/
def dropCandidate (lx : Lexer) : Except ExternalFault Lexer :=
  match lx.candidate with
  | none => .ok lx
  | some k => if k.required then malformed else .ok { lx with candidate := none }

/-- What starts here may be a key. -/
def saveCandidate (lx : Lexer) : Except ExternalFault Lexer :=
  if lx.keyMayStart then do
    let lx ← lx.dropCandidate
    let c := lx.cursor
    let required := !lx.inFlow && lx.columns.head? == some c.column
    return { lx with candidate := some ⟨lx.tokens.length, required, c.index, c.line, c.column⟩ }
  else .ok lx

/-- A block collection may be opened at that column. -/
def opensAt (lx : Lexer) (column : Nat) : Bool :=
  !lx.inFlow && lx.columns.head?.all fun innermost => innermost < column

/-- Opens a block collection here, unless one is open at this column. -/
def openBlock (lx : Lexer) (t : Token) : Lexer :=
  if lx.opensAt lx.cursor.column then
    { lx with columns := lx.cursor.column :: lx.columns, tokens := t :: lx.tokens }
  else lx

/-- Takes some characters as a token. -/
def take (lx : Lexer) (t : Token) (n : Nat) : Lexer :=
  { lx with cursor := lx.cursor.advance n, tokens := t :: lx.tokens }

/-- Takes the characters up to what follows as a token. -/
def takeUpTo (lx : Lexer) (t : Token) (rest : Text) : Lexer :=
  { lx with cursor := lx.cursor.upTo rest, tokens := t :: lx.tokens }

/-- Says whether a key may start behind the token. -/
def allowing (lx : Lexer) (keyMayStart : Bool) : Lexer := { lx with keyMayStart := keyMayStart }

/-- **Where nothing may yet be a key, nothing is forgotten.** -/
theorem settle_of_key_none {lx : Lexer} (h : lx.candidate = none) (ho : lx.outer = []) :
    lx.settle = .ok lx := by
  cases lx
  simp only at h ho
  subst h ho
  rfl

end Lexer

end Almanac.Yaml
