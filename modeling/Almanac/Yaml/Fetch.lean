import Almanac.Yaml.Literal
import Almanac.Yaml.Plain
import Almanac.Yaml.Token

/-!
# Fetching a token

The character that lies ahead, and at times the one behind it, says what token starts
there. A token says for what comes behind it whether a key may start there, and its place
closes the block collections that stand further to the right.

* `fetchHere_nil`: **where the text ends, the document does.**
-/

namespace Almanac.Yaml

namespace Lexer

/-- The end of the document. -/
def fetchEnd (lx : Lexer) : Except ExternalFault Lexer := do
  let lx ← (lx.unwind fun _ => true).dropCandidate
  return { lx with tokens := .finish :: lx.tokens }

/-- A mark that a document starts or ends. -/
def fetchBoundary (lx : Lexer) (t : Token) : Except ExternalFault Lexer := do
  let lx ← (lx.unwind fun _ => true).dropCandidate
  return (lx.allowing false).take t 3

/-- A line in front of a document. -/
def fetchDirective (lx : Lexer) : Except ExternalFault Lexer := do
  let lx ← (lx.unwind fun _ => true).dropCandidate
  let (d, rest) ← readDirective (lx.cursor.ahead.drop 1)
  return (lx.allowing false).takeUpTo (.directive d) rest

/-- A bracket or brace that opens a flow collection, which may be a key as a whole. -/
def fetchFlowStart (lx : Lexer) (t : Token) : Except ExternalFault Lexer := do
  let lx ← lx.saveCandidate
  let lx := { lx with candidate := none, outer := lx.candidate :: lx.outer }
  return (lx.allowing true).take t 1

/-- A bracket or brace that closes a flow collection. -/
def fetchFlowEnd (lx : Lexer) (t : Token) : Except ExternalFault Lexer := do
  let lx ← lx.dropCandidate
  match lx.outer with
  | [] => malformed
  | k :: outer => return ({ lx with candidate := k, outer := outer }.allowing false).take t 1

/-- A comma between the parts of a flow collection. -/
def fetchSeparator (lx : Lexer) : Except ExternalFault Lexer := do
  return ((← lx.dropCandidate).allowing true).take .separator 1

/-- A dash in front of an item. -/
def fetchItem (lx : Lexer) : Except ExternalFault Lexer := do
  if !lx.inFlow && !lx.keyMayStart then malformed
  else return ((← (lx.openBlock .blockSequence).dropCandidate).allowing true).take .item 1

/-- A question mark in front of a key. -/
def fetchKey (lx : Lexer) : Except ExternalFault Lexer := do
  if !lx.inFlow && !lx.keyMayStart then malformed
  else return ((← (lx.openBlock .blockMapping).dropCandidate).allowing (!lx.inFlow)).take .key 1

/-- A colon in front of a value. What may be a key is one then; it opens a block mapping
if none is open at its column. -/
def fetchValue (lx : Lexer) : Except ExternalFault Lexer := do
  match lx.candidate with
  | some k =>
    let later := lx.tokens.take (lx.tokens.length - k.number)
    let earlier := lx.tokens.drop (lx.tokens.length - k.number)
    let opens := lx.opensAt k.column
    return ({ lx with
      candidate := none
      columns := if opens then k.column :: lx.columns else lx.columns
      tokens := later ++ Token.key :: ((if opens then [Token.blockMapping] else []) ++ earlier)
      }.allowing false).take .value 1
  | none =>
    if !lx.inFlow && !lx.keyMayStart then malformed
    else return ((lx.openBlock .blockMapping).allowing (!lx.inFlow)).take .value 1

/-- A node's name, or the name of a node that is repeated. -/
def fetchName (lx : Lexer) (named : Text → Token) : Except ExternalFault Lexer := do
  let lx ← lx.saveCandidate
  match readName? (lx.cursor.ahead.drop 1) with
  | some (name, rest) => return (lx.allowing false).takeUpTo (named name) rest
  | none => malformed

/-- A node's tag. -/
def fetchTag (lx : Lexer) : Except ExternalFault Lexer := do
  let lx ← lx.saveCandidate
  match readTag? lx.cursor.ahead with
  | some (t, rest) => return (lx.allowing false).takeUpTo (.tag t) rest
  | none => malformed

/-- A scalar on lines of its own. -/
def fetchLiteral (lx : Lexer) (folded : Bool) : Except ExternalFault Lexer := do
  let lx ← lx.dropCandidate
  match readLiteral? folded (Nat.max 1 lx.least) (lx.cursor.ahead.drop 1) with
  | some (t, rest) => return (lx.allowing true).takeUpTo (.scalar false t) rest
  | none => malformed

/-- A scalar between quotes. -/
def fetchQuoted (lx : Lexer) (read : Text → Except ExternalFault (Text × Text)) :
    Except ExternalFault Lexer := do
  let lx ← lx.saveCandidate
  let (t, rest) ← read (lx.cursor.ahead.drop 1)
  return (lx.allowing false).takeUpTo (.scalar false t) rest

/-- A scalar without quotes, which starts with `c`. -/
def fetchPlain (lx : Lexer) (c : Char) : Except ExternalFault Lexer := do
  let lx ← lx.saveCandidate
  let p := readPlain lx.inFlow lx.least .none (lx.cursor.ahead.drop 1)
  return (lx.allowing p.crossed).takeUpTo (.scalar true (c :: p.text)) p.rest

/-- The token that starts here. -/
def fetchHere (lx : Lexer) : Except ExternalFault Lexer :=
  match lx.cursor.ahead with
  | [] => lx.fetchEnd
  | c :: r =>
    let atMargin := lx.cursor.column == 0
    -- in a flow collection the marks of keys and values need no blank behind them
    let marks := fun d => c == d && (lx.inFlow || endsWord r)
    if atMargin && c == '%' then lx.fetchDirective
    else if atMargin && startsWithMark startMark (c :: r) then lx.fetchBoundary .documentStart
    else if atMargin && startsWithMark endMark (c :: r) then lx.fetchBoundary .documentEnd
    else if c = '[' then lx.fetchFlowStart .sequenceStart
    else if c = '\x7b' then lx.fetchFlowStart .mappingStart
    else if c = ']' then lx.fetchFlowEnd .sequenceEnd
    else if c = '\x7d' then lx.fetchFlowEnd .mappingEnd
    else if c = ',' then lx.fetchSeparator
    else if c == '-' && endsWord r then lx.fetchItem
    else if marks '?' then lx.fetchKey
    else if marks ':' then lx.fetchValue
    else if c = '*' then lx.fetchName .alias
    else if c = '&' then lx.fetchName .anchor
    else if c = '!' then lx.fetchTag
    else if c == '|' && !lx.inFlow then lx.fetchLiteral false
    else if c == '>' && !lx.inFlow then lx.fetchLiteral true
    else if c = '\'' then lx.fetchQuoted (readSingle .none)
    else if c = '"' then lx.fetchQuoted readDouble
    else if startsPlain lx.inFlow c r then lx.fetchPlain c
    else malformed

/-- The next token, with what its place opens and closes. -/
def fetch (lx : Lexer) : Except ExternalFault Lexer := do
  let lx ← lx.skip.settle
  (lx.unwind fun column => lx.cursor.column < column).fetchHere

/-- **Where the text ends, the document does.** -/
theorem fetchHere_nil {lx : Lexer} (h : lx.cursor.ahead = []) : lx.fetchHere = lx.fetchEnd := by
  simp [fetchHere, h]

end Lexer

end Almanac.Yaml
