import Almanac.Yaml.Fetch
import Almanac.Yaml.Source

/-!
# The tokens of a document

A document is read token by token. Where only a part of it can be read, the fault behind
that part is met as soon as something beyond its end has to be looked at: to see where a
token ends, or what it is. A token that is at fault by itself is not saved by what follows.

* `fetchBefore_none`: **without such a fault, a token is what is ahead.**
* `atEnd_iff`: a document has been read when its last token is the end.
-/

namespace Almanac.Yaml

namespace Lexer

/-- The document has been read. -/
def atEnd (lx : Lexer) : Bool := lx.tokens.head? == some .finish

/-- Ways in which a token that breaks off may go on. -/
def continuations : List Text :=
  ["0", "00", "a", ".0", "1.0", " 1.0", " 0", "! 0", "!0! 0", " !0! 0", ">", "0>", "00>"].map
    String.toList ++ (List.range 9).map fun n => List.replicate n '0' ++ ['"']

/-- To tell what starts here, more has to be looked at than lies ahead: a character and the
one behind it, and at the margin the whole of a mark. -/
def isTooNear (c : Cursor) : Bool :=
  match c.ahead with
  | [] | [_] => true
  | [d, _] => c.column == 0 && (d == '-' || d == '.')
  | _ => false

/-- That a token ends here can only be told by looking further than what lies ahead: at the
margin for a mark, behind a colon for a blank. -/
def endsTooNear (lx : Lexer) : Bool :=
  let ahead := lx.cursor.ahead
  let onLine := lx.cursor.column + ahead.length
  match lx.tokens.head? with
  | some (.scalar true _) =>
    ahead.isEmpty || ahead == [':'] ||
      (lx.keyMayStart && (decide (onLine < 3) || (onLine == 3 && isBoundary ahead)))
  | _ => ahead.isEmpty

/-- A tag that is all that lies ahead, where a second mark would close a handle. -/
def isOpenTag : Text → Bool
  | '!' :: '<' :: _ => false
  | '!' :: r => !r.any fun c => c == '!' || c == ' ' || isBreak c
  | _ => false

/-- What comes next is at fault only as it breaks off: it could go on. -/
def breaksOff (lx : Lexer) : Bool :=
  isOpenTag lx.skip.cursor.ahead || continuations.any fun t =>
    let longer := { lx with cursor := { lx.cursor with ahead := lx.cursor.ahead ++ t } }
    match longer.fetch with
    | .error .badDocument => false
    | _ => true

/-- The next token, unless the reading comes to the end of what can be read of the
document, behind which there is a fault. -/
def fetchBefore (fault : Option ExternalFault) (lx : Lexer) : Except ExternalFault Lexer :=
  match fault with
  | none => lx.fetch
  | some f =>
    if lx.skip.cursor.ahead.isEmpty then .error f
    else do
      if isTooNear (← lx.skip.settle).cursor then .error f
      else match lx.fetch with
      | .ok next => if next.endsTooNear then .error f else .ok next
      | .error .unfinishedDocument => .error f
      | .error .badDocument => .error (if lx.breaksOff then f else .badDocument)
      | .error g => .error g

/-- All tokens; `fuel` bounds their number. A fault stands behind the tokens that are
settled before it is met. -/
def run (fault : Option ExternalFault) : Nat → Lexer → List Token
  | 0, lx => lx.tokens.reverse
  | fuel + 1, lx =>
    if lx.atEnd then lx.tokens.reverse
    else match lx.settle with
    | .error f => lx.settled ++ [.fault f]
    | .ok lx =>
      match lx.fetchBefore fault with
      | .error f => lx.settled ++ [.fault f]
      | .ok next => run fault fuel next

/-- Where no fault is ahead, every token is fetched. -/
theorem fetchBefore_none (lx : Lexer) : lx.fetchBefore none = lx.fetch := rfl

/-- A document has been read when its last token is the end. -/
theorem atEnd_iff {lx : Lexer} : lx.atEnd = true ↔ lx.tokens.head? = some .finish := by
  simp [atEnd]

end Lexer

/-- The tokens of a document. -/
def tokensOf (s : Source) : List Token := (Lexer.start s.text).run s.fault (s.text.length + 2)

end Almanac.Yaml
