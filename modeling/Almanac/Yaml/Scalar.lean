import Almanac.Text.Base64
import Almanac.Yaml.Moment
import Almanac.Yaml.Numeral
import Almanac.Yaml.Property

/-!
# Kinds of nodes

What a node stands for. A tag says it; without one, a scalar that is written plainly has
the kind of its form: nothing, a truth value, a number, a moment, and otherwise text.

* `read_ofPlain_of_text`: **a scalar of none of the other forms is text.**
-/

namespace Almanac.Yaml

/-- A word in the cases in which it is known: small, with a capital, and in capitals. -/
def casings (word : Text) : List Text :=
  [word, word.take 1 |>.map Char.toUpper |>.append (word.drop 1), word.map Char.toUpper]

/-- The spellings of nothing. -/
def nullSpellings : List Text := [] :: ['~'] :: casings "null".toList

/-- The words for truth values. -/
def truthWords : List (Text × Bool) :=
  [("yes", true), ("no", false), ("true", true), ("false", false), ("on", true), ("off", false)].map
    fun p => (p.1.toList, p.2)

/-- What a node is read as. Some kinds stand for no value: the key under which other
mappings are merged into one, the key of a mapping's standard value, and what is not known
at all. -/
inductive Kind where
  | null
  | bool
  | int
  | double
  | moment
  | bytes
  | text
  | merge
  | standard
  | sequence
  | mapping
  | set
  | pairs
  | unknown
deriving DecidableEq

namespace Kind

/-- The tags that every document knows, without their common beginning. -/
def coreTags : List (Text × Kind) :=
  [("null", null), ("bool", bool), ("int", int), ("float", double), ("timestamp", moment),
   ("binary", bytes), ("str", text), ("merge", merge), ("value", standard), ("seq", sequence),
   ("map", mapping), ("set", set), ("omap", pairs), ("pairs", pairs)].map
    fun p => (p.1.toList, p.2)

/-- The kind that a full tag says. -/
def ofTag (tag : Text) : Kind :=
  if tag.take coreBeginning.length = coreBeginning then
    (coreTags.lookup (tag.drop coreBeginning.length)).getD unknown
  else unknown

/-- A mark that by itself is no text. -/
def isReserved (t : Text) : Bool := t == ['!'] || t == ['&'] || t == ['*']

/-- The kind of a scalar of that form. -/
def ofForm (t : Text) : Kind :=
  if nullSpellings.contains t then null
  else if truthWords.any fun p => (casings p.1).contains t then bool
  else if Numeral.isDouble t then double
  else if Numeral.isInteger t then int
  else if isMoment t then moment
  else if t = ['<', '<'] then merge
  else if t = ['='] then standard
  else if isReserved t then unknown
  else text

/-- The kind of a plain scalar. One line feed at its end does not belong to its form. -/
def ofPlain (t : Text) : Kind :=
  if t = ['\n'] then text else ofForm (Text.withoutFinalBreak t)

/-- The bytes of a text of ASCII in base 64. -/
def readBytes (t : Text) : Except ExternalFault Value :=
  if t.all fun c => c.toNat < 128 then
    match Text.Base64.decode t with
    | some b => .ok (.bytes b)
    | none => .error .badDocument
  else .error .badDocument

/-- The moment of a text, if there is such a one. -/
def readMoment (t : Text) : Except ExternalFault Value :=
  match moment? (Text.withoutFinalBreak t) with
  | some m => if m.occurs then .ok (.moment m) else .error .noSuchMoment
  | none => .error .wrongShape

/-- The value of a scalar of a kind. If it is no number, it gets the payload. -/
def read (kind : Kind) (payload : Nat) (t : Text) : Except ExternalFault Value :=
  match kind with
  | null => .ok .null
  | bool =>
    match truthWords.lookup (t.map Char.toLower) with
    | some b => .ok (.bool b)
    | none => .error .unknownWord
  | int => (Numeral.integer t).map .int
  | double => (Numeral.double payload t).map .double
  | moment => readMoment t
  | bytes => readBytes t
  | text => .ok (.text t)
  | merge | standard | sequence | mapping | set | pairs | unknown => .error .badDocument

end Kind

/-- A text that, written plainly, would not be read as that text. -/
def isTaken (t : Text) : Bool := Kind.ofPlain t != .text

/-- **A scalar of none of the other forms is text.** -/
theorem read_ofPlain_of_text {t : Text} (h : isTaken t = false) (payload : Nat) :
    (Kind.ofPlain t).read payload t = .ok (.text t) := by
  simp only [isTaken, bne_eq_false_iff_eq] at h
  rw [h, Kind.read]

end Almanac.Yaml
