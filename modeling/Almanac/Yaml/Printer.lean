import Almanac.Text.Base64
import Almanac.Yaml.Outline
import Almanac.Yaml.Quoted

/-!
# Writing documents

Collections are written by lines, two more spaces for what is inside; a sequence in a
mapping stands at the mapping's own column. A text is written plainly where that reads
back as the text; otherwise between single quotes; and between double quotes if it holds
characters that only an escape can show. What comes again has a name, and is written once.

No line of a scalar is broken, however long it is. It may be broken at a space behind the eightieth
column, and is when documents are written for people; a reader puts it together again, so that the
same is read back either way.

* `scalarText_of_plain`: **what is written plainly is written as it is.**
* `words_of_nil`: a node without a name and a tag is written without words in front.
-/

namespace Almanac.Yaml

/-! ## Scalars -/

/-- Characters that a scalar without escapes may hold. -/
def isWritable (c : Char) : Bool :=
  c == '\n' || c == '\u0085' ||
    Text.inRanges [(0x20, 0x7E), (0xA0, 0xD7FF), (0xE000, 0xFEFE), (0xFF00, 0xFFFD),
      (0x10000, 0x10FFFE)] c

/-- Somewhere a space and a line's end are neighbours. -/
def hasLooseBreak : Text → Bool
  | c :: d :: r => (c == ' ' && isBreak d) || (isBreak c && d == ' ') || hasLooseBreak (d :: r)
  | _ => false

/-- A text that needs escapes. -/
def needsEscapes (t : Text) : Bool := t.any (fun c => !isWritable c) || hasLooseBreak t

/-- Characters that start no plain text. -/
def leadingMarks : Text :=
  ['#', ',', '[', ']', '\x7b', '\x7d', '&', '*', '!', '|', '>', '\'', '"', '%', '@', '\x60']

/-- Somewhere a colon stands before a space or at the end, or a number sign behind a space. -/
def hasInnerMark : Text → Bool
  | [] => false
  | [c] => c == ':'
  | c :: d :: r => (c == ':' && d == ' ') || (c == ' ' && d == '#') || hasInnerMark (d :: r)

/-- A mark with a space or nothing behind it, at the text's start. -/
def startsWithIndicator (t : Text) : Bool :=
  match t with
  | c :: r => (c == '?' || c == '-' || c == ':') && r.head?.all fun d => d == ' '
  | [] => false

/-- A text on one line that reads back when it is written as it is. -/
def isPlain (t : Text) : Bool :=
  !t.isEmpty && !t.any isBreak && !isTaken t && t.head? != some ' ' && t.getLast? != some ' ' &&
    !(t.head?.any leadingMarks.contains) && t.take 3 != startMark && t.take 3 != endMark &&
    !startsWithIndicator t && !hasInnerMark t

/-- The letters that stand for characters behind a backslash. -/
def escapeLetters : List (Char × Char) :=
  [('\x00', '0'), ('\x07', 'a'), ('\x08', 'b'), ('\t', 't'), ('\n', 'n'), ('\x0b', 'v'),
   ('\x0c', 'f'), ('\r', 'r'), ('\x1b', 'e'), ('"', '"'), ('\\', '\\'), ('\u0085', 'N'),
   ('\u00a0', '_'), ('\u2028', 'L'), ('\u2029', 'P')]

/-- A character that stands for itself between double quotes. -/
def isUnescaped (c : Char) : Bool :=
  c != '"' && c != '\\' &&
    Text.inRanges [(0x20, 0x7E), (0xA0, 0x2027), (0x202A, 0xD7FF), (0xE000, 0xFEFE),
      (0xFF00, 0xFFFD)] c

/-- A code in hexadecimal. -/
def codeDigits (width n : Nat) : Text := (Text.hexDigits width n).map Char.toUpper

/-- One character between double quotes. -/
def escapedChar (c : Char) : Text :=
  if isUnescaped c then [c]
  else match escapeLetters.lookup c with
  | some letter => ['\\', letter]
  | none =>
    if c.toNat < 0x100 then '\\' :: 'x' :: codeDigits 2 c.toNat
    else if c.toNat < 0x10000 then '\\' :: 'u' :: codeDigits 4 c.toNat
    else '\\' :: 'U' :: codeDigits 8 c.toNat

/-- Some spaces. -/
def spaces (n : Nat) : Text := List.replicate n ' '

/-- The body of a scalar between single quotes: quotes are doubled, and of line ends that
start with a line feed there is one more. The lines that follow are indented. -/
def singleBody (indent : Nat) (afterBreak : Bool) : Text → Text
  | [] => if afterBreak then spaces indent else []
  | c :: r =>
    if isBreak c then
      (if afterBreak = false ∧ c = '\n' then ['\n', c] else [c]) ++ singleBody indent true r
    else
      (if afterBreak then spaces indent else []) ++ (doubled [c] ++ singleBody indent false r)

/-- A text as a scalar; further lines of it are indented, and long ones are not broken. -/
def scalarText (indent : Nat) (t : Text) : Text :=
  if needsEscapes t then '"' :: (t.flatMap escapedChar ++ ['"'])
  else if isPlain t then t
  else '\'' :: (singleBody indent false t ++ ['\''])

/-- A double as a scalar: always with a point. -/
def scalarDouble (x : Binary64) : Text :=
  match x with
  | .nan _ => ".nan".toList
  | .infinite negative => (if negative then ['-'] else []) ++ ".inf".toList
  | x =>
    let t := Text.ofDouble x
    match Text.cut? 'e' t with
    | some (a, b) => if a.contains '.' then t else a ++ ".0e".toList ++ b
    | none => t

/-- The start of a line at a column. -/
def newLine (indent : Nat) : Text := '\n' :: spaces indent

/-- Bytes as a scalar: lines of base 64 behind a tag. -/
def scalarBytes (indent : Nat) (bytes : List UInt8) : Text :=
  "!!binary ".toList ++
    if bytes.isEmpty then ['"', '"']
    else '|' :: (Text.Base64.encodedLines bytes).flatMap fun line => newLine indent ++ line

/-- A value that is no collection, as a scalar. -/
def scalar (indent : Nat) : Value → Text
  | .null => "null".toList
  | .bool b => if b then "true".toList else "false".toList
  | .int i => Text.ofInt i
  | .double x => scalarDouble x
  | .text t => scalarText indent t
  | .bytes b => scalarBytes indent b
  | .moment m => m.text
  | .pair .. | .list _ | .enclosing false => ['[', ']']
  | .set _ | .mapping _ | .enclosing true => ['\x7b', '\x7d']

/-! ## Names and tags -/

/-- The name of what is the first, the second, … to come again. -/
def anchorName (place : Nat) : Text :=
  let digits := Text.ofNat (place + 1)
  "id".toList ++ List.replicate (3 - digits.length) '0' ++ digits

/-- The name of a node, if it is among those that come again. -/
def name? (repeated : List Nat) (number : Option Nat) : Option Text :=
  number.bind fun n => (repeated.idxOf? n).map anchorName

/-- The text of a collection's tag. -/
def CollectionTag.text : CollectionTag → Text
  | pair => "!!python/tuple".toList
  | set => "!!set".toList

/-- What is written in front of a node: its name and its tag, as far as it has them. -/
def words (name : Option Text) (tag : Option CollectionTag) : List Text :=
  (name.map ('&' :: ·)).toList ++ (tag.map CollectionTag.text).toList

/-! ## Keys -/

/-- The space that a short tag of the value's kind would take. -/
def tagWidth : Value → Nat
  | .null | .bool _ => 6
  | .double _ => 7
  | .bytes _ => 8
  | .moment _ => 11
  | _ => 5

/-- The width that a key, its name and its tag must not reach. -/
def keyLimit : Nat := 128

/-- A scalar that is written on the line of its value, before the colon, if it is a key: a
short one, that is not empty and ends no line. Others get a mark of their own. -/
def isShortKey (name : Option Text) (k : Value) : Bool :=
  let width := (name.getD []).length + tagWidth k
  match k with
  | .text t => !t.isEmpty && !t.any isBreak && decide (width + t.length < keyLimit)
  | .bytes _ => false
  | k => decide (width + (scalar 0 k).length < keyLimit)

/-! ## Collections -/

/-- The entries or items at a column. -/
def layOut (indent : Nat) (parts : List Text) : Text := Text.joined (newLine indent) parts

/-- What a node stands behind: a key on the same line, the colon of a key with a mark of
its own, or a dash. -/
inductive Behind where
  | key
  | colon
  | dash
deriving DecidableEq

/-- A collection's words and the space or the line's end behind them, and the column of its
parts. It starts on the same line behind a colon or a dash, unless it has words. -/
def opening (behind : Behind) (indent : Nat) (isMapping : Bool) (ws : List Text) : Text × Nat :=
  let lead := ws.flatMap (' ' :: ·)
  if behind != .key && ws.isEmpty then ([' '], indent + 2)
  else
    let column := if isMapping || behind == .dash then indent + 2 else indent
    (lead ++ newLine column, column)

/-- What is written in one piece, behind its words. -/
def inline (ws : List Text) (t : Text) : Text := ' ' :: Text.joined [' '] (ws ++ [t])

mutual
/-- What is written of a node behind what it stands behind, in a collection at a column. -/
def write (repeated : List Nat) (behind : Behind) (indent : Nat) : Outline → Text
  | .again n => inline [] ('*' :: (name? repeated (some n)).getD [])
  | .scalar number v => inline (words (name? repeated number) none) (scalar (indent + 2) v)
  | .list number tag items =>
    let ws := words (name? repeated number) tag
    if items.isEmpty then inline ws ['[', ']']
    else
      let (lead, column) := opening behind indent false ws
      lead ++ layOut column (writeItems repeated column items)
  | .mapping number tag entries =>
    let ws := words (name? repeated number) tag
    if entries.isEmpty then inline ws ['\x7b', '\x7d']
    else
      let (lead, column) := opening behind indent true ws
      lead ++ layOut column (writeEntries repeated column entries)

/-- The items of a list, each behind its dash. -/
def writeItems (repeated : List Nat) (indent : Nat) : List Outline → List Text
  | [] => []
  | o :: os => ('-' :: write repeated .dash indent o) :: writeItems repeated indent os

/-- The entries of a mapping, each with its key in front. -/
def writeEntries (repeated : List Nat) (indent : Nat) : List (Outline × Outline) → List Text
  | [] => []
  | (k, v) :: es =>
    let key := (write repeated .colon indent k).drop 1
    let isShort := match k with
      | .scalar number k => isShortKey (name? repeated number) k
      | _ => true
    let entry :=
      if isShort then key ++ ':' :: write repeated .key indent v
      else '?' :: ' ' :: (key ++ (newLine indent ++ ':' :: write repeated .colon indent v))
    entry :: writeEntries repeated indent es
end

/-- A mapping as a document. -/
def document (o : Outline) : Text :=
  let repeated := o.repeated.eraseDups
  match o with
  | .mapping _ _ (e :: es) => layOut 0 (writeEntries repeated 0 (e :: es)) ++ ['\n']
  | o => (write repeated .colon 0 o).drop 1 ++ ['\n']

/-- **What is written plainly is written as it is.** -/
theorem scalarText_of_plain {indent : Nat} {t : Text} (h : needsEscapes t = false)
    (hp : isPlain t = true) : scalarText indent t = t := by
  simp [scalarText, h, hp]

/-- A node without a name and a tag is written without words in front. -/
theorem words_of_nil (number : Option Nat) : words (name? [] number) none = [] := by
  cases number <;> simp [words, name?]

end Almanac.Yaml
