import Almanac.Fault.Basic
import Almanac.Yaml.Character

/-!
# Properties of nodes

A node may carry a name, by which it can be repeated, and a tag that says what kind of
value it is. A tag is written in full, or behind a handle that stands for its beginning.
A document may be preceded by directives, which give the version of its language and the
handles of its tags.
-/

namespace Almanac.Yaml

/-- A tag as it is written: its handle, if it has one, and what follows that. -/
structure WrittenTag where
  handle : Option Text
  rest : Text
deriving DecidableEq

/-- A line in front of a document: the version of its language, a handle with what it
stands for, or something else. -/
inductive Directive where
  | version (major : Nat)
  | handle (name beginning : Text)
  | other
deriving DecidableEq

/-- Letters, digits and the two signs that a name may hold. -/
def isNameChar (c : Char) : Bool := c.isAlphanum || c == '-' || c == '_'

/-- What a tag may hold besides. -/
def tagMarks : Text := "-;/?:@&=+$,_.!~*'()[]%".toList

/-- What a name may be followed by besides the end of a word. -/
def nameClosers : Text := ['?', ':', ',', ']', '\x7d', '%', '@', '\x60']

/-- The characters of a tag. -/
def isTagChar (c : Char) : Bool :=
  isNameChar c || tagMarks.contains c

/-- A space, the end of a line, or the end of the text. -/
def endsProperty (t : Text) : Bool := t.head?.all fun c => c == ' ' || isBreak c

/-- A name, from behind its mark on, and what follows it. -/
def readName? (t : Text) : Option (Text × Text) :=
  let name := t.takeWhile isNameChar
  let rest := t.dropWhile isNameChar
  if name ≠ [] ∧ (endsWord rest ∨ rest.head?.any nameClosers.contains) then
    some (name, rest)
  else none

/-! ## Tags -/

/-- The bytes of a tag. A byte can be written as a percent sign and two hexadecimal
digits. -/
def tagBytes? : Text → Option (List UInt8)
  | [] => some []
  | '%' :: a :: b :: r =>
    match hexDigit? a, hexDigit? b, tagBytes? r with
    | some x, some y, some bytes => some ((16 * x + y).toUInt8 :: bytes)
    | _, _, _ => none
  | c :: r => if c = '%' then none else (tagBytes? r).map (c.toNat.toUInt8 :: ·)

/-- A tag with its escapes read; they must make characters. -/
def unescaped? (t : Text) : Option Text :=
  if t.contains '%' then do
    let bytes ← tagBytes? t
    (String.fromUTF8? ⟨bytes.toArray⟩).map String.toList
  else some t

/-- The characters of a tag, which must not be missing, and what follows them. -/
def readTagText? (t : Text) : Option (Text × Text) :=
  let word := t.takeWhile isTagChar
  if word = [] then none else (unescaped? word).map fun word => (word, t.dropWhile isTagChar)

/-- A handle between its two marks, and what follows it. Before a space, one mark is a
handle already. -/
def readHandle? (t : Text) : Option (Text × Text) :=
  match t with
  | '!' :: r =>
    if r.head? = some ' ' then some (['!'], r)
    else match r.dropWhile isNameChar with
    | '!' :: rest => some ('!' :: (r.takeWhile isNameChar ++ ['!']), rest)
    | _ => none
  | _ => none

/-- A tag, from its mark on, and what follows it. It has a handle of its own if there is a
second mark in the word. -/
def readTag? (t : Text) : Option (WrittenTag × Text) := do
  let (tag, rest) ← match t.drop 1 with
    | '<' :: r => do
      let (word, r) ← readTagText? r
      match r with
      | '>' :: rest => some ((⟨none, word⟩ : WrittenTag), rest)
      | _ => none
    | r =>
      if endsWord r then some (⟨none, ['!']⟩, r)
      else do
        let word := r.takeWhile fun c => !(c == ' ' || isBreak c)
        let (handle, r) ← if word.contains '!' then readHandle? t else some (['!'], r)
        let (word, rest) ← readTagText? r
        some (⟨some handle, word⟩, rest)
  if endsProperty rest then some (tag, rest) else none

/-- What comes before the names of the tags that every document knows. -/
def coreBeginning : Text := "tag:yaml.org,2002:".toList

/-- The handles that every document knows, with what they stand for. -/
def coreHandles : List (Text × Text) := [(['!'], ['!']), (['!', '!'], coreBeginning)]

/-- The full text of a tag, if its handle is among those of the document or those that
every document knows. -/
def fullTag? (handles : List (Text × Text)) (tag : WrittenTag) : Option Text :=
  match tag.handle with
  | none => some tag.rest
  | some handle => ((handles ++ coreHandles).lookup handle).map (· ++ tag.rest)

/-! ## Directives -/

/-- The number of a version, and what follows it. -/
def readVersionNumber (t : Text) : Except ExternalFault (Nat × Text) :=
  let digits := t.takeWhile Char.isDigit
  if digits = [] then .error .badDocument
  else if maxIntegerDigits < digits.length then .error .unreadableNumeral
  else .ok (Text.digitsValue digits, t.dropWhile Char.isDigit)

/-- What follows a directive's line, on which nothing more may stand than a comment. -/
def afterDirective (d : Directive) (t : Text) : Except ExternalFault (Directive × Text) :=
  match skipComment? t with
  | some rest => if endsProperty t then .ok (d, rest) else .error .badDocument
  | none => .error .badDocument

/-- A version, from behind the directive's name on. -/
def readVersion (t : Text) : Except ExternalFault (Directive × Text) := do
  let (major, r) ← readVersionNumber (skipSpaces t)
  match r with
  | '.' :: r => do
    let (_, r) ← readVersionNumber r
    afterDirective (.version major) r
  | _ => .error .badDocument

/-- A handle and what it stands for, from behind the directive's name on. -/
def readHandleDirective (t : Text) : Except ExternalFault (Directive × Text) :=
  match readHandle? (skipSpaces t) with
  | some (name, r) =>
    if r.head? = some ' ' then
      match readTagText? (skipSpaces r) with
      | some (beginning, r) => afterDirective (.handle name beginning) r
      | none => .error .badDocument
    else .error .badDocument
  | none => .error .badDocument

/-- A directive, from behind its mark on, and what follows its line. -/
def readDirective (t : Text) : Except ExternalFault (Directive × Text) :=
  let name := t.takeWhile isNameChar
  let rest := t.dropWhile isNameChar
  if name = [] ∨ endsProperty rest = false then .error .badDocument
  else if name = "YAML".toList then readVersion rest
  else if name = "TAG".toList then readHandleDirective rest
  else .ok (.other, (skipLine rest).drop 1)

end Almanac.Yaml
