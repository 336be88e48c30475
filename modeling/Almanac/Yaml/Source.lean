import Almanac.Fault.Basic
import Almanac.Text.Utf8
import Almanac.Yaml.Character

/-!
# What of a document can be read

A document is read in portions, and a portion with a character that no document may hold
is not read at all. Its bytes are decoded in blocks, and what a block at fault would have
brought to a portion is not read either. What lies in front of the fault is read, and the
fault is met only where the reading comes to its end.

* `ofText_of_allowed`: **a text of characters that a document may hold is read whole.**
-/

namespace Almanac.Yaml

/-- What of a document can be read, and the fault that is met behind it. -/
structure Source where
  text : Text
  fault : Option ExternalFault

namespace Source

/-- How many characters are read at a time. Two portions are read at once at the start. -/
def portion : Nat := 4096

/-- Where the portion starts that holds a character. -/
def portionStart (index : Nat) : Nat := if index < 2 * portion then 0 else index - index % portion

/-- The document of a text. -/
def ofText (t : Text) : Source :=
  let t := normaliseBreaks t
  match t.findIdx? fun c => !isAllowed c with
  | none => ⟨t, none⟩
  | some index => ⟨t.take (portionStart index), some .badDocument⟩

/-- How many characters of a text have been read. A carriage return at its end waits for
what follows. -/
def readLength (t : Text) : Nat :=
  (normaliseBreaks t).length - if t.getLast? = some '\r' then 1 else 0

/-- The least number of bytes in a block. -/
def leastBlock : Nat := 8192

/-- The number of bytes in the block behind one of so many bytes and characters: as many
as the rest of the portion may need. -/
def nextBlock (bytes characters missing : Nat) : Nat := Nat.max leastBlock (bytes * missing / characters)

/-- The text before the first block that cannot be decoded, in front of which `before` has
been read; `fuel` bounds the number of blocks. -/
def decodable (before : Text) (begun : Text.Utf8.Begun) (size : Nat) :
    Nat → List UInt8 → Text
  | 0, _ => before
  | fuel + 1, bytes =>
    match Text.Utf8.decodeBlock begun (bytes.take size) with
    | none => before
    | some (t, begun) =>
      if bytes.isEmpty then before
      else
        let all := before ++ t
        let characters := readLength all - readLength before
        let missing := portion - readLength all % portion
        decodable all begun (nextBlock (bytes.take size).length characters missing) fuel
          (bytes.drop size)

/-- The document of bytes. -/
def ofBytes (bytes : List UInt8) : Source :=
  match String.fromUTF8? ⟨bytes.toArray⟩ with
  | some s => ofText s.toList
  | none =>
    let before := decodable [] .none leastBlock bytes.length bytes
    let s := ofText ((normaliseBreaks before).take (portionStart (readLength before)))
    if s.fault.isSome then s else { s with fault := some .badEncoding }

/-- **A text of characters that a document may hold is read whole.** -/
theorem ofText_of_allowed {t : Text} (h : ∀ c ∈ normaliseBreaks t, isAllowed c = true) :
    ofText t = ⟨normaliseBreaks t, none⟩ := by
  have : (normaliseBreaks t).findIdx? (fun c => !isAllowed c) = none := by
    simpa [List.findIdx?_eq_none_iff] using h
  simp [ofText, this]

end Source

end Almanac.Yaml
