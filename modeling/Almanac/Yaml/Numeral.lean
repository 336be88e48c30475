import Almanac.Number.Arithmetic
import Almanac.Number.Radix

/-!
# Numbers in documents

Which plain scalars have the form of a number, and which number a scalar is read as. An
integer is decimal, octal, hexadecimal, binary or in base 60; a double is decimal or in
base 60. Any scalar can be tagged as a number, so reading is not confined to the form:
it fails on its own account. What is read as no number is either the one that has a
spelling of its own, or one of many that are told apart by a payload.
-/

namespace Almanac.Yaml.Numeral

/-! ## Forms -/

/-- A digit or a separator of digits. -/
def isDigitOr_ (c : Char) : Bool := c.isDigit || c == '_'

/-- A digit of base 16 or a separator of digits. -/
def isHexDigitOr_ (c : Char) : Bool :=
  isDigitOr_ c || ('a' ≤ c && c ≤ 'f') || ('A' ≤ c && c ≤ 'F')

/-- A place of a base 60 numeral after the first: one or two digits below 60. -/
def isSixtieth : Text → Bool
  | [c] => c.isDigit
  | [c, d] => '0' ≤ c && c ≤ '5' && d.isDigit
  | _ => false

/-- The first place of a base 60 numeral. -/
def isLeadingPlace (t : Text) : Bool := t.head?.any Char.isDigit && t.all isDigitOr_

/-- The form of an integer. -/
def isInteger (t : Text) : Bool :=
  match (Text.signed t).2 with
  | '0' :: 'b' :: r => !r.isEmpty && r.all fun c => c == '0' || c == '1' || c == '_'
  | '0' :: 'x' :: r => !r.isEmpty && r.all isHexDigitOr_
  | '0' :: r => r.all fun c => ('0' ≤ c && c ≤ '7') || c == '_'
  | body =>
    match Text.pieces ':' body with
    | first :: rest => isLeadingPlace first && rest.all isSixtieth
    | [] => false

/-- An exponent: `e`, a sign and digits; there may be none. -/
def isExponent : Text → Bool
  | [] => true
  | e :: s :: r => (e == 'e' || e == 'E') && (s == '+' || s == '-') && !r.isEmpty && r.all Char.isDigit
  | _ => false

/-- Digits, a point, digits and perhaps an exponent. Digits stand before the point or
right behind it. -/
def isDecimal (t : Text) : Bool :=
  let whole := t.takeWhile isDigitOr_
  match t.dropWhile isDigitOr_ with
  | '.' :: r =>
    (if whole.isEmpty then r.head?.any Char.isDigit else whole.head?.any Char.isDigit) &&
      isExponent (r.dropWhile isDigitOr_)
  | _ => false

/-- The last place of a double in base 60: one below 60, a point and digits. -/
def isLastPlace (t : Text) : Bool :=
  isSixtieth (t.takeWhile Char.isDigit) &&
    match t.dropWhile Char.isDigit with
    | '.' :: r => r.all isDigitOr_
    | _ => false

/-- A double in base 60. -/
def isSixtieths (t : Text) : Bool :=
  match Text.pieces ':' t with
  | first :: second :: rest =>
    isLeadingPlace first &&
      match (second :: rest).reverse with
      | last :: middle => isLastPlace last && middle.all isSixtieth
      | [] => false
  | _ => false

/-- The spellings of infinity without its sign. -/
def infinitySpellings : List Text := [".inf", ".Inf", ".INF"].map String.toList

/-- The spellings of what is no number. -/
def nanSpellings : List Text := [".nan", ".NaN", ".NAN"].map String.toList

/-- The form of a double. One that starts with its point has no sign. -/
def isDouble (t : Text) : Bool :=
  let body := (Text.signed t).2
  infinitySpellings.contains body || nanSpellings.contains t || isSixtieths body ||
    (isDecimal body && (body == t || body.head? != some '.'))

/-! ## Reading -/

/-- The text without separators of digits. -/
def unseparated (t : Text) : Text := t.filter fun c => c != '_'

/-- The sum of places of base 60, the last place first. -/
def sumPlaces (sum : Int) (base : Nat) : List Int → Int
  | [] => sum
  | p :: ps => sumPlaces (sum + p * base) (base * 60) ps

/-- An integer without its sign. -/
def magnitude (t : Text) : Except ExternalFault Int :=
  match t with
  | '0' :: 'b' :: r => Radix.two.integer r
  | '0' :: 'x' :: r => Radix.sixteen.integer r
  | '0' :: _ => Radix.eight.integer t
  | _ =>
    ((Text.pieces ':' t).mapM Radix.ten.integer).map fun places =>
      sumPlaces 0 1 places.reverse

/-- The integer that a scalar is read as. -/
def integer (t : Text) : Except ExternalFault Int :=
  match Text.signed (unseparated t) with
  | (_, []) => .error .emptyNumeral
  | (negative, body) => (magnitude body).map fun i => if negative then -i else i

/-- The sum of places of base 60 as a double, the last place first. No place lies beyond
every double. -/
def sumDoubles (sum : Binary64) (base : Nat) : List Binary64 → Except ExternalFault Binary64
  | [] => .ok sum
  | p :: ps =>
    if Binary64.isBeyond base then .error .wholeTooGreat
    else sumDoubles (sum.add (p.times base)) (base * 60) ps

/-- A double in decimal; blanks around it do not count. -/
def place (t : Text) : Except ExternalFault Binary64 :=
  let t := Text.stripNumeral t
  if (Text.signed t).2 = "infinity".toList then .ok (.infinite (Text.signed t).1)
  else
    match Text.toDouble? t with
    | some x => .ok x
    | none => .error .unreadableNumeral

/-- A double in decimal or in base 60. -/
def places (t : Text) : Except ExternalFault Binary64 :=
  if t.contains ':' then do
    sumDoubles (Binary64.zero false) 1 (← (Text.pieces ':' t).mapM place).reverse
  else place t

/-- A double without its sign, with the payload that what is no number gets unless it has a
spelling of its own. -/
def size (payload : Nat) (t : Text) : Except ExternalFault Binary64 :=
  if infinitySpellings.contains t then .ok (.infinite false)
  else if nanSpellings.contains t then .ok (.nan 0)
  else (places t).map (Binary64.marked payload)

/-- The double that a scalar is read as. -/
def double (payload : Nat) (t : Text) : Except ExternalFault Binary64 :=
  match (unseparated t).map Char.toLower with
  | [] => .error .emptyNumeral
  | t => (size payload (Text.signed t).2).map fun x => if (Text.signed t).1 then x.negated else x

end Almanac.Yaml.Numeral
