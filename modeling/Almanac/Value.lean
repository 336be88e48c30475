import Almanac.Moment
import Almanac.Text.Quoted

/-!
# Values

What a cell of a table or a setting of a configuration holds: a scalar, a list, a set or a
mapping. A collection may lie inside itself; its value goes as far as the place where it
starts over.

* `Value.display`, `Value.asText`: a value as text, and the text under which a filter compares it.
  Both are what is written where nothing stands in the way of writing it.
* `Value.key?`: **two values name the same thing exactly when their keys are equal**;
  numbers are compared as numbers, so `1`, `1.0` and `true` share one key.
* `Value.collect`: the entries of a mapping, one for each key.
-/

namespace Almanac

/-- A cell's or a setting's value. -/
inductive Value where
  | null
  | bool (b : Bool)
  | int (i : Int)
  | double (x : Binary64)
  | text (t : Text)
  | bytes (b : List UInt8)
  | moment (m : Moment)
  | pair (first second : Value)
  | list (items : List Value)
  | set (items : List Value)
  | mapping (entries : List (Value × Value))
  /-- The list or the mapping that this place is inside of. -/
  | enclosing (isMapping : Bool)
deriving Inhabited

namespace Value

/-- What a value is when it serves as a name: a number that is whole is the integer, and a
moment is its place in time. -/
inductive Key where
  | null
  | int (i : Int)
  | double (x : Binary64)
  | text (t : Text)
  | bytes (b : List UInt8)
  | moment (ordinal : Moment.Scale × Int)
deriving DecidableEq

/-- The integer that a double equals, if it is whole. -/
def wholeDouble? : Binary64 → Option Int
  | .finite negative rank =>
    let units := Binary64.scaled rank.val
    let whole := units / unitsPerOne
    if units % unitsPerOne = 0 then some (if negative then -(whole : Int) else whole)
    else none
  | _ => none

/-- The key of a value; collections have none. -/
def key? : Value → Option Key
  | null => some .null
  | bool b => some (.int (if b then 1 else 0))
  | int i => some (.int i)
  | double x => some (match wholeDouble? x with | some i => .int i | none => .double x)
  | text t => some (.text t)
  | bytes b => some (.bytes b)
  | moment m => some (.moment m.ordinal)
  | pair .. | list _ | set _ | mapping _ | enclosing _ => none

/-- Gives a key a value among entries that are already there. -/
def putEntry (key : Key) (k v : Value) : List (Value × Value) → List (Value × Value)
  | [] => [(k, v)]
  | (l, w) :: rest =>
    if l.key? = some key then (l, v) :: rest else (l, w) :: putEntry key k v rest

/-- The entries of a mapping, made one after another. A repeated key keeps its first place
and its last value. -/
def collect (pairs : List (Value × Value)) : List (Value × Value) :=
  pairs.foldl (fun done p =>
    match p.1.key? with
    | some key => putEntry key p.1 p.2 done
    | none => done) []

/-- Everything is true except nothing, `false`, zero and what is empty. -/
def isTrue : Value → Bool
  | null => false
  | bool b => b
  | int i => i != 0
  | double (.finite _ rank) => rank.val != 0
  | double _ => true
  | text t => !t.isEmpty
  | bytes b => !b.isEmpty
  | list items | set items => !items.isEmpty
  | mapping entries => !entries.isEmpty
  | moment _ | pair .. | enclosing _ => true

mutual
/-- A value as it is shown inside a list or a mapping: text stands between quotes. -/
def shown : Value → Text
  | null => "None".toList
  | bool true => "True".toList
  | bool false => "False".toList
  | int i => Text.ofInt i
  | double x => Text.ofDouble x
  | text t => Text.quoted t
  | bytes b => Text.quotedBytes b
  | moment m => m.shown
  | pair v w => '(' :: (shown v ++ ',' :: ' ' :: shown w ++ [')'])
  | list items => '[' :: (Text.joined [',', ' '] (shownItems items) ++ [']'])
  | set [] => "set()".toList
  | set items => '\x7b' :: (Text.joined [',', ' '] (shownItems items) ++ ['\x7d'])
  | mapping entries => '\x7b' :: (Text.joined [',', ' '] (shownEntries entries) ++ ['\x7d'])
  | enclosing isMapping => if isMapping then "\x7b...\x7d".toList else "[...]".toList

/-- The items of a list as they are shown. -/
def shownItems : List Value → List Text
  | [] => []
  | v :: vs => shown v :: shownItems vs

/-- The entries of a mapping as they are shown. -/
def shownEntries : List (Value × Value) → List Text
  | [] => []
  | (k, v) :: es => (shown k ++ ':' :: ' ' :: shown v) :: shownEntries es
end

/-- A value by itself as text: as it is shown, but text stands without quotes and a moment
is written out. -/
def display : Value → Text
  | text t => t
  | moment m => m.text
  | v => shown v

/-- The text under which a filter compares a value. Nothing has none, and the truth
values are written small. -/
def asText : Value → Option Text
  | null => none
  | bool b => some (if b then "true".toList else "false".toList)
  | v => some v.display

mutual
/-- Two values are equal, constructor by constructor. -/
def same : Value → Value → Bool
  | null, null => true
  | bool a, bool b => a == b
  | int i, int j => i == j
  | double x, double y => x == y
  | text s, text t => s == t
  | bytes a, bytes b => a == b
  | moment m, moment n => m == n
  | pair a b, pair c d => same a c && same b d
  | list xs, list ys | set xs, set ys => sameItems xs ys
  | mapping es, mapping fs => sameEntries es fs
  | enclosing a, enclosing b => a == b
  | _, _ => false

/-- Two lists of values are equal. -/
def sameItems : List Value → List Value → Bool
  | [], [] => true
  | v :: vs, w :: ws => same v w && sameItems vs ws
  | _, _ => false

/-- Two lists of entries are equal. -/
def sameEntries : List (Value × Value) → List (Value × Value) → Bool
  | [], [] => true
  | (k, v) :: es, (l, w) :: fs => same k l && same v w && sameEntries es fs
  | _, _ => false
end

mutual
/-- **The comparison decides equality.** -/
theorem same_iff (v w : Value) : same v w = true ↔ v = w := by
  cases v with
  | pair a b => cases w with
    | pair c d => simp [same, same_iff a c, same_iff b d]
    | _ => simp [same]
  | _ => cases w <;> simp [same, sameItems_iff, sameEntries_iff]

theorem sameItems_iff (vs ws : List Value) : sameItems vs ws = true ↔ vs = ws := by
  cases vs <;> cases ws <;> simp [sameItems, same_iff, sameItems_iff]

theorem sameEntries_iff (es fs : List (Value × Value)) : sameEntries es fs = true ↔ es = fs := by
  match es, fs with
  | [], [] => simp [sameEntries]
  | [], _ :: _ => simp [sameEntries]
  | _ :: _, [] => simp [sameEntries]
  | (k, v) :: es, (l, w) :: fs =>
    simp [sameEntries, same_iff k l, same_iff v w, sameEntries_iff es fs]
end

instance : DecidableEq Value := fun v w => decidable_of_iff _ (same_iff v w)

@[simp] theorem key?_text (t : Text) : (text t).key? = some (.text t) := rfl
@[simp] theorem display_text (t : Text) : (text t).display = t := rfl
@[simp] theorem asText_text (t : Text) : (text t).asText = some t := rfl
@[simp] theorem asText_null : null.asText = none := rfl

end Value

end Almanac
