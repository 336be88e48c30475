import Almanac.Yaml.Data
import Almanac.Yaml.KeyOrder

/-!
# What is to be written

A document is written from an outline: a tree in which the keys are in order. What stems
from a node of a document and is a collection or a moment carries the node's number. Where
such a node comes again, only its number is left, so that an outline ends where the data
go round in a circle.
-/

namespace Almanac.Yaml

/-- Why a collection is no plain list or mapping. -/
inductive CollectionTag where
  | pair
  | set
deriving DecidableEq

/-- A tree that is to be written. -/
inductive Outline where
  | scalar (number : Option Nat) (v : Value)
  | list (number : Option Nat) (tag : Option CollectionTag) (items : List Outline)
  | mapping (number : Option Nat) (tag : Option CollectionTag) (entries : List (Outline × Outline))
  | again (number : Nat)
deriving Inhabited

namespace Outline

/-- A scalar that stems from no node. -/
def ofScalar (v : Value) : Outline := .scalar none v

/-- A set: a mapping of its members to nothing. -/
def setOf (number : Option Nat) (members : List Value) : Outline :=
  .mapping number (some .set)
    ((sortByKey id members).map fun v => (ofScalar v, ofScalar .null))

mutual
/-- The outline of a value, which stems from no node. -/
def ofValue : Value → Outline
  | .pair v w => .list none (some .pair) [ofValue v, ofValue w]
  | .list items => .list none none (ofValues items)
  | .set items => setOf none items
  | .mapping entries =>
    .mapping none none ((sortByKey (·.1) (ofEntries entries)).map fun e => (ofScalar e.1, e.2))
  | .enclosing _ => ofScalar .null
  | v => ofScalar v

/-- The outlines of values. -/
def ofValues : List Value → List Outline
  | [] => []
  | v :: vs => ofValue v :: ofValues vs

/-- The outlines of the values of entries, each with its key. -/
def ofEntries : List (Value × Value) → List (Value × Outline)
  | [] => []
  | (k, v) :: es => (k, ofValue v) :: ofEntries es
end

/-! ## From the nodes of a document -/

/-- What has been outlined so far: the numbers of the nodes that would come again. -/
abbrev Seen := List Nat

/-- Outlines several things, one after another. -/
def each {α β : Type} (outline : Seen → α → β × Seen) (seen : Seen) : List α → List β × Seen
  | [] => ([], seen)
  | x :: rest =>
    let (o, seen) := outline seen x
    let (os, seen) := each outline seen rest
    (o :: os, seen)

/-- The outline of a node; `fuel` bounds how many collections are inside each other. -/
def ofNode (doc : Document) : Nat → Seen → Nat → Outline × Seen
  | 0, seen, _ => (ofScalar .null, seen)
  | fuel + 1, seen, n =>
    if seen.contains n then (.again n, seen)
    else
      let part := ofNode doc fuel
      let entry := fun (seen : Seen) (e : Nat × Nat) =>
        let (k, seen) := part seen e.1
        let (v, seen) := part seen e.2
        ((k, v), seen)
      match doc.datum n with
      | .scalar (.moment m) => (.scalar (some n) (.moment m), n :: seen)
      | .scalar v => (ofScalar v, seen)
      | .list items =>
        let (os, seen) := each part (n :: seen) items
        (.list (some n) none os, seen)
      | .mapping entries =>
        let (os, seen) := each entry (n :: seen) (sortByKey (fun e => doc.scalar e.1) entries)
        (.mapping (some n) none os, seen)
      | .set members =>
        let members := sortByKey doc.scalar members
        let (os, seen) := each part (n :: seen) members
        (.mapping (some n) (some .set) (os.map fun o => (o, ofScalar .null)), seen)
      | .pairs entries =>
        let (os, seen) := each entry (n :: seen) entries
        (.list (some n) none (os.map fun o => .list none (some .pair) [o.1, o.2]), seen)

/-! ## Settings -/

/-- What a setting holds: a value that stems from no document, or that of a node. -/
inductive Leaf where
  | value (v : Value)
  | node (n : Nat)

/-- The outline of what a setting holds. -/
def ofLeaf (doc : Document) (seen : Seen) : Leaf → Outline × Seen
  | .value v => (ofValue v, seen)
  | .node n => ofNode doc (doc.data.size + 1) seen n

/-- The outline of named settings. -/
def ofSettings (doc : Document) (seen : Seen) (settings : List (Text × Leaf)) : Outline × Seen :=
  let setting := fun (seen : Seen) (p : Text × Leaf) =>
    let (o, seen) := ofLeaf doc seen p.2
    ((ofScalar (.text p.1), o), seen)
  let (os, seen) := each setting seen (sortByKey (fun p => .text p.1) settings)
  (.mapping none none os, seen)

/-- The outline of named sections of settings. -/
def ofSections (doc : Document) (sections : List (Text × List (Text × Leaf))) : Outline :=
  let named := fun (seen : Seen) (p : Text × List (Text × Leaf)) =>
    let (o, seen) := ofSettings doc seen p.2
    ((ofScalar (.text p.1), o), seen)
  .mapping none none (each named [] (sortByKey (fun p => .text p.1) sections)).1

/-! ## What comes again -/

mutual
/-- The numbers of the nodes that come again, in the order in which they do. -/
def repeated : Outline → List Nat
  | .scalar .. => []
  | .list _ _ items => repeatedItems items
  | .mapping _ _ entries => repeatedEntries entries
  | .again n => [n]

/-- What comes again in several outlines. -/
def repeatedItems : List Outline → List Nat
  | [] => []
  | o :: os => repeated o ++ repeatedItems os

/-- What comes again in entries. -/
def repeatedEntries : List (Outline × Outline) → List Nat
  | [] => []
  | (k, v) :: es => repeated k ++ (repeated v ++ repeatedEntries es)
end

mutual
/-- How many collections are inside each other. -/
def depth : Outline → Nat
  | .scalar .. | .again _ => 0
  | .list _ _ items => depthOfItems items + 1
  | .mapping _ _ entries => depthOfEntries entries + 1

/-- The greatest depth of several outlines. -/
def depthOfItems : List Outline → Nat
  | [] => 0
  | o :: os => Nat.max (depth o) (depthOfItems os)

/-- The greatest depth of the values of entries. -/
def depthOfEntries : List (Outline × Outline) → Nat
  | [] => 0
  | (_, v) :: es => Nat.max (depth v) (depthOfEntries es)
end

theorem depthOfEntries_le {entries : List (Outline × Outline)} {bound : Nat}
    (h : ∀ e ∈ entries, e.2.depth ≤ bound) : depthOfEntries entries ≤ bound := by
  induction entries with
  | nil => rw [depthOfEntries]; exact Nat.zero_le _
  | cons e entries ih =>
    obtain ⟨k, v⟩ := e
    rw [depthOfEntries]
    exact Nat.max_le.2 ⟨h (k, v) (by simp), ih fun d hd => h d (by simp [hd])⟩

/-- Where nothing would come again, each thing is outlined by itself. -/
theorem each_of_nil {α β γ : Type} {outline : Seen → β → γ × Seen} {g : α → β} {f : α → γ}
    {items : List α} (h : ∀ x ∈ items, outline [] (g x) = (f x, [])) :
    each outline [] (items.map g) = (items.map f, []) := by
  induction items with
  | nil => rfl
  | cons x items ih =>
    have hrest := ih fun y hy => h y (by simp [hy])
    rw [List.map_cons, each, h x (by simp)]
    simp only [hrest, List.map_cons]

theorem repeatedEntries_of_nil {entries : List (Outline × Outline)}
    (h : ∀ e ∈ entries, repeated e.1 = [] ∧ repeated e.2 = []) : repeatedEntries entries = [] := by
  induction entries with
  | nil => simp [repeatedEntries]
  | cons e rest ih =>
    obtain ⟨k, v⟩ := e
    have hkv := h (k, v) (by simp)
    simp [repeatedEntries, hkv, ih fun d hd => h d (by simp [hd])]

end Outline

end Almanac.Yaml
