import Almanac.Yaml.Document
import Almanac.Yaml.MemberOrder
import Almanac.Yaml.Merge

/-!
# What a document denotes

The nodes of a document denote data. Scalars are read at once. Collections start empty and
wait until it is their turn to be filled, in the order in which they were met; so of several
faults the one that is least deep counts, and among these the first. A node that is repeated
denotes the same data each time, and a collection can be inside itself.

As a value, a datum is followed into its parts, as far as the places where a collection
starts over.

* `datum_put`: **a node denotes what was put in its place.**
* `value_scalar`: a scalar is its own value.
-/

namespace Almanac.Yaml

/-- What a node denotes. The parts of collections are given by their numbers; keys, and the
members of a set, are the numbers of scalars. -/
inductive Datum where
  | scalar (v : Value)
  | list (items : List Nat)
  | mapping (entries : List (Nat × Nat))
  | set (members : List Nat)
  | pairs (entries : List (Nat × Nat))
deriving Inhabited

/-- The nodes of a document, what is known of what they denote, and the collections that
are to be filled. -/
structure Building where
  graph : Graph
  data : Array (Option Datum)
  waiting : List Nat

namespace Building

/-- What a node denotes, if that is known. -/
def datum? (b : Building) (n : Nat) : Option Datum := (b.data[n]?).join

/-- What a node denotes is known. -/
def put (b : Building) (n : Nat) (d : Datum) : Building :=
  { b with data := b.data.setIfInBounds n (some d) }

/-- A collection that is to be filled yet. -/
def await (b : Building) (n : Nat) (empty : Datum) : Building :=
  { b.put n empty with waiting := b.waiting ++ [n] }

/-- The text of a scalar. A mapping stands for the scalar under its standard key; `fuel`
bounds how often. -/
def textOf (g : Graph) : Nat → Nat → Except ExternalFault Text
  | 0, _ => .error .tooDeep
  | fuel + 1, n =>
    match (g.node n).content with
    | .scalar t => .ok t
    | .mapping entries =>
      match entries.find? fun e => (g.node e.1).kind = .standard with
      | some (_, standard) => textOf g fuel standard
      | none => .error .badDocument
    | .sequence _ => .error .badDocument

/-- The value of a node that is read as a scalar. What is no number is told from others of
its kind by the node. A moment is a scalar by itself. -/
def scalarOf (g : Graph) (n : Nat) : Except ExternalFault Value := do
  let t ← textOf g (g.size + 1) n
  match (g.node n).kind, (g.node n).content with
  | .moment, .mapping _ => .error .wrongKind
  | kind, _ => kind.read (n + 1) t

/-- Makes known what a node denotes, unless it is known already. -/
def construct (b : Building) (n : Nat) : Except ExternalFault Building :=
  if (b.datum? n).isSome then .ok b
  else match (b.graph.node n).kind with
  | .sequence => .ok (b.await n (.list []))
  | .mapping => .ok (b.await n (.mapping []))
  | .set => .ok (b.await n (.set []))
  | .pairs => .ok (b.await n (.pairs []))
  | .merge | .standard | .unknown => .error .badDocument
  | _ => (scalarOf b.graph n).map fun v => b.put n (.scalar v)

/-- Makes known what several nodes denote. -/
def constructAll (b : Building) (ns : List Nat) : Except ExternalFault Building :=
  ns.foldlM construct b

/-- The value of a scalar's node. -/
def scalar? (b : Building) (n : Nat) : Option Value :=
  match b.datum? n with
  | some (.scalar v) => some v
  | _ => none

/-- Makes known what an entry's key and value denote. Only a scalar can be a key. -/
def constructEntry (b : Building) (e : Nat × Nat) : Except ExternalFault Building := do
  let b ← b.construct e.1
  if (b.scalar? e.1).isNone then .error .badDocument else b.construct e.2

/-- Gives a key a value among entries that are already there. -/
def putEntry (b : Building) (key : Option Value.Key) (e : Nat × Nat) :
    List (Nat × Nat) → List (Nat × Nat)
  | [] => [e]
  | (k, n) :: rest =>
    if (b.scalar? k).bind Value.key? = key then (k, e.2) :: rest
    else (k, n) :: b.putEntry key e rest

/-- The entries of a mapping, made one after another. A repeated key keeps its first place
and its last value. -/
def collect (b : Building) (entries : List (Nat × Nat)) : List (Nat × Nat) :=
  entries.foldl (fun done e => b.putEntry ((b.scalar? e.1).bind Value.key?) e done) []

/-- The entry of a node that is a mapping of no more than that. -/
def onlyEntry (g : Graph) (n : Nat) : Except ExternalFault (Nat × Nat) :=
  match (g.node n).content with
  | .mapping [e] => .ok e
  | _ => .error .badDocument

/-- Makes known what one of a sequence of pairs denotes. -/
def constructPair (b : Building) (n : Nat) : Except ExternalFault Building := do
  let e ← onlyEntry b.graph n
  (← b.construct e.1).construct e.2

/-- Makes known what the entries of a mapping denote, with those that it takes over. -/
def constructEntries (b : Building) (n : Nat) :
    Except ExternalFault (Building × List (Nat × Nat)) :=
  match (b.graph.node n).content with
  | .mapping _ => do
    let g ← b.graph.merge n
    let b ← (g.entries n).foldlM constructEntry { b with graph := g }
    return (b, b.collect (g.entries n))
  | _ => .error .badDocument

/-- Fills a collection whose turn it is. What it holds must suit its kind. -/
def expand (b : Building) (n : Nat) : Except ExternalFault Building :=
  match (b.graph.node n).kind, (b.graph.node n).content with
  | .sequence, .sequence items => do return (← b.constructAll items).put n (.list items)
  | .pairs, .sequence items => do
    let b ← items.foldlM constructPair b
    return b.put n (.pairs (← items.mapM (onlyEntry b.graph)))
  | .mapping, _ => do
    let (b, entries) ← b.constructEntries n
    return b.put n (.mapping entries)
  | .set, _ => do
    let (b, entries) ← b.constructEntries n
    return b.put n (.set (entries.map (·.1)))
  | _, _ => .error .badDocument

/-- Fills the collections that are waiting, and those that are met on the way. Each waits
only once, so that `fuel` bounds their number. -/
def expandAll : Nat → Building → Except ExternalFault Building
  | 0, b => .ok b
  | fuel + 1, b =>
    match b.waiting with
    | [] => .ok b
    | n :: rest => do expandAll fuel (← expand { b with waiting := rest } n)

/-- What is known of the nodes of a document at first. -/
def start (g : Graph) : Building := ⟨g, Array.replicate g.size none, []⟩

/-- **A node denotes what was put in its place.** -/
theorem datum_put {b : Building} {n : Nat} {d : Datum} (h : n < b.data.size) :
    (b.put n d).datum? n = some d := by
  simp [put, datum?, h]

end Building

/-- What the nodes of a document denote, and the node that holds the others. -/
structure Document where
  data : Array Datum
  root : Nat

namespace Document

/-- A document without nodes. -/
def empty : Document := ⟨#[], 0⟩

/-- What the nodes of a tree denote. -/
def ofTree (t : Tree) : Except ExternalFault Document := do
  let b ← (Building.start t.graph).construct t.root
  let b ← b.expandAll (t.graph.size + 1)
  return ⟨b.data.map fun d => d.getD (.scalar .null), t.root⟩

/-- Reads a document. -/
def read (s : Source) : Except ExternalFault Document := do ofTree (← readDocument s)

/-- What a node denotes. -/
def datum (doc : Document) (n : Nat) : Datum := doc.data.getD n (.scalar .null)

/-- The value of a scalar's node. -/
def scalar (doc : Document) (n : Nat) : Value :=
  match doc.datum n with
  | .scalar v => v
  | _ => .null

/-- What stands for a collection inside itself. -/
def again (doc : Document) (n : Nat) : Value :=
  match doc.datum n with
  | .mapping _ => .enclosing true
  | _ => .enclosing false

/-- The value of a node inside of some others; `fuel` bounds their number. -/
def valueInside (doc : Document) : Nat → List Nat → Nat → Value
  | 0, _, _ => .null
  | fuel + 1, outside, n =>
    if outside.contains n then doc.again n
    else
      let part := valueInside doc fuel (n :: outside)
      match doc.datum n with
      | .scalar v => v
      | .list items => .list (items.map part)
      | .mapping entries => .mapping (entries.map fun e => (doc.scalar e.1, part e.2))
      | .set members => .set (memberOrder (members.map doc.scalar))
      | .pairs entries => .list (entries.map fun e => .pair (part e.1) (part e.2))

/-- The value of a node. -/
def value (doc : Document) (n : Nat) : Value := doc.valueInside (doc.data.size + 1) [] n

/-- A scalar is its own value. -/
theorem value_scalar {doc : Document} {n : Nat} {v : Value} (h : doc.datum n = .scalar v) :
    doc.value n = v := by
  simp [value, valueInside, h]

end Document

end Almanac.Yaml
