import Almanac.Config.Basic
import Almanac.FileTree
import Almanac.Yaml.Printer

/-!
# Configurations in files

A configuration is written as a document with one mapping per section, and read from a
document that is a mapping of sections. A document that says nothing is the default
configuration. Settings that were read from one document can share parts, and are written
so that they share them again.
-/

namespace Almanac.Config

/-! ## Reading -/

/-- A document, and the nodes of it from which settings stem. -/
structure Origins where
  document : Yaml.Document
  nodes : List ((Section × Text) × Nat)

namespace Origins

/-- No setting stems from a document. -/
def none : Origins := ⟨.empty, []⟩

/-- A setting, or all of a section, no longer stems from the document. -/
def erase (o : Origins) (sec : Section) (key : Text) : Origins :=
  { o with nodes := o.nodes.filter fun p => p.1.1 ≠ sec ∨ key ≠ wholeName ∧ p.1.2 ≠ key }

/-- The settings of a section that have a text as their key, with their nodes. -/
def ofSection (doc : Yaml.Document) (sec : Section) (n : Nat) : List ((Section × Text) × Nat) :=
  match doc.datum n with
  | .mapping entries => entries.filterMap fun e =>
    match doc.scalar e.1 with
    | .text key => some ((sec, key), e.2)
    | _ => Option.none
  | _ => []

end Origins

/-- The entries of a document's root that are sections, each with its node. -/
def sectionNodes (doc : Yaml.Document) (entries : List (Nat × Nat)) : List (Section × Nat) :=
  entries.filterMap fun e =>
    match doc.scalar e.1 with
    | .text name => (Section.ofName? name).map fun sec => (sec, e.2)
    | _ => none

/-- The value of a section, with the value of each setting by itself. -/
def sectionValue (doc : Yaml.Document) (n : Nat) : Value :=
  match doc.datum n with
  | .mapping entries => .mapping (entries.map fun e => (doc.scalar e.1, doc.value e.2))
  | _ => doc.value n

/-- A configuration, and where its settings stem from. -/
structure Loaded where
  config : Config
  origins : Origins

/-- The configuration that a document denotes. -/
def ofDocument (doc : Yaml.Document) : Except Fault Loaded :=
  match doc.datum doc.root with
  | .mapping entries => do
    let nodes := sectionNodes doc entries
    let c ← ofValue (.mapping (nodes.map fun p => (.text p.1.name, sectionValue doc p.2)))
    return ⟨c, doc, nodes.flatMap fun p => Origins.ofSection doc p.1 p.2⟩
  | _ =>
    if (doc.value doc.root).isTrue then .error (.external .wrongShape) else .ok ⟨.default, .none⟩

/-- What of a file can be read. -/
def source : FileContent → Yaml.Source
  | .text t => .ofText t
  | .bytes b => .ofBytes b

/-- The configuration that a file's content denotes. -/
def ofContent (content : FileContent) : Except Fault Loaded :=
  match Yaml.Document.read (source content) with
  | .ok doc => ofDocument doc
  | .error kind => .error (.external kind)

/-- Reads a configuration from a file, with the origins of its settings. -/
def loadWhole (tree : FileTree) (path : Text) : Except Fault Loaded :=
  let p := Path.ofText path
  match tree.place p with
  | .nothing => .error (.config (.notFound p.display))
  | _ => do ofContent (← tree.content p)

/-- Reads a configuration from a file. -/
def load (tree : FileTree) (path : Text) : Except Fault Config :=
  (loadWhole tree path).map (·.config)

/-! ## Writing -/

/-- How many collections can be inside each other in what is written. -/
def writingLimit : Nat := 325

/-- The outline of a configuration, whose settings may stem from a document. -/
def outline (c : Config) (o : Origins) : Yaml.Outline :=
  .ofSections o.document (Section.all.map fun sec =>
    (sec.name, (c.get sec).map fun p =>
      (p.1, match o.nodes.lookup (sec, p.1) with
        | some n => .node n
        | none => .value p.2)))

/-- The configuration as a document. -/
def toDocument (c : Config) (o : Origins) : Text := Yaml.document (c.outline o)

/-- Why a configuration cannot be written: a value in it cannot be shown, or its
collections are too deep. -/
def unwritable? (c : Config) (o : Origins) : Option ExternalFault :=
  match c.toValue.unshowable? with
  | some kind => some kind
  | none => if writingLimit < (c.outline o).depth then some .tooDeep else none

/-- Writes a configuration to a file, with what its settings share. If it cannot be written,
the file is left empty. -/
def saveWhole (c : Config) (o : Origins) (tree : FileTree) (path : Text) : FileTree.Change :=
  let p := Path.ofText path
  match c.unwritable? o with
  | none => tree.write p (.text (c.toDocument o))
  | some f =>
    let (r, tree) := tree.write p (.text [])
    (r.bind fun _ => .error (.external f), tree)

/-- Writes a configuration to a file. -/
def save (c : Config) (tree : FileTree) (path : Text) : FileTree.Change :=
  c.saveWhole .none tree path

end Almanac.Config
