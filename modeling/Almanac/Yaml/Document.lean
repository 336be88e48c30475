import Almanac.Yaml.Graph
import Almanac.Yaml.Tokens

/-!
# Documents

How the tokens of a document make its nodes. A text holds one document, which may be
empty; marks and directives may stand around it. A node gets its number before its parts
do, so that these can repeat it.
-/

namespace Almanac.Yaml

/-- The tokens that are left, the nodes so far, those of them that have names, what the
document's handles stand for, and how many collections are open. -/
structure Remaining where
  tokens : List Token
  graph : Graph
  named : List (Text × Nat)
  handles : List (Text × Text)
  depth : Nat

/-- The number of a node, and what is left behind it. -/
abbrev NodeRead := Except ExternalFault (Nat × Remaining)

/-- What a collection holds, and what is left behind it. -/
abbrev ContentRead := Except ExternalFault (Content × Remaining)

/-- The name and the full tag of a node. -/
structure Properties where
  name : Option Text
  tag : Option Text

namespace Properties

/-- The tag that leaves the kind to the form. -/
def formTag : Text := ['!']

/-- The kind of a scalar: its tag says it, or its form. -/
def scalarKind (p : Properties) (plain : Bool) (t : Text) : Kind :=
  match p.tag with
  | none => if plain then .ofPlain t else .text
  | some tag => if tag = formTag then .ofPlain t else .ofTag tag

/-- The kind of a collection, which is the usual one if no tag says another. -/
def collectionKind (p : Properties) (usual : Kind) : Kind :=
  match p.tag with
  | none => usual
  | some tag => if tag = formTag then usual else .ofTag tag

end Properties

/-- How many collections can be inside each other. -/
def nestingLimit : Nat := 488

namespace Remaining

/-- What is left without its first token. -/
def next (s : Remaining) : Remaining := { s with tokens := s.tokens.drop 1 }

/-- The first token that is left. -/
def head (s : Remaining) : Token := s.tokens.headD .finish

/-- No rule allows the token that comes next. -/
def refuse {α : Type} (s : Remaining) : Except ExternalFault α :=
  match s.head with
  | .fault f => .error f
  | _ => malformed

/-- One more node. -/
def add (s : Remaining) (node : Node) : Nat × Remaining :=
  (s.graph.size, { s with graph := s.graph.add node })

/-- One more node, with a name if it has one. No name is given twice. -/
def addNamed (s : Remaining) (name : Option Text) (node : Node) : NodeRead :=
  match name with
  | none => .ok (s.add node)
  | some name =>
    if (s.named.lookup name).isSome then malformed
    else .ok (s.graph.size, { (s.add node).2 with named := (name, s.graph.size) :: s.named })

/-- One more collection, with the parts that are read. -/
def addCollection (s : Remaining) (p : Properties) (usual : Kind) (empty : Content)
    (read : Remaining → ContentRead) : NodeRead :=
  if s.depth = nestingLimit then .error .tooDeep
  else do
    let (n, opened) ← s.addNamed p.name ⟨p.collectionKind usual, empty⟩
    let (content, closed) ← read { opened with depth := s.depth + 1 }
    return (n, { closed with graph := closed.graph.fill n content, depth := s.depth })

/-- One more sequence. -/
def addSequence (s : Remaining) (p : Properties) (read : Remaining → ContentRead) : NodeRead :=
  s.addCollection p .sequence (.sequence []) read

/-- One more mapping. -/
def addMapping (s : Remaining) (p : Properties) (read : Remaining → ContentRead) : NodeRead :=
  s.addCollection p .mapping (.mapping []) read

/-- The full text of a tag. -/
def fullTag (s : Remaining) (t : WrittenTag) : Except ExternalFault Text :=
  match fullTag? s.handles t with
  | some tag => .ok tag
  | none => malformed

/-- A node's properties, and what is left behind them. -/
def properties (s : Remaining) : Except ExternalFault (Properties × Remaining) :=
  match s.tokens with
  | .anchor a :: .tag t :: _ | .tag t :: .anchor a :: _ => do
    return (⟨some a, some (← s.fullTag t)⟩, s.next.next)
  | .anchor a :: _ => .ok (⟨some a, none⟩, s.next)
  | .tag _ :: .fault f :: _ => .error f
  | .tag t :: _ => do return (⟨none, some (← s.fullTag t)⟩, s.next)
  | _ => .ok (⟨none, none⟩, s)

end Remaining

/-- Where a node is wanted, it may be missing before that token. Before a dash it is
missing only where a sequence has to open with its column. -/
def endsPart (items : Bool) : Token → Bool
  | .key | .value | .blockEnd | .separator | .sequenceEnd | .mappingEnd => true
  | .item => !items
  | _ => false

mutual
/-- A node. In a block collection it may be a block collection itself, and as part of an
entry also a sequence at the entry's column. -/
def readNode (block items : Bool) : Nat → Remaining → NodeRead
  | 0, _ => malformed
  | fuel + 1, s =>
    match s.head with
    | .alias name =>
      match s.named.lookup name with
      | some n => .ok (n, s.next)
      | none => malformed
    | _ => do
      let (p, s) ← s.properties
      match s.head with
      | .scalar plain t => s.next.addNamed p.name ⟨p.scalarKind plain t, .scalar t⟩
      | .sequenceStart => s.addSequence p fun s => readFlowItems true [] fuel s.next
      | .mappingStart => s.addMapping p fun s => readFlowEntries true [] fuel s.next
      | .fault f => .error f
      | token =>
        if items && token == .item then s.addSequence p (readItems false [] fuel)
        else if block && token == .blockSequence then
          s.addSequence p fun s => readItems true [] fuel s.next
        else if block && token == .blockMapping then
          s.addMapping p fun s => readEntries [] fuel s.next
        else if p.name.isSome || p.tag.isSome then
          s.addNamed p.name ⟨p.scalarKind true [], .scalar []⟩
        else malformed

/-- A node, or nothing where none is to come. -/
def readPart (block items : Bool) : Nat → Remaining → NodeRead
  | 0, _ => malformed
  | fuel + 1, s =>
    if endsPart items s.head then .ok (s.add .nothing) else readNode block items fuel s

/-- The key and the value of an entry, from behind the key's mark. -/
def readPair (block : Bool) : Nat → Remaining → Except ExternalFault ((Nat × Nat) × Remaining)
  | 0, _ => malformed
  | fuel + 1, s => do
    let (k, s) ← readPart block block fuel s
    let (n, s) ← match s.head with
      | .value => readPart block block fuel s.next
      | _ => .ok (s.add .nothing)
    return ((k, n), s)

/-- The items of a sequence by lines. One that opened with its column closes with it. -/
def readItems (closes : Bool) (done : List Nat) : Nat → Remaining → ContentRead
  | 0, _ => malformed
  | fuel + 1, s =>
    match s.head with
    | .item => do
      let (n, s) ← readPart true false fuel s.next
      readItems closes (n :: done) fuel s
    | token =>
      if !closes then .ok (.sequence done.reverse, s)
      else if token = .blockEnd then .ok (.sequence done.reverse, s.next)
      else s.refuse

/-- The entries of a mapping by lines. -/
def readEntries (done : List (Nat × Nat)) : Nat → Remaining → ContentRead
  | 0, _ => malformed
  | fuel + 1, s =>
    match s.head with
    | .key => do
      let (e, s) ← readPair true fuel s.next
      readEntries (e :: done) fuel s
    | .blockEnd => .ok (.mapping done.reverse, s.next)
    | _ => s.refuse

/-- The items of a flow sequence; one may be a single entry, which is a mapping. -/
def readFlowItems (first : Bool) (done : List Nat) : Nat → Remaining → ContentRead
  | 0, _ => malformed
  | fuel + 1, s =>
    match s.head with
    | .sequenceEnd => .ok (.sequence done.reverse, s.next)
    | token => do
      let s ← if first then .ok s else if token = .separator then .ok s.next else s.refuse
      match s.head with
      | .sequenceEnd => return (.sequence done.reverse, s.next)
      | .key => do
        let (n, s) ← s.addMapping ⟨none, none⟩ fun s => do
          let (e, s) ← readPair false fuel s.next
          return (.mapping [e], s)
        readFlowItems false (n :: done) fuel s
      | _ => do
        let (n, s) ← readNode false false fuel s
        readFlowItems false (n :: done) fuel s

/-- The entries of a flow mapping; one may be a key alone. -/
def readFlowEntries (first : Bool) (done : List (Nat × Nat)) : Nat → Remaining → ContentRead
  | 0, _ => malformed
  | fuel + 1, s =>
    match s.head with
    | .mappingEnd => .ok (.mapping done.reverse, s.next)
    | token => do
      let s ← if first then .ok s else if token = .separator then .ok s.next else s.refuse
      match s.head with
      | .mappingEnd => return (.mapping done.reverse, s.next)
      | .key => do
        let (e, s) ← readPair false fuel s.next
        readFlowEntries false (e :: done) fuel s
      | _ => do
        let (k, s) ← readNode false false fuel s
        let (n, s) := s.add .nothing
        readFlowEntries false ((k, n) :: done) fuel s
end

/-- What the directives in front of a document say: that its version has been given, and
what its handles stand for. -/
structure Prologue where
  versioned : Bool
  handles : List (Text × Text)

/-- Behind the directives there is the start of the document. Its version is known, and
said once; so is what each handle stands for. -/
def readPrologue (p : Prologue) : List Token → Except ExternalFault (Prologue × List Token)
  | .directive (.version major) :: rest =>
    if p.versioned || major != 1 then malformed else readPrologue { p with versioned := true } rest
  | .directive (.handle name beginning) :: rest =>
    if (p.handles.lookup name).isSome then malformed
    else readPrologue { p with handles := (name, beginning) :: p.handles } rest
  | .directive .other :: rest => readPrologue p rest
  | .documentStart :: rest => .ok (p, rest)
  | .fault f :: _ => .error f
  | _ => malformed

/-- The root of a document from tokens that start with it. -/
def readRoot (s : Remaining) : NodeRead := readNode true false (4 * s.tokens.length + 4) s

/-- The root of a document from behind its start on; it may be missing. -/
def readContent (s : Remaining) : NodeRead :=
  match s.head with
  | .directive _ | .documentStart | .documentEnd | .finish => .ok (s.add .nothing)
  | _ => readRoot s

/-- Nothing but marks of its end may stand behind a document. Where another one begins, its
directives are read yet. -/
def readEpilogue (tokens : List Token) : Except ExternalFault Unit :=
  match tokens.dropWhile fun t => t == .documentEnd with
  | [] | .finish :: _ => .ok ()
  | .directive d :: rest => do
    let _ ← readPrologue ⟨false, []⟩ (.directive d :: rest)
    malformed
  | .fault f :: _ => .error f
  | _ => malformed

/-- The nodes of a document, and the number of the one that holds the others. -/
structure Tree where
  graph : Graph
  root : Nat

/-- The nodes of tokens that are one document. -/
def readTokens (tokens : List Token) : Except ExternalFault Tree := do
  let begun := fun (tokens : List Token) (handles : List (Text × Text)) =>
    (⟨tokens, #[], [], handles, 0⟩ : Remaining)
  let (root, s) ← match tokens with
    | .finish :: _ => .ok ((begun tokens []).add .nothing)
    | .directive _ :: _ | .documentStart :: _ => do
      let (p, rest) ← readPrologue ⟨false, []⟩ tokens
      readContent (begun rest p.handles)
    | _ => readRoot (begun tokens [])
  readEpilogue s.tokens
  return ⟨s.graph, root⟩

/-- The nodes of a document. -/
def readDocument (s : Source) : Except ExternalFault Tree := readTokens (tokensOf s)

end Almanac.Yaml
