import SnippetMarkup.Program.Yaml.Lexer
import SnippetMarkup.Program.Yaml.Tag

/-!
# Documents

A document is a graph: its collections are numbered, and wherever a collection occurs, in its own
place or by an alias, its number stands for it.  So a collection may be inside of itself.
-/

namespace SnippetMarkup.Yaml

/-! ## Graphs -/

/-- A node: a scalar, or the number of a collection. -/
inductive Node where
  | scalar (tag : Tag) (text : Text)
  | collection (id : Nat)
  deriving DecidableEq, Repr

inductive Items where
  | sequence (nodes : List Node)
  | mapping (entries : List (Node × Node))
  deriving DecidableEq, Repr

structure Collection where
  tag : Tag
  items : Items
  deriving DecidableEq, Repr

/-- A document.  A collection that does not exist is an empty one. -/
structure Document where
  root : Node
  collections : List Collection

/-! ## Building -/

/-- What is known while tokens are made into nodes. -/
structure BuildState where
  tokens : List Token
  /-- What the handles of tags stand for. -/
  handles : List (Text × Text)
  anchors : List (Text × Node) := []
  collections : List Collection := []

/-- A step of building, which may fail. -/
abbrev Build (α : Type) := BuildState → Except Defect (α × BuildState)

namespace BuildState

def peek (state : BuildState) : Option Token := state.tokens.head?

def drop (state : BuildState) : BuildState := { state with tokens := state.tokens.drop 1 }

/-- Whether the next token is one of some. -/
def isAt (state : BuildState) (choices : List Token) : Bool :=
  match state.peek with
  | some token => choices.contains token
  | none => false

def name (state : BuildState) (anchor : Option Text) (node : Node) : Except Defect BuildState :=
  match anchor with
  | none => .ok state
  | some anchor =>
    if (state.anchors.lookup anchor).isSome then .error .malformed
    else .ok { state with anchors := (anchor, node) :: state.anchors }

/-- Numbers a new collection, which is empty until it is filled. -/
def allocate (state : BuildState) (tag : Tag) (items : Items) : Nat × BuildState :=
  (state.collections.length,
    { state with collections := state.collections ++ [⟨tag, items⟩] })

def fill (state : BuildState) (id : Nat) (items : Items) : BuildState :=
  { state with collections := state.collections.modify id fun old => { old with items := items } }

/-- The full name of a written tag. -/
def fullTag (state : BuildState) (tag : WrittenTag) : Except Defect Text :=
  match tag.handle with
  | none => .ok tag.suffix
  | some handle =>
    match state.handles.lookup handle with
    | some meaning => .ok (meaning ++ tag.suffix)
    | none => .error .malformed

/-- The anchor and the tag before a node, in either order. -/
def readProperties (state : BuildState) :
    Except Defect ((Option Text × Option Text) × BuildState) :=
  match state.tokens with
  | .anchor anchor :: .tag tag :: rest | .tag tag :: .anchor anchor :: rest => do
    return ((some anchor, some (← state.fullTag tag)), { state with tokens := rest })
  | .anchor anchor :: rest => .ok ((some anchor, none), { state with tokens := rest })
  | .tag tag :: rest => do
    return ((none, some (← state.fullTag tag)), { state with tokens := rest })
  | _ => .ok ((none, none), state)

end BuildState

/-- The node of a place where nothing is written. -/
def Node.empty : Node := .scalar .null []

/-- The tag of a scalar: the one that is written, or the one that its form shows if it has none and
is plain, or has the tag of a single mark. -/
def scalarTag (written : Option Text) (isPlain : Bool) (text : Text) : Tag :=
  match written with
  | none => if isPlain then Tag.ofForm text else .text
  | some name => if name = ['!'] then Tag.ofForm text else Tag.ofText name

/-- The tag of a collection that has the given one if none is written. -/
def collectionTag (written : Option Text) (usual : Tag) : Tag :=
  match written with
  | none => usual
  | some name => if name = ['!'] then usual else Tag.ofText name

/-- Where a node stands, which decides on the tokens that it may begin with. -/
inductive Position where
  | flow
  | block
  /-- In a block mapping, where the entries of a sequence need not be indented. -/
  | mappingEntry
  deriving DecidableEq, Repr

/-- The tokens after which no key and no value of a mapping is written, by position. -/
def entryEnds : Position → List Token
  | .flow => [.flowEntry, .flowMappingEnd, .flowSequenceEnd]
  | _ => [.key, .value, .blockEnd]

mutual

/-- Builds the node at the next token. -/
def buildNode (position : Position) : Nat → Build Node
  | 0, _ => .error .malformed
  | fuel + 1, state =>
    match state.tokens with
    | .alias name :: rest =>
      match state.anchors.lookup name with
      | some node => .ok (node, { state with tokens := rest })
      | none => .error .malformed
    | _ => do
      let ((anchor, tag), state) ← state.readProperties
      buildContent position anchor tag fuel state

/-- Builds the node with the given anchor and tag. -/
def buildContent (position : Position) (anchor tag : Option Text) : Nat → Build Node
  | 0, _ => .error .malformed
  | fuel + 1, state =>
    let rest := state.drop
    let asSequence (entries : Build (List Node)) (start : BuildState) :
        Except Defect (Node × BuildState) := do
      -- The collection is named before it is filled, so that it can hold itself.
      let (id, state) := start.allocate (collectionTag tag .sequence) (.sequence [])
      let (nodes, state) ← entries (← state.name anchor (.collection id))
      return (.collection id, state.fill id (.sequence nodes))
    let asMapping (entries : Build (List (Node × Node))) (start : BuildState) :
        Except Defect (Node × BuildState) := do
      let (id, state) := start.allocate (collectionTag tag .mapping) (.mapping [])
      let (nodes, state) ← entries (← state.name anchor (.collection id))
      return (.collection id, state.fill id (.mapping nodes))
    match state.peek with
    | some (.scalar isPlain text) => do
      let node := Node.scalar (scalarTag tag isPlain text) text
      return (node, ← rest.name anchor node)
    | some .flowSequenceStart => asSequence (buildFlowSequence true fuel) rest
    | some .flowMappingStart => asMapping (buildFlowMapping true fuel) rest
    | token =>
      if position = .mappingEntry ∧ token = some .blockEntry then
        asSequence (buildLooseSequence fuel) state
      else if position ≠ .flow ∧ token = some .blockSequenceStart then
        asSequence (buildBlockSequence fuel) rest
      else if position ≠ .flow ∧ token = some .blockMappingStart then
        asMapping (buildBlockMapping fuel) rest
      else if anchor.isSome ∨ tag.isSome then do
        let isOpen := tag.isNone || tag == some ['!']
        let node := Node.scalar (scalarTag tag isOpen []) []
        return (node, ← state.name anchor node)
      else .error .malformed

/-- Builds a node, unless one of some tokens shows that nothing is written. -/
def buildUnless (ends : List Token) (position : Position) : Nat → Build Node
  | 0, _ => .error .malformed
  | fuel + 1, state =>
    if state.isAt ends then .ok (.empty, state) else buildNode position fuel state

/-- Builds the entries of a block sequence, and passes its end. -/
def buildBlockSequence : Nat → Build (List Node)
  | 0, _ => .error .malformed
  | fuel + 1, state =>
    match state.peek with
    | some .blockEntry => do
      let (node, state) ← buildUnless [.blockEntry, .blockEnd] .block fuel state.drop
      let (nodes, state) ← buildBlockSequence fuel state
      return (node :: nodes, state)
    | some .blockEnd => .ok ([], state.drop)
    | _ => .error .malformed

/-- Builds the entries of a sequence that has no start and no end of its own. -/
def buildLooseSequence : Nat → Build (List Node)
  | 0, _ => .error .malformed
  | fuel + 1, state =>
    match state.peek with
    | some .blockEntry => do
      let (node, state) ←
        buildUnless [.blockEntry, .key, .value, .blockEnd] .block fuel state.drop
      let (nodes, state) ← buildLooseSequence fuel state
      return (node :: nodes, state)
    | _ => .ok ([], state)

/-- Builds the value of an entry of a mapping, which may be left out. -/
def buildValue (position : Position) : Nat → Build Node
  | 0, _ => .error .malformed
  | fuel + 1, state =>
    match state.peek with
    | some .value => buildUnless (entryEnds position) position fuel state.drop
    | _ => .ok (.empty, state)

/-- Builds the entries of a block mapping, and passes its end. -/
def buildBlockMapping : Nat → Build (List (Node × Node))
  | 0, _ => .error .malformed
  | fuel + 1, state =>
    match state.peek with
    | some .blockEnd => .ok ([], state.drop)
    | some .key => do
      let (key, state) ←
        buildUnless (entryEnds .mappingEntry) .mappingEntry fuel state.drop
      let (value, state) ← buildValue .mappingEntry fuel state
      let (entries, state) ← buildBlockMapping fuel state
      return ((key, value) :: entries, state)
    | _ => .error .malformed

/-- Builds the key and the value of an entry in brackets, the key after its mark. -/
def buildPair : Nat → Build (Node × Node)
  | 0, _ => .error .malformed
  | fuel + 1, state => do
    let (key, state) ← buildUnless (.value :: entryEnds .flow) .flow fuel state.drop
    let (value, state) ← buildValue .flow fuel state
    return ((key, value), state)

/-- Builds the entries of a sequence in brackets, and passes its end. -/
def buildFlowSequence (isFirst : Bool) : Nat → Build (List Node)
  | 0, _ => .error .malformed
  | fuel + 1, state =>
    match state.peek with
    | some .flowSequenceEnd => .ok ([], state.drop)
    | token => do
      if !isFirst && token != some .flowEntry then throw .malformed
      let state := if isFirst then state else state.drop
      match state.peek with
      | some .flowSequenceEnd => return ([], state.drop)
      | some .key =>
        let (id, state) := state.allocate .mapping (.mapping [])
        let (pair, state) ← buildPair fuel state
        let (nodes, state) ← buildFlowSequence false fuel (state.fill id (.mapping [pair]))
        return (.collection id :: nodes, state)
      | _ =>
        let (node, state) ← buildNode .flow fuel state
        let (nodes, state) ← buildFlowSequence false fuel state
        return (node :: nodes, state)

/-- Builds the entries of a mapping in brackets, and passes its end. -/
def buildFlowMapping (isFirst : Bool) : Nat → Build (List (Node × Node))
  | 0, _ => .error .malformed
  | fuel + 1, state =>
    match state.peek with
    | some .flowMappingEnd => .ok ([], state.drop)
    | token => do
      if !isFirst && token != some .flowEntry then throw .malformed
      let state := if isFirst then state else state.drop
      match state.peek with
      | some .flowMappingEnd => return ([], state.drop)
      | some .key =>
        let (pair, state) ← buildPair fuel state
        let (entries, state) ← buildFlowMapping false fuel state
        return (pair :: entries, state)
      | _ =>
        let (key, state) ← buildNode .flow fuel state
        let (entries, state) ← buildFlowMapping false fuel state
        return ((key, .empty) :: entries, state)

end

/-! ## Documents from tokens -/

/-- What the handles of tags stand for unless it is declared. -/
def usualHandles : List (Text × Text) := [(['!'], ['!']), (['!', '!'], Tag.common)]

/-- Reads the directives before a document: what is declared for handles, and the tokens after
them.  At most one version is declared, and no handle twice. -/
def readDirectives (seenVersion : Bool) (declared : List (Text × Text)) :
    List Token → Except Defect (List (Text × Text) × List Token)
  | .directive (.version major) :: rest =>
    if seenVersion ∨ major ≠ 1 then .error .malformed else readDirectives true declared rest
  | .directive (.handle name meaning) :: rest =>
    if (declared.lookup name).isSome then .error .malformed
    else readDirectives seenVersion ((name, meaning) :: declared) rest
  | .directive .reserved :: rest => readDirectives seenVersion declared rest
  | rest => .ok (declared, rest)

/-- Whether only marks for the end of a document are left. -/
def isOver (tokens : List Token) : Bool := tokens.all (· == .documentEnd)

/-- The document that tokens make; none if they are empty.  There must be only one. -/
def Document.ofTokens (tokens : List Token) : Except Defect (Option Document) := do
  let isExplicit : Bool :=
    match tokens with
    | .directive _ :: _ | .documentStart :: _ => true
    | _ => false
  if tokens.isEmpty then return none
  let (declared, rest) ←
    if isExplicit then readDirectives false [] tokens else pure ([], tokens)
  let handles := declared ++ usualHandles
  let fuel := 4 * tokens.length + 8
  let rest ←
    match isExplicit, rest with
    | true, .documentStart :: rest => pure rest
    | true, _ => throw .malformed
    | false, _ => pure rest
  let isEmpty : Bool :=
    match rest with
    | [] | .directive _ :: _ | .documentStart :: _ | .documentEnd :: _ => isExplicit
    | _ => false
  let start : BuildState := ⟨rest, handles, [], []⟩
  let (root, state) ←
    if isEmpty then pure (Node.empty, start) else buildNode .block fuel start
  if isOver state.tokens then return some ⟨root, state.collections⟩ else throw .malformed

/-- The document that a text is; none if it is empty. -/
def Document.ofText (text : Text) : Except Defect (Option Document) := do
  Document.ofTokens (← tokens text)

end SnippetMarkup.Yaml
