import SnippetMarkup.Program.Yaml.Document
import SnippetMarkup.Program.Yaml.Key
import SnippetMarkup.Program.Yaml.Base64
import SnippetMarkup.Yaml.Loader

/-!
# Reading documents

What a document stands for: every node that belongs to it becomes a value as its tag says.  Runs
take any loader of documents; this is the one that the program gives them.
-/

namespace SnippetMarkup.Yaml

namespace Reading

/-! ## Merging -/

def entries? (collections : List Collection) (node : Node) :
    Option (Nat × List (Node × Node)) :=
  match node with
  | .scalar .. => none
  | .collection id =>
    match collections[id]? with
    | some ⟨_, .mapping entries⟩ => some (id, entries)
    | _ => none

def nodes? (collections : List Collection) (node : Node) : Option (List Node) :=
  match node with
  | .scalar .. => none
  | .collection id =>
    match collections[id]? with
    | some ⟨_, .sequence nodes⟩ => some nodes
    | _ => none

def hasTag (collections : List Collection) (tag : Tag) : Node → Bool
  | .scalar other _ => other == tag
  | .collection id => (collections[id]?).any fun collection => collection.tag == tag

/-- The collections with other entries in a mapping. -/
def setEntries (collections : List Collection) (id : Nat) (entries : List (Node × Node)) :
    List Collection :=
  collections.modify id fun old => { old with items := .mapping entries }

/-- A key that is the mark of a default stands for itself. -/
def plainKey (collections : List Collection) (key : Node) : Node × List Collection :=
  match key with
  | .scalar .default text => (.scalar .text text, collections)
  | .collection id =>
    if hasTag collections .default key then
      (key, collections.modify id fun old => { old with tag := .text })
    else (key, collections)
  | other => (other, collections)

mutual

/-- Puts the entries that a mapping merges in front of its own. -/
def flatten (id : Nat) : Nat → List Collection → Except Defect (List Collection)
  | 0, _ => .error .malformed
  | fuel + 1, collections =>
    match entries? collections (.collection id) with
    | some (_, entries) => flattenFrom id [] [] entries fuel collections
    | none => .ok collections

/-- Goes on after some entries that are kept and some that were merged. -/
def flattenFrom (id : Nat) (kept merged : List (Node × Node)) :
    List (Node × Node) → Nat → List Collection → Except Defect (List Collection)
  | _, 0, _ => .error .malformed
  | [], _ + 1, collections => .ok (setEntries collections id (merged ++ kept))
  | (key, value) :: rest, fuel + 1, collections =>
    if hasTag collections .merge key then
      -- The mapping loses the entry for merging before what it merges is looked at.
      let collections := setEntries collections id (kept ++ rest)
      match nodes? collections value with
      | some nodes => do
        let (groups, collections) ← mergeAll nodes fuel collections
        flattenFrom id kept (merged ++ groups.reverse.flatten) rest fuel collections
      | none => do
        let (group, collections) ← mergeOne value fuel collections
        flattenFrom id kept (merged ++ group) rest fuel collections
    else
      let (key, collections) := plainKey collections key
      flattenFrom id (kept ++ [(key, value)]) merged rest fuel collections

/-- The entries that a mapping gives to another. -/
def mergeOne (value : Node) :
    Nat → List Collection → Except Defect (List (Node × Node) × List Collection)
  | 0, _ => .error .malformed
  | fuel + 1, collections =>
    match entries? collections value with
    | none => .error .malformed
    | some (source, _) => do
      let collections ← flatten source fuel collections
      return (((entries? collections value).map (·.2)).getD [], collections)

/-- The entries that several mappings give to another. -/
def mergeAll :
    List Node → Nat → List Collection → Except Defect (List (List (Node × Node)) × List Collection)
  | _, 0, _ => .error .malformed
  | [], _ + 1, collections => .ok ([], collections)
  | node :: rest, fuel + 1, collections => do
    let (group, collections) ← mergeOne node fuel collections
    let (groups, collections) ← mergeAll rest fuel collections
    return (group :: groups, collections)

end

/-- How far merging may go: every step passes an entry of one of the mappings. -/
def mergeFuel (collections : List Collection) : Nat :=
  let entries := collections.foldl (fun count collection =>
    match collection.items with
    | .mapping entries => count + entries.length
    | .sequence nodes => count + nodes.length) 0
  (entries + collections.length + 4) * (collections.length + 4) * 4

/-! ## Scalars -/

/-- The text of a node that is meant to be a scalar.  A mapping can have one as its default. -/
def scalarText (collections : List Collection) : Nat → Node → Except Defect Text
  | _, .scalar _ text => .ok text
  | 0, _ => .error .malformed
  | fuel + 1, node =>
    match entries? collections node with
    | none => .error .malformed
    | some (_, entries) =>
      match entries.find? fun (key, _) => hasTag collections .default key with
      | some (_, value) => scalarText collections fuel value
      | none => .error .malformed

/-- The scalar that a text stands for under a tag. -/
def readScalar (tag : Tag) (text : Text) : Except Defect Scalar :=
  match tag with
  | .null => .ok .null
  | .bool =>
    match Tag.truthWords.lookup (String.ofList (Unicode.lower text)) with
    | some value => .ok (.bool value)
    | none => .error (.badBool (Unicode.lower text))
  | .int => (Number.readInt text).map .int
  | .float => (Number.readFloat text).map .float
  | .binary =>
    if text.all fun c => c.toNat < 0x80 then
      match Base64.decode? text with
      | some bytes => .ok (.bytes bytes)
      | none => .error .malformed
    else .error .malformed
  | .timestamp => (Moment.read text).map .moment
  | .text => .ok (.text text)
  | _ => .error .malformed

/-- Whether a tag is one of collections. -/
def isCollectionTag (tag : Tag) : Bool :=
  [Tag.sequence, .mapping, .orderedMapping, .pairs, .set].contains tag

/-- The value of a node.  What a collection holds is left open. -/
def readNode (collections : List Collection) : Node → Except Defect Value
  | .scalar tag text =>
    -- A text is found not to be a collection only when the collection is read, and there is none.
    if isCollectionTag tag then .ok (.collection collections.length)
    else (readScalar tag text).map .scalar
  | .collection id =>
    match collections[id]? with
    | none => .error .malformed
    | some collection =>
      if isCollectionTag collection.tag then .ok (.collection id)
      else do
        let text ← scalarText collections (collections.length + 1) (.collection id)
        return .scalar (← readScalar collection.tag text)

/-- The value of a key, which must be a scalar. -/
def readKey (collections : List Collection) (node : Node) : Except Defect Scalar := do
  match ← readNode collections node with
  | .scalar scalar => return scalar
  | .collection _ => throw .malformed

/-! ## Collections -/

/-- The entries of a mapping as they are written. -/
def readEntries (collections : List Collection) (entries : List (Node × Node)) :
    Except Defect (List (Scalar × Value)) :=
  entries.mapM fun (key, value) => do
    let key ← readKey collections key
    return (key, ← readNode collections value)

/-- The entries of a mapping, the last value of a key counting. -/
def settleEntries (entries : List (Scalar × Value)) : List (Scalar × Value) :=
  entries.foldl (fun settled (key, value) => Contents.put settled key value) []

/-- The pair that a mapping with a single entry stands for. -/
def readPair (collections : List Collection) (node : Node) : Except Defect (Value × Value) :=
  match entries? collections node with
  | some (_, [(key, value)]) => do
    return (← readNode collections key, ← readNode collections value)
  | _ => .error .malformed

/-- What a collection holds, the values that are written in it, and the collections after what it
merges has been put into it. -/
def readCollection (collections : List Collection) (id : Nat) :
    Except Defect (Contents × List Value × List Collection) := do
  let tag := ((collections[id]?).map (·.tag)).getD .unknown
  match tag, nodes? collections (.collection id), entries? collections (.collection id) with
  | .sequence, some nodes, _ =>
    let items ← nodes.mapM (readNode collections)
    return (.list items, items, collections)
  | .orderedMapping, some nodes, _ | .pairs, some nodes, _ =>
    let items ← nodes.mapM (readPair collections)
    return (.pairs items, items.flatMap fun (first, second) => [first, second], collections)
  | .mapping, _, some _ | .set, _, some _ =>
    let collections ← flatten id (mergeFuel collections) collections
    let entries := ((entries? collections (.collection id)).map (·.2)).getD []
    let read ← readEntries collections entries
    let settled := settleEntries read
    return (if tag = .mapping then .map settled else .set (settled.map (·.1)), read.map (·.2),
      collections)
  | _, _, _ => throw .malformed

def collectionId? : Value → Option Nat
  | .collection id => some id
  | .scalar _ => none

/-- Reads the waiting collections and all that is written in them, each once. -/
def readWaiting (collections : List Collection) (read : Collections) :
    Nat → List Nat → Except Defect Collections
  | 0, _ => .ok read
  | _ + 1, [] => .ok read
  | fuel + 1, id :: waiting =>
    if (read.lookup id).isSome then readWaiting collections read fuel waiting
    else do
      let (contents, written, collections) ← readCollection collections id
      readWaiting collections (read ++ [(id, contents)]) fuel
        (waiting ++ written.filterMap collectionId?)

/-- The number of nodes in some collections. -/
def nodeCount (collections : List Collection) : Nat :=
  collections.foldl (fun count collection =>
    match collection.items with
    | .mapping entries => count + 2 * entries.length
    | .sequence nodes => count + nodes.length) 0

/-- The value that a document stands for. -/
def ofDocument (document : Document) : Except Defect Reading := do
  match ← readNode document.collections document.root with
  | .scalar scalar => return { root := .scalar scalar }
  | .collection id =>
    let fuel := mergeFuel document.collections * (nodeCount document.collections + 1)
    return ⟨.collection id, ← readWaiting document.collections [] fuel [id]⟩

/-- The value that a text stands for.  An empty text stands for nothing. -/
def ofText (text : Text) : Except Defect Reading := do
  match ← Document.ofText text with
  | none => return { root := .scalar .null }
  | some document => ofDocument document

end Reading

end SnippetMarkup.Yaml
