import SnippetMarkup.Yaml.Moment
import SnippetMarkup.Decimal.Binary64
import SnippetMarkup.Encoding.Error
import SnippetMarkup.Text.Quoted

/-!
# Values

What the nodes of a document stand for.  As in documents, collections are numbered, so a
collection may hold itself; it is shown as three full stops there.
-/

namespace SnippetMarkup.Yaml

/-! ## Scalars -/

inductive Scalar where
  | null
  | bool (value : Bool)
  | int (value : Int)
  | float (value : Binary64)
  | text (value : Text)
  | bytes (value : Bytes)
  | moment (value : Moment)
  deriving DecidableEq, Repr

namespace Scalar

/-- The bytes between quotes.  Only printable characters of ASCII stand for themselves. -/
def quotedBytes (bytes : Bytes) : Text :=
  let chars := bytes.map fun byte => Char.ofNat byte.toNat
  let quote := Text.quoteFor chars
  let shown (c : Char) : Text :=
    if c.toNat < 0x80 then Text.quotedChar quote c else Text.codeEscape c
  'b' :: quote :: chars.flatMap shown ++ [quote]

/-- A scalar as it is shown inside of a collection.  A number with too many digits is not shown. -/
def shown? : Scalar → Option Text
  | null => some "None".toList
  | bool true => some "True".toList
  | bool false => some "False".toList
  | int value =>
    if Text.digitLimit < (Text.ofNat value.natAbs).length then none
    else some (toString value).toList
  | float value => some value.toText
  | text value => some (Text.quoted value)
  | bytes value => some (quotedBytes value)
  | moment value => some value.shown

/-- A scalar as it is shown on its own. -/
def toText? : Scalar → Option Text
  | text value => some value
  | moment value => some value.toText
  | other => other.shown?

end Scalar

/-! ## Values -/

/-- A value: a scalar, or the number of a collection. -/
inductive Value where
  | scalar (value : Scalar)
  | collection (id : Nat)
  deriving DecidableEq, Repr

inductive Contents where
  | list (items : List Value)
  | map (entries : List (Scalar × Value))
  | pairs (items : List (Value × Value))
  | set (items : List Scalar)
  deriving DecidableEq, Repr

abbrev Collections := List (Nat × Contents)

namespace Contents

def isEmpty : Contents → Bool
  | list items => items.isEmpty
  | map entries => entries.isEmpty
  | pairs items => items.isEmpty
  | set items => items.isEmpty

/-- A collection as it is shown when it is inside of itself. -/
def ellipsis : Contents → Text
  | list _ | pairs _ => "[...]".toList
  | map _ => "\x7b...\x7d".toList
  | set _ => "set(...)".toList

/-- A collection as it is shown, given how the values in it are. -/
def render? (value : Value → Option Text) : Contents → Option Text
  | list items => (items.mapM value).map fun shown => '[' :: Text.commaList shown ++ [']']
  | map entries =>
    let shown? := entries.mapM fun (key, item) => do
      return (← key.shown?) ++ ':' :: ' ' :: (← value item)
    shown?.map fun shown => '\x7b' :: Text.commaList shown ++ ['\x7d']
  | pairs items =>
    let shown? := items.mapM fun (first, second) => do
      return '(' :: Text.commaList [← value first, ← value second] ++ [')']
    shown?.map fun shown => '[' :: Text.commaList shown ++ [']']
  | set [] => some "set()".toList
  | set items =>
    (items.mapM Scalar.shown?).map fun shown => '\x7b' :: Text.commaList shown ++ ['\x7d']

end Contents

namespace Value

/-- A value as it is shown inside of the collections with the given numbers, at most `depth` of
which can be inside of each other. -/
def shown? (collections : Collections) (inside : List Nat) : Nat → Value → Option Text
  | _, .scalar value => value.shown?
  | 0, .collection _ => some []
  | depth + 1, .collection id =>
    match collections.lookup id with
    | none => some []
    | some contents =>
      if inside.contains id then some contents.ellipsis
      else contents.render? (shown? collections (id :: inside) depth)

/-- A value as it is shown on its own. -/
def toText? (collections : Collections) : Value → Option Text
  | .scalar value => value.toText?
  | value => shown? collections [] (collections.length + 1) value

def isNothing (collections : Collections) : Value → Bool
  | .scalar .null => true
  | .scalar (.bool value) => !value
  | .scalar (.int value) => value == 0
  | .scalar (.float value) => value.isZero
  | .scalar (.text value) => value.isEmpty
  | .scalar (.bytes value) => value.isEmpty
  | .scalar (.moment _) => false
  | .collection id => ((collections.lookup id).map Contents.isEmpty).getD true

end Value

end SnippetMarkup.Yaml
