import SnippetMarkup.Text.Basic

/-!
# The reference store

The references that links point to get ids in the order in which they are first stored: a common
beginning and a number counted from zero.  A reference that is stored again keeps its id, and
nothing is ever taken out.
-/

namespace SnippetMarkup

/-- A reference with the id that it was given. -/
structure StoredReference where
  id : Text
  reference : Text
  deriving DecidableEq, Repr

/-- References and their ids, the oldest first. -/
structure ReferenceStore where
  idPrefix : Text := ['r', 'e', 'f', '-']
  entries : List StoredReference := []
  deriving DecidableEq, Repr

namespace ReferenceStore

def size (store : ReferenceStore) : Nat := store.entries.length

def references (store : ReferenceStore) : List Text := store.entries.map (·.reference)

/-- The id of a reference that has been stored. -/
def idOf? (store : ReferenceStore) (reference : Text) : Option Text :=
  (store.entries.find? fun entry => entry.reference == reference).map (·.id)

def get? (store : ReferenceStore) (id : Text) : Option Text :=
  (store.entries.find? fun entry => entry.id == id).map (·.reference)

/-- The id that the next new reference gets. -/
def nextId (store : ReferenceStore) : Text := store.idPrefix ++ Text.ofNat store.size

/-- The id of a reference, and the store that holds it. -/
def put (store : ReferenceStore) (reference : Text) : Text × ReferenceStore :=
  match store.idOf? reference with
  | some id => (id, store)
  | none =>
    (store.nextId, { store with entries := store.entries ++ [⟨store.nextId, reference⟩] })

end ReferenceStore

end SnippetMarkup
