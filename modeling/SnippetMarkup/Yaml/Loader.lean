import SnippetMarkup.Yaml.Value

/-!
# Loaders

A loader makes of the bytes of a file the value of the YAML document that they are, or says why it
does not.  It takes the bytes as it needs them, so what it finds wrong with a document may come
before bytes that are no text.
-/

namespace SnippetMarkup.Yaml

/-- The value of a document: its root and its collections. -/
structure Reading where
  root : Value
  collections : Collections := []
  deriving DecidableEq, Repr

/-- Why a loader gives no value. -/
inductive Fault where
  /-- The bytes are no document. -/
  | malformed (reason : Text)
  /-- The bytes are no text. -/
  | undecodable (error : DecodeError)
  /-- The loader stops for some other reason, of a kind and with a message of its own. -/
  | other (kind message : Text)
  deriving DecidableEq, Repr

def Fault.message : Fault → Text
  | malformed reason => reason
  | undecodable error => error.message
  | other _ message => message

abbrev Loader := Bytes → Except Fault Reading

end SnippetMarkup.Yaml
