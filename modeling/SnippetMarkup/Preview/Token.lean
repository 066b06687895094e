import SnippetMarkup.Text.Basic

/-!
# Tokens

The pieces into which annotated source is cut for its preview.
-/

namespace SnippetMarkup

/-- What a piece of annotated source is. -/
inductive TokenKind where
  | text
  /-- The introducer of a comment, and what markup has no use for. -/
  | comment
  | keyword
  | name
  /-- The sign between a name and its value, and the colon that ends a carried comment. -/
  | punctuation
  /-- The value of an attribute, with its quotes. -/
  | value
  deriving DecidableEq, Repr

structure Token where
  kind : TokenKind
  text : Text
  deriving DecidableEq, Repr

namespace Token

def join (tokens : List Token) : Text := tokens.flatMap (·.text)

/-- The length of the text that some tokens make. -/
def width (tokens : List Token) : Nat := (join tokens).length

def visible (tokens : List Token) : List Token := tokens.filter fun token => !token.text.isEmpty

/-- Tokens with their places, when the first one stands at the given place. -/
def place (start : Nat) : List Token → List (Nat × Token)
  | [] => []
  | token :: rest => (start, token) :: place (start + token.text.length) rest

end Token

end SnippetMarkup
