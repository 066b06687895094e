import SnippetMarkup.Encoding.Basic
import SnippetMarkup.Preview.Token
import SnippetMarkup.Regex.Parser
import SnippetMarkup.Yaml.Loader

/-!
# Tools of a run

What a run leaves to others, and takes as it is given.
-/

namespace SnippetMarkup

structure Toolkit where
  loader : Yaml.Loader
  /-- Shows a text in colours when it is given what cuts texts into tokens. -/
  highlight : (Text → List Token) → Text → Text
  characters : Regex.CharacterNames
  codecs : Codecs

end SnippetMarkup
