import SnippetMarkup.Snippet.Progress
import SnippetMarkup.Source.Library

/-!
# Converting snippets

A snippet becomes an HTML element.  Its text comes from the lines inside of its tag, or else from
the file that it refers to.  If it has both, the lines inside of the tag are shown and the file
must give the same text.  Snippets that are converted one after the other share a reference store.
-/

namespace SnippetMarkup

structure Converter where
  settings : Settings := {}
  /-- Where the files of snippets are looked for. -/
  library : Option Library := none
  targets : Option Targets := none
  /-- The characters that patterns may call by their names; none unless they are given. -/
  characters : Regex.CharacterNames := fun _ => none

structure Conversion where
  html : Text
  store : ReferenceStore
  journal : Journal Problem

namespace Converter

/-! ## Texts -/

def context (converter : Converter) (source : SnippetSource) : SnippetContext where
  origin := source.origin
  targets := converter.targets
  linkAttribute := converter.settings.linkAttribute
  characters := converter.characters
  region := source.region

/-- The text of some lines, and the store after them. -/
def parseSource (converter : Converter) (source : SnippetSource) (store : ReferenceStore) :
    Reported (Text × ReferenceStore) :=
  match (Progress.initial source.region store).parse (converter.context source) source.lines with
  | (progress, none) => ⟨progress.journal, .ok (progress.text, progress.store)⟩
  | (progress, some failure) => ⟨progress.journal, .error (.markup failure)⟩

/-- The note on a snippet with two bodies that are the same. -/
def matchesNote (origin : Text) : Text := "Hybrid snippet matches ".toList ++ origin

/-- The text of a snippet that has lines of its own and refers to others.  What the others have
to report and the references in them are left out. -/
def parseBoth (converter : Converter) (body : List Text) (external : SnippetSource)
    (store : ReferenceStore) : Reported (Text × ReferenceStore) := do
  let (text, store) ← converter.parseSource { lines := body } store
  let (externalText, _) ← (converter.parseSource external {}).withoutProblems
  Reported.report [
    if text = externalText then .note 2 (matchesNote external.origin)
    else .warning (.bodiesDiffer external.origin)]
  return (text, store)

/-- The lines that a snippet refers to, if it refers to any and they are found. -/
def resolve (converter : Converter) (snippet : Snippet) : Reported (Option SnippetSource) :=
  match converter.library with
  | some library =>
    if snippet.isExternal then library.resolve converter.settings snippet else return none
  | none => return none

/-- The text of a snippet, and the store after it. -/
def parseSnippet (converter : Converter) (snippet : Snippet) (store : ReferenceStore) :
    Reported (Text × ReferenceStore) := do
  match snippet.body, ← converter.resolve snippet with
  | some body, some external => converter.parseBoth body external store
  | some body, none => converter.parseSource { lines := body } store
  | none, some external => converter.parseSource external store
  | none, none =>
    Reported.report [.warning .unresolvedSnippet]
    return (converter.settings.unresolvedPlaceholder, store)

/-! ## Elements -/

/-- The attributes of the element around a snippet. -/
def idAttribute (snippet : Snippet) : Text :=
  match snippet.id.getD [] with
  | [] => []
  | id => " id=\"".toList ++ Html.escape id ++ ['"']

/-- A text marked as being in the language of a snippet. -/
def inLanguage (snippet : Snippet) (body : Text) : Text :=
  match snippet.lang.getD [] with
  | [] => body
  | lang =>
    "<code class=\"language-".toList ++ Html.escape lang ++ ['"', '>'] ++ body ++
      "</code>".toList

/-- The element of a snippet with the given text. -/
def element (converter : Converter) (snippet : Snippet) (body : Text) : Text :=
  converter.settings.wrap (inLanguage snippet body) (idAttribute snippet)

/-! ## Conversions -/

def convert (converter : Converter) (snippet : Snippet) (store : ReferenceStore) :
    Reported (Text × ReferenceStore) := do
  let (body, store) ← converter.parseSnippet snippet store
  return (converter.element snippet body, store)

/-- Converts some snippets one after the other. -/
def convertAll (converter : Converter) : List Snippet → ReferenceStore →
    Reported (List Conversion)
  | [], _ => return []
  | snippet :: rest, store =>
    match converter.convert snippet store with
    | ⟨journal, .error failure⟩ => ⟨journal, .error failure⟩
    | ⟨journal, .ok (html, store)⟩ =>
      let later := convertAll converter rest store
      ⟨journal ++ later.journal, later.result.map (⟨html, store, journal⟩ :: ·)⟩

end Converter

end SnippetMarkup
