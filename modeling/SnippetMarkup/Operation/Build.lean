import SnippetMarkup.Operation.Basic
import SnippetMarkup.Markup.Attributes
import SnippetMarkup.Reference.Store
import SnippetMarkup.Reference.Targets
import SnippetMarkup.Report.Journal

/-!
# Operations from tags

A tag and its attributes make an operation, or a problem if the tag cannot be honoured.  Only a
link that resolves puts a reference into the store.
-/

namespace SnippetMarkup

structure MarkupContext where
  origin : Text := "inline".toList
  targets : Option Targets := none
  /-- The attribute of an anchor that holds the reference id. -/
  linkAttribute : Text := "data-dri".toList
  /-- The characters that patterns may call by their names; none unless they are given. -/
  characters : Regex.CharacterNames := fun _ => none

/-- What a tag has made: an operation or none, the store after it, and what there is to report. -/
structure Built where
  operation : Option Operation
  store : ReferenceStore
  journal : Journal Problem := []

namespace Built

def refused (store : ReferenceStore) (problem : Problem) : Built :=
  ⟨none, store, [.warning problem]⟩

end Built

namespace Scope

/-- The scope that attributes give; the problem of its pattern if that has one. -/
def ofAttributes (characters : Regex.CharacterNames) (attributes : Attributes) :
    Except MarkupFailure (Except Problem Scope) :=
  let substring := attributes.value? .substring
  match attributes.value? .regex with
  | none => .ok (.ok { substring := substring })
  | some pattern =>
    match Regex.compile characters pattern with
    | .ok regex => .ok (.ok { substring := substring, regex := some regex })
    | .error (.invalid error) => .ok (.error (.invalidRegex pattern error))
    | .error .repetitionTooLarge => .error .repetitionTooLarge
    | .error .hugeCharacter => .error .hugeCharacter
    | .error .clashingGlobalFlags => .error .clashingGlobalFlags
    | .error (.tooManyDigits digits) => .error (.tooManyDigits digits)

end Scope

namespace Operation

def buildHighlight (context : MarkupContext) (attributes : Attributes)
    (store : ReferenceStore) : Except MarkupFailure Built := do
  let name :=
    match attributes.value? .type with
    | some written => Unicode.lower written
    | none => "bold".toList
  match Style.ofName? name with
  | none => return .refused store (.unknownStyle name)
  | some style =>
    match ← Scope.ofAttributes context.characters attributes with
    | .error problem => return .refused store problem
    | .ok scope => return ⟨some (.highlight scope style), store, []⟩

def buildReplace (context : MarkupContext) (attributes : Attributes)
    (store : ReferenceStore) : Except MarkupFailure Built := do
  match attributes.value? .replacement with
  | none => return .refused store .missingReplacement
  | some replacement =>
    match ← Scope.ofAttributes context.characters attributes with
    | .error problem => return .refused store problem
    | .ok scope => return ⟨some (.replace scope replacement), store, []⟩

/-- The note on a link that resolves. -/
def linkedNote (target id : Text) : Text :=
  "Linked target ".toList ++ target ++ " as ".toList ++ id

def buildLink (context : MarkupContext) (attributes : Attributes) (store : ReferenceStore) :
    Except MarkupFailure Built := do
  match attributes.value? .target with
  | none => return .refused store .missingTarget
  | some target =>
    -- A pattern that cannot be read is reported before the target is looked up.
    match ← Scope.ofAttributes context.characters attributes with
    | .error problem => return .refused store problem
    | .ok scope =>
      match context.targets with
      | none => return .refused store (.unresolvedTarget target)
      | some targets =>
        match targets.resolve? target with
        | none =>
          return ⟨none, store,
            [.note 3 (Targets.notFoundNote target context.origin),
              .warning (.unresolvedTarget target)]⟩
        | some reference =>
          let (id, store) := store.put reference
          return ⟨some (.link scope context.linkAttribute id), store,
            [.note 3 (linkedNote target id)]⟩

/-- The operation of a tag; a start or an end tag has none. -/
def build (context : MarkupContext) (tag : Tag) (attributes : Attributes)
    (store : ReferenceStore) : Except MarkupFailure Built :=
  match tag with
  | .start | .finish => .ok ⟨none, store, []⟩
  | .highlight => buildHighlight context attributes store
  | .replace => buildReplace context attributes store
  | .link => buildLink context attributes store

end Operation

end SnippetMarkup
