import SnippetMarkup.Markup.Comment
import SnippetMarkup.Operation.Build
import SnippetMarkup.Region.Stack
import SnippetMarkup.Text.Indent

/-!
# Working through the lines of a snippet

The lines are taken one by one.  While a region is awaited, everything up to its start tag is
passed over.  Then every line is escaped and goes through the operations of the open regions; the
markup comment at its end opens or closes regions or acts on the line itself.  A comment that
ends in a colon is put at the end of the next line instead.
-/

namespace SnippetMarkup

/-! ## State -/

/-- How far the work on a snippet is. -/
inductive Phase where
  /-- The start of the region to extract has not been met. -/
  | awaiting
  | collecting
  /-- The region to extract has been closed. -/
  | finished
  deriving DecidableEq, Repr

structure CarriedComment where
  introducer : Introducer
  body : Text
  deriving DecidableEq, Repr

/-- What is remembered from line to line. -/
structure Progress where
  phase : Phase
  stack : RegionStack := {}
  output : List Text := []
  carried : Option CarriedComment := none
  store : ReferenceStore := {}
  journal : Journal Problem := []

inductive Flow where
  | next
  | stop
  | fail (failure : MarkupFailure)
  deriving DecidableEq, Repr

/-- What a snippet is read against, and the region to extract from it if not all of it is
wanted. -/
structure SnippetContext extends MarkupContext where
  region : Option Text := none

namespace Progress

def initial (region : Option Text) (store : ReferenceStore) : Progress where
  phase := if region.isNone then .collecting else .awaiting
  store := store

/-! ## Parts of a step -/

def report (progress : Progress) (entries : Journal Problem) : Progress :=
  { progress with journal := progress.journal ++ entries }

def warn (progress : Progress) (problem : Problem) : Progress :=
  progress.report [.warning problem]

def emit (progress : Progress) (line : Text) : Progress :=
  { progress with output := progress.output ++ [line] }

/-- Adds an output line unless it is blank. -/
def emitVisible (progress : Progress) (line : Text) : Progress :=
  if Text.isBlank line then progress else progress.emit line

/-- A line as it comes out of the operations of the open regions. -/
def render (progress : Progress) (line : Text) : Except MarkupFailure Text := do
  return Text.trimRight (← Operation.applyAll (Html.escape line) progress.stack.operations)

/-- A line together with the comment that was carried over to it. -/
def withCarried (progress : Progress) (line : Text) : Text :=
  match progress.carried with
  | none => line
  | some comment => line ++ ' ' :: comment.introducer.written ++ ' ' :: comment.body

/-- The attributes of a tag, with the names that it does not accept reported. -/
def readAttributes (progress : Progress) (tag : Tag) (body : Text) : Attributes × Progress :=
  let (attributes, refused) := Attributes.parse tag body
  (attributes, progress.report (refused.map fun name => .warning (.invalidAttribute tag name)))

/-- The note on a region that was found. -/
def foundNote (name : Text) : Text := "Found start of region ".toList ++ name

/-- Looks for the start of the region to extract. -/
def await (context : SnippetContext) (line : Text) (progress : Progress) : Progress :=
  match MarkupComment.scan line with
  | none => progress
  | some comment =>
    if Tag.ofBody? comment.body = some .start then
      let (attributes, progress) := progress.readAttributes .start comment.body
      match attributes.value? .region with
      | none => progress.warn .startWithoutRegion
      | some name =>
        if context.region = some name then
          { progress.report [.note 3 (foundNote name)] with phase := .collecting }
        else progress
    else progress

/-- Opens a region for a start tag. -/
def handleStart (attributes : Attributes) (progress : Progress) : Progress :=
  match attributes.value? .region with
  | none => progress.warn .startWithoutRegion
  | some name => { progress with stack := progress.stack.push ⟨some name, none⟩ }

def finishExtraction (code : Text) (progress : Progress) : Progress :=
  { progress.emitVisible code with phase := .finished }

/-- Closes a region for an end tag.  The region to extract is closed by its name, or by a tag
without a name when no other region is open. -/
def handleEnd (context : SnippetContext) (attributes : Attributes) (code : Text)
    (progress : Progress) : Progress :=
  match attributes.value? .region with
  | some name =>
    -- The extracted region comes first, even if another with its name is open inside of it.
    if context.region = some name then progress.finishExtraction code
    else
      match progress.stack.close? (some name) with
      | some (_, stack) => { progress with stack := stack }.emitVisible code
      | none => (progress.warn (.unknownRegion name)).emitVisible code
  | none =>
    match progress.stack.close? none with
    | some (_, stack) => { progress with stack := stack }.emitVisible code
    | none =>
      if context.region.isSome then progress.finishExtraction code
      else (progress.warn .unmatchedEnd).emitVisible code

/-- Applies a highlight, replace or link tag to its line, and keeps it as a region if the tag
mentions one. -/
def handleOperation (context : SnippetContext) (tag : Tag) (attributes : Attributes)
    (code : Text) (progress : Progress) : Progress × Flow :=
  match Operation.build context.toMarkupContext tag attributes progress.store with
  | .error failure => (progress, .fail failure)
  | .ok built =>
    let progress := { progress.report built.journal with store := built.store }
    match built.operation with
    | none => (progress.emitVisible code, .next)
    | some operation =>
      let progress :=
        -- A region without a name is closed by an end tag without a name.
        if attributes.mentions .region then
          { progress with
            stack := progress.stack.push ⟨attributes.value? .region, some operation⟩ }
        else progress
      match operation.apply code with
      | .error failure => (progress, .fail failure)
      | .ok line => (progress.emitVisible (Text.trimRight line), .next)

def handleTag (context : SnippetContext) (tag : Tag) (body code : Text) (progress : Progress) :
    Progress × Flow :=
  let (attributes, progress) := progress.readAttributes tag body
  match tag with
  | .start => (progress.handleStart attributes, .next)
  | .finish => (progress.handleEnd context attributes code, .next)
  | _ => progress.handleOperation context tag attributes code

/-- Takes a line that is to be collected. -/
def collect (context : SnippetContext) (isLast : Bool) (line : Text) (progress : Progress) :
    Progress × Flow :=
  match MarkupComment.scan line with
  | none =>
    match progress.render line with
    | .error failure => (progress, .fail failure)
    | .ok shown => (progress.emit shown, .next)
  | some comment =>
    match progress.render comment.code with
    | .error failure => (progress, .fail failure)
    | .ok code =>
      -- The comment goes to the next line without its colon; this line is shown as it is.
      if comment.continues then
        if isLast then (progress.warn .danglingContinuation, .stop)
        else
          ({ progress.emitVisible code with
              carried := some ⟨comment.introducer, comment.body.dropLast⟩ }, .next)
      else
        match Tag.ofBody? comment.body with
        | none => (progress, .next)
        | some tag =>
          match progress.handleTag context tag comment.body code with
          | (progress, .next) =>
            -- Nothing after the end of the extracted region is looked at.
            (progress, if progress.phase = .finished then .stop else .next)
          | failed => failed

/-! ## Steps and runs -/

def step (context : SnippetContext) (isLast : Bool) (line : Text) (progress : Progress) :
    Progress × Flow :=
  let whole := progress.withCarried line
  let progress := { progress with carried := none }
  if progress.phase = .awaiting then (progress.await context whole, .next)
  else progress.collect context isLast whole

/-- Takes some lines, up to the one after which no further line is taken. -/
def run (context : SnippetContext) : List Text → Progress → Progress × Option MarkupFailure
  | [], progress => (progress, none)
  | line :: rest, progress =>
    match progress.step context rest.isEmpty line with
    | (progress, .next) => run context rest progress
    | (progress, .stop) => (progress, none)
    | (progress, .fail failure) => (progress, some failure)

/-- The problems that only the end of the lines shows. -/
def closingProblems (context : SnippetContext) (progress : Progress) : Journal Problem :=
  (if progress.stack.size = 0 then [] else [.warning (.unclosedRegions progress.stack.names)]) ++
    (if context.region.isSome ∧ progress.phase ≠ .finished then [.error .unclosedExtraction]
      else [])

/-- The note on the lines that were worked through. -/
def parsedNote (lines output : Nat) : Text :=
  "Parsed ".toList ++ Text.ofNat lines ++ " lines into ".toList ++ Text.ofNat output

/-- Works through the lines of a snippet.  The journal is that of these lines only. -/
def parse (context : SnippetContext) (lines : List Text) (progress : Progress) :
    Progress × Option MarkupFailure :=
  match run context lines { progress with carried := none, journal := [] } with
  | (progress, some failure) => (progress, some failure)
  | (progress, none) =>
    (progress.report (progress.closingProblems context ++
      [.note 3 (parsedNote lines.length progress.output.length)]), none)

/-- The output lines as one text, without the indentation that they share. -/
def text (progress : Progress) : Text := Text.trimIndent (Text.joinLines progress.output)

end Progress

end SnippetMarkup
