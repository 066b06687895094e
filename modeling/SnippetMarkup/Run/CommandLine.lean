import SnippetMarkup.Run.State
import SnippetMarkup.Text.Quoted
import SnippetMarkup.Unicode.Digit

/-!
# Command lines

The arguments of a command line are options, the values of options, and the two folders.  An option
may be shortened as long as it is clear which one is meant.  Short options without values can be
run together, and everything after two dashes is no option.
-/

namespace SnippetMarkup

inductive CommandOption where
  | help
  | inputFile
  | region
  | targets
  | snippetId
  | lang
  | outputFile
  | verbosity
  | version
  | saveInputMeta
  | saveOutputMeta
  deriving DecidableEq, Repr

namespace CommandOption

def all : List CommandOption :=
  [help, inputFile, region, targets, snippetId, lang, outputFile, verbosity, version,
    saveInputMeta, saveOutputMeta]

/-- The ways in which an option is written. -/
def names : CommandOption → List Text
  | help => ["-h".toList, "--help".toList]
  | inputFile => ["--inputFile".toList]
  | region => ["--region".toList]
  | targets => ["--targets".toList]
  | snippetId => ["--snippetId".toList]
  | lang => ["--lang".toList]
  | outputFile => ["--outputFile".toList]
  | verbosity => ["-v".toList, "--verbosity".toList]
  | version => ["-V".toList, "--version".toList]
  | saveInputMeta => ["--saveinputmeta".toList]
  | saveOutputMeta => ["--saveoutputmeta".toList]

def hasValue : CommandOption → Bool
  | inputFile | region | targets | snippetId | lang | outputFile => true
  | _ => false

/-- An option as it is called in a complaint. -/
def title (option : CommandOption) : Text := List.intercalate ['/'] option.names

def allNames : List (Text × CommandOption) :=
  all.flatMap fun option => option.names.map fun name => (name, option)

def ofName? (name : Text) : Option CommandOption := allNames.lookup name

end CommandOption

inductive UsageFault where
  | ambiguous (written : Text) (meanings : List Text)
  | missingValue (option : CommandOption)
  /-- An option has a value that it cannot have. -/
  | unwantedValue (option : CommandOption) (value : Text)
  | missing (names : List Text)
  | unrecognized (arguments : List Text)
  deriving DecidableEq, Repr

/-- What is wrong with a command line. -/
def UsageFault.message : UsageFault → Text
  | ambiguous written meanings =>
    "ambiguous option: ".toList ++ written ++ " could match ".toList ++ Text.commaList meanings
  | missingValue option => "argument ".toList ++ option.title ++ ": expected one argument".toList
  | unwantedValue option value =>
    "argument ".toList ++ option.title ++ ": ignored explicit argument ".toList ++
      Text.quoted value
  | missing names => "the following arguments are required: ".toList ++ Text.commaList names
  | unrecognized arguments =>
    "unrecognized arguments: ".toList ++ List.intercalate [' '] arguments

namespace CommandLine

/-! ## Arguments -/

inductive Argument where
  | plain (text : Text)
  | dashes
  /-- An option in a way of writing it, with what is written together with it. -/
  | option (option : CommandOption) (name : Text) (attached : Option Text)
  | unknown (text : Text)
  deriving DecidableEq, Repr

/-- Whether an argument is a negative number.  A line feed at its end does not count. -/
def isNegativeNumber (text : Text) : Bool :=
  match if text.getLast? = some '\n' then text.dropLast else text with
  | '-' :: rest =>
    let whole := rest.takeWhile Unicode.isDigit
    match rest.drop whole.length with
    | [] => !whole.isEmpty
    | '.' :: part => !part.isEmpty && part.all Unicode.isDigit
    | _ => false
  | _ => false

/-- The options that something like an option can mean: with two dashes those that begin so, up to
an equals sign; with one the short option that it begins with. -/
def meanings (text : Text) : List (Text × CommandOption × Option Text) :=
  match text with
  | '-' :: '-' :: _ =>
    let (start, attached) :=
      match Text.splitFirst? '=' text with
      | some (start, value) => (start, some value)
      | none => (text, none)
    CommandOption.allNames.filterMap fun (name, option) =>
      if start.isPrefixOf name then some (name, option, attached) else none
  | _ =>
    CommandOption.allNames.filterMap fun (name, option) =>
      if name = text.take 2 then some (name, option, some (text.drop 2))
      else if text.isPrefixOf name then some (name, option, none)
      else none

/-- What an argument is that begins with a dash and is not the name of an option. -/
def classifyOther (text : Text) : Except UsageFault Argument :=
  -- All options count for a shortened one, also those of no effect.
  match meanings text with
  | [(name, option, attached)] => .ok (.option option name attached)
  | [] => .ok (if isNegativeNumber text || text.contains ' ' then .plain text else .unknown text)
  | several => .error (.ambiguous text (several.map (·.1)))

/-- What an argument before two dashes is. -/
def classify (text : Text) : Except UsageFault Argument :=
  match text with
  | '-' :: _ :: _ =>
    match CommandOption.ofName? text with
    | some option => .ok (.option option text none)
    | none =>
      match Text.splitFirst? '=' text with
      | none => classifyOther text
      | some (name, value) =>
        match CommandOption.ofName? name with
        | some option => .ok (.option option name (some value))
        | none => classifyOther text
  | _ => .ok (.plain text)

/-- What the arguments of a command line are. -/
def classifyAll : List Text → Except UsageFault (List Argument)
  | [] => .ok []
  | text :: rest =>
    if text = ['-', '-'] then .ok (.dashes :: rest.map .plain)
    else do
      let argument ← classify text
      return argument :: (← classifyAll rest)

/-! ## Reading -/

/-- What has been read of a command line. -/
structure Given where
  folders : List Text := []
  /-- The values of options, the latest first. -/
  values : List (CommandOption × Text) := []
  verbosity : Int := 1
  extras : List Text := []

namespace Given

/-- The number of folders that a command line has. -/
def folderCount : Nat := 2

/-- The value of an option, the last one if there are several. -/
def value? (given : Given) (option : CommandOption) : Option Text := given.values.lookup option

end Given

inductive Request where
  | help
  | version
  | run (options : RunOptions)
  deriving DecidableEq, Repr

/-- A command line that has been read, or what it asks for before its end. -/
abbrev Reading := Except UsageFault (Given ⊕ Request)

/-- The options that are run together with a short one: those without values, and the last one with
the value that is attached to it. -/
def splitShort (option : CommandOption) :
    Text → Except UsageFault (List CommandOption × CommandOption × Option Text)
  | [] => .ok ([], option, none)
  | c :: more =>
    if option.hasValue then .ok ([], option, some (c :: more))
    else
      match CommandOption.ofName? ['-', c] with
      | none => .error (.unwantedValue option (c :: more))
      | some next =>
        (splitShort next more).map fun (flags, last, value) => (option :: flags, last, value)

/-- The options that an argument stands for, when something is attached to the first one. -/
def split (option : CommandOption) (isShort : Bool) (attached : Option Text) :
    Except UsageFault (List CommandOption × CommandOption × Option Text) :=
  match attached with
  | none => .ok ([], option, none)
  | some value =>
    if option.hasValue then .ok ([], option, some value)
    else if isShort && !value.isEmpty then splitShort option value
    else .error (.unwantedValue option value)

/-- Takes up an option without a value. -/
def flag (option : CommandOption) (given : Given) : Given ⊕ Request :=
  match option with
  | .help => .inr .help
  | .version => .inr .version
  | .verbosity => .inl { given with verbosity := given.verbosity + 1 }
  | _ => .inl given

def flags : List CommandOption → Given → Given ⊕ Request
  | [], given => .inl given
  | option :: rest, given =>
    match flag option given with
    | .inl given => flags rest given
    | request => request

/-- Reads the arguments from left to right; `afterFolder` says that the last one was a folder.  Two
dashes next to a folder are passed over. -/
def readAll (afterFolder : Bool) (given : Given) : List Argument → Reading
  | [] => .ok (.inl given)
  | .plain text :: rest =>
    if given.folders.length < Given.folderCount then
      readAll true { given with folders := given.folders ++ [text] } rest
    else readAll false { given with extras := given.extras ++ [text] } rest
  | .dashes :: rest =>
    if afterFolder || (given.folders.length < Given.folderCount && !rest.isEmpty) then
      readAll false given rest
    else readAll false { given with extras := given.extras ++ [['-', '-']] } rest
  | .unknown text :: rest => readAll false { given with extras := given.extras ++ [text] } rest
  | .option option name attached :: rest =>
    match split option (name.length == 2) attached with
    | .error fault => .error fault
    | .ok (before, last, value) =>
      if last.hasValue then
        match value, rest with
        | some value, rest =>
          match flags before given with
          | .inl given => readAll false { given with values := (last, value) :: given.values } rest
          | request => .ok request
        -- A value of its own must not look like an option.
        | none, .plain value :: rest =>
          match flags before given with
          | .inl given => readAll false { given with values := (last, value) :: given.values } rest
          | request => .ok request
        | none, _ => .error (.missingValue last)
      else
        match flags (before ++ [last]) given with
        | .inl given => readAll false given rest
        | request => .ok request

def folderNames : List Text := ["inputdir".toList, "outputdir".toList]

/-- The names of the arguments that are not there and must be. -/
def missing (given : Given) : List Text :=
  (if (given.value? .inputFile).isNone then [CommandOption.inputFile.title] else []) ++
    folderNames.drop given.folders.length

/-- What a command line asks for when it has been read to its end. -/
def request (given : Given) : Except UsageFault Request :=
  match given.folders, given.value? .inputFile with
  | [input, output], some inputFile =>
    if given.extras.isEmpty then
      .ok (.run
        { inputFolder := Path.ofText input
          outputFolder := Path.ofText output
          verbosity := given.verbosity
          inputFile := inputFile
          region := given.value? .region
          targets := given.value? .targets
          snippetId := given.value? .snippetId
          lang := given.value? .lang
          outputFile := given.value? .outputFile })
    else .error (.unrecognized given.extras)
  | _, _ => .error (.missing (missing given))

def read (arguments : List Text) : Except UsageFault Request := do
  match ← readAll false {} (← classifyAll arguments) with
  | .inl given => request given
  | .inr request => return request

end CommandLine

end SnippetMarkup
