import SnippetMarkup.Settings.Basic
import SnippetMarkup.Program.Dotenv
import SnippetMarkup.Unicode.Casing

/-!
# Settings from the environment

Every setting has a variable, whose name is compared without regard to case.  The environment
counts before the settings file, and the file must not set anything that is not known.

Only the program looks into its environment; runs take settings as they are given.
-/

namespace SnippetMarkup

inductive SettingName where
  | unresolvedPlaceholder
  | wrapTag
  | linkAttribute
  | messagePrefix
  | fileEncoding
  | classExtension
  | strictMode
  deriving DecidableEq, Repr

namespace SettingName

def all : List SettingName :=
  [unresolvedPlaceholder, wrapTag, linkAttribute, messagePrefix, fileEncoding, classExtension,
    strictMode]

def written : SettingName → Text
  | unresolvedPlaceholder => "unresolved_placeholder".toList
  | wrapTag => "wrap_tag".toList
  | linkAttribute => "link_attribute".toList
  | messagePrefix => "message_prefix".toList
  | fileEncoding => "file_encoding".toList
  | classExtension => "class_extension".toList
  | strictMode => "strict_mode".toList

/-- The name of the variable of a setting, in small letters. -/
def variableName (name : SettingName) : Text := "snipmark_".toList ++ name.written

end SettingName

inductive SettingFault where
  | noTruthValue (name : SettingName)
  /-- The settings file sets something that is not known. -/
  | unknown (name : Text)
  deriving DecidableEq, Repr

namespace Settings

def truthWords : List (String × Bool) := [
  ("true", true), ("false", false), ("1", true), ("0", false), ("yes", true), ("no", false),
  ("on", true), ("off", false), ("t", true), ("f", false), ("y", true), ("n", false)]

/-- The truth value that a word stands for, in letters of any case. -/
def truthValue? (word : Text) : Option Bool :=
  truthWords.lookup (String.ofList (word.map Char.toLower))

/-- The settings with a value given to one of them. -/
def set (settings : Settings) (name : SettingName) (value : Text) :
    Except SettingFault Settings :=
  match name with
  | .unresolvedPlaceholder => .ok { settings with unresolvedPlaceholder := value }
  | .wrapTag => .ok { settings with wrapTag := value }
  | .linkAttribute => .ok { settings with linkAttribute := value }
  | .messagePrefix => .ok { settings with messagePrefix := value }
  | .fileEncoding => .ok { settings with fileEncoding := value }
  | .classExtension => .ok { settings with classExtension := value }
  | .strictMode =>
    match truthValue? value with
    | some isStrict => .ok { settings with strictMode := isStrict }
    | none => .error (.noTruthValue .strictMode)

/-- Variables by their names in small letters, the last one of a name counting. -/
def foldNames (values : Dotenv.Values) : Dotenv.Values :=
  values.foldl (fun folded (name, value) => Dotenv.Values.put folded (Unicode.lower name) value) []

def value? (environment file : Dotenv.Values) (name : SettingName) : Option Text :=
  match (environment.lookup name.variableName).join with
  | some value => some value
  -- A name without a value in the file gives none.
  | none => (file.lookup name.variableName).join

/-- Whether a name in the settings file can be passed over: it has no value, it is the variable of
a setting, or it is the name of one. -/
def isKnown (name : Text) (value : Option Text) : Bool :=
  (value.getD []).isEmpty ||
    SettingName.all.any fun setting => name == setting.variableName || name == setting.written

/-- The settings that the environment and a settings file give, or what is wrong with them. -/
def ofEnvironment (present : List (Text × Text)) (dotenv : Text) :
    Except (List SettingFault) Settings :=
  let environment := foldNames (present.map fun (name, value) => (name, some value))
  let file := foldNames (Dotenv.resolve present (Dotenv.ofText dotenv))
  let given := SettingName.all.filterMap fun name =>
    (value? environment file name).map fun value => (name, value)
  let unknown := file.filterMap fun (name, value) =>
    if isKnown name value then none else some (.unknown name)
  let (settings, faults) := given.foldl (fun (settings, faults) (name, value) =>
    match set settings name value with
    | .ok settings => (settings, faults)
    | .error fault => (settings, faults ++ [fault])) (({} : Settings), ([] : List SettingFault))
  if (faults ++ unknown).isEmpty then .ok settings else .error (faults ++ unknown)

end Settings

end SnippetMarkup
