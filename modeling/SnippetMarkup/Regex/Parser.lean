import SnippetMarkup.Regex.Syntax
import SnippetMarkup.Regex.Error
import SnippetMarkup.Unicode.Identifier

/-!
# Reading regular expressions

A pattern is read token by token; a backslash and the character after it are one token.  One
token is looked at ahead of time, so a lone backslash at the end of a pattern is found as soon as
the token before it is taken.
-/

namespace SnippetMarkup.Regex

/-! ## Flags -/

/-- The flags that are in force at a place of a pattern. -/
structure Flags where
  ignoreCase : Bool := false
  multiline : Bool := false
  dotAll : Bool := false
  verbose : Bool := false
  ascii : Bool := false
  unicode : Bool := false
  template : Bool := false
  deriving DecidableEq, Repr

inductive Flag where
  | ignoreCase
  | locale
  | multiline
  | dotAll
  | verbose
  | ascii
  | template
  | unicode
  deriving DecidableEq, Repr

namespace Flag

/-- The flag that a token stands for. -/
def ofToken? : Text → Option Flag
  | ['i'] => some ignoreCase
  | ['L'] => some locale
  | ['m'] => some multiline
  | ['s'] => some dotAll
  | ['x'] => some verbose
  | ['a'] => some ascii
  | ['t'] => some template
  | ['u'] => some unicode
  | _ => none

/-- Whether a flag says what counts as text. -/
def isTextual : Flag → Bool
  | locale | ascii | unicode => true
  | _ => false

end Flag

namespace Flags

/-- The flags with one of them turned on or off. -/
def set (flags : Flags) (flag : Flag) (value : Bool) : Flags :=
  match flag with
  | .ignoreCase => { flags with ignoreCase := value }
  | .locale => flags
  | .multiline => { flags with multiline := value }
  | .dotAll => { flags with dotAll := value }
  | .verbose => { flags with verbose := value }
  | .ascii => { flags with ascii := value }
  | .template => { flags with template := value }
  | .unicode => { flags with unicode := value }

/-- The flags inside a group that turns some on and some off. -/
def within (flags : Flags) (on off : List Flag) : Flags :=
  let base :=
    if on.any Flag.isTextual then { flags with ascii := false, unicode := false } else flags
  off.foldl (·.set · false) (on.foldl (·.set · true) base)

/-- How characters are compared under these flags. -/
def folding (flags : Flags) : Folding :=
  if flags.ignoreCase then if flags.ascii then .ascii else .unicode else .exact

end Flags

/-! ## The reader -/

def tokens : Text → List Text
  | '\\' :: c :: rest => ['\\', c] :: tokens rest
  | c :: rest => [c] :: tokens rest
  | [] => []

/-- The least and the greatest number of characters that an expression matches. -/
abbrev Width := Nat × Nat

/-- A number of repetitions from this one on is refused, and no bound stands for it. -/
def repetitionLimit : Nat := 4294967295

/-- A group number from this one on cannot be referred to. -/
def groupLimit : Nat := 1073741823

/-- The code points of characters by their names. -/
abbrev CharacterNames := Text → Option Nat

/-- Where the reader is, and what it knows of the groups it has met. -/
structure Reader where
  characters : CharacterNames
  tokens : List Text
  position : Nat := 0
  flags : Flags := {}
  /-- The widths of the groups from the first one on, of an open group none. -/
  groups : List (Option Width) := []
  names : List (Text × Nat) := []
  /-- The number of the first group that opens inside the outermost lookbehind. -/
  lookbehind : Option Nat := none
  /-- The group numbers in conditions, with the places of their first mention. -/
  conditions : List (Nat × Nat) := []

abbrev Reading := StateT Reader (Except Refusal)

namespace Reading

/-- Refuses the pattern at `back` characters before the next token. -/
def refuse {α : Type} (cause : Cause) (back : Nat) : Reading α := do
  let reader ← get
  throw (.invalid ⟨cause, some (reader.position - back)⟩)

def peek : Reading (Option Text) := do return (← get).tokens.head?

def tell : Reading Nat := do return (← get).position

def take : Reading (Option Text) := do
  let reader ← get
  match reader.tokens with
  | [] => return none
  | token :: rest =>
    let position := reader.position + token.length
    -- The token after this one is looked at already here.
    if rest.head? = some ['\\'] then throw (.invalid ⟨.danglingEscape, some position⟩)
    set { reader with tokens := rest, position := position }
    return some token

/-- Takes the next token if it is the given character. -/
def accept (c : Char) : Reading Bool := do
  if (← peek) = some [c] then
    let _ ← take
    return true
  else return false

/-- The next token if it is a single character that satisfies a condition. -/
def acceptIf (p : Char → Bool) : Reading (Option Char) := do
  match ← peek with
  | some [c] =>
    if p c then
      let _ ← take
      return some c
    else return none
  | _ => return none

/-- Takes at most `n` characters that satisfy a condition. -/
def takeWhile (p : Char → Bool) : Nat → Reading Text
  | 0 => return []
  | n + 1 => do
    match ← acceptIf p with
    | some c => return c :: (← takeWhile p n)
    | none => return []

/-- Takes a name up to its terminator, within the given number of tokens. -/
def takeName (terminator : Char) (kind : Text) (name : Text) : Nat → Reading Text
  | 0 => refuse .unexpectedEnd 0
  | fuel + 1 => do
    match ← take with
    | none =>
      if name = [] then refuse (.nameMissing kind) 0
      else refuse (.nameUnterminated terminator) name.length
    | some token =>
      if token = [terminator] then
        if name = [] then refuse (.nameMissing kind) 1 else return name
      else takeName terminator kind (name ++ token) fuel

/-- The number of tokens that are left. -/
def remaining : Reading Nat := do return (← get).tokens.length

/-- Takes a name up to its terminator. -/
def name (terminator : Char) (kind : Text) : Reading Text := do
  takeName terminator kind [] ((← remaining) + 1)

/-! ## Groups -/

def nextGroup : Reading Nat := do return (← get).groups.length + 1

def isClosed (index : Nat) : Reading Bool := do
  return 1 ≤ index && ((← get).groups[index - 1]?).join.isSome

/-- Opens a group, which may have a name. -/
def openGroup (name : Option Text) : Reading Nat := do
  let index ← nextGroup
  if let some name := name then
    match (← get).names.lookup name with
    | some earlier => refuse (.redefinedGroup name index earlier) (name.length + 1)
    | none => modify fun reader => { reader with names := reader.names ++ [(name, index)] }
  modify fun reader => { reader with groups := reader.groups ++ [none] }
  return index

/-- Refuses a group that is not complete or was opened in the same lookbehind. -/
def checkLookbehind (index : Nat) : Reading Unit := do
  if let some first := (← get).lookbehind then
    if !(← isClosed index) then refuse .openGroup 0
    if first ≤ index then refuse .groupInLookbehind 0

/-- Refuses a name that is no identifier. -/
def checkName (name : Text) : Reading Unit := do
  if !Unicode.isIdentifier name then refuse (.badGroupName name) (name.length + 1)

end Reading

/-! ## Widths -/

/-- The width of an expression, given those of the groups.  Both ends are cut off at the limit
for repetitions. -/
def Node.width (groups : List (Option Width)) : Node → Width
  | .empty | .fail | .place _ | .ahead .. | .behind .. => (0, 0)
  | .char .. | .set .. | .any _ => (1, 1)
  | .seq first second =>
    let (low, high) := first.width groups
    let (low', high') := second.width groups
    (min (low + low') (repetitionLimit - 1), min (high + high') repetitionLimit)
  | .alt first second =>
    let (low, high) := first.width groups
    let (low', high') := second.width groups
    (min low low', max high high')
  | .repeated least most _ body =>
    let (low, high) := body.width groups
    (min (low * least) (repetitionLimit - 1),
      min (high * most.getD repetitionLimit) repetitionLimit)
  | .bracket body | .group _ body | .atomic body => body.width groups
  | .again index _ => (groups[index - 1]?).join.getD (0, 0)
  | .choice _ yes no =>
    let (low, high) := yes.width groups
    let (low', high') := no.width groups
    (min low low', max high high')

/-- The expression with the widths of its lookbehinds, which must be fixed.  In a template,
nothing may be repeated. -/
def Node.settle (groups : List (Option Width)) (template : Bool) : Node → Except Cause Node
  | .seq first second => do
    return .seq (← first.settle groups template) (← second.settle groups template)
  | .alt first second => do
    return .alt (← first.settle groups template) (← second.settle groups template)
  | .repeated least most greed body => do
    if template then
      throw (.repeatInTemplate (match greed with
        | .greedy => "MAX_REPEAT".toList
        | .reluctant => "MIN_REPEAT".toList
        | .possessive => "POSSESSIVE_REPEAT".toList))
    return .repeated least most greed (← body.settle groups template)
  | .bracket body => do return .bracket (← body.settle groups template)
  | .group index body => do return .group index (← body.settle groups template)
  | .atomic body => do return .atomic (← body.settle groups template)
  | .ahead negated body => do return .ahead negated (← body.settle groups template)
  | .behind negated _ body => do
    let (low, high) := body.width groups
    if low ≠ high then throw .variableLookbehind
    return .behind negated low (← body.settle groups template)
  | .choice index yes no => do
    return .choice index (← yes.settle groups template) (← no.settle groups template)
  | node => return node

/-! ## Escapes -/

/-- Whether a character is an octal digit. -/
def isOctal (c : Char) : Bool := '0' ≤ c && c ≤ '7'

/-- Whether a character is a hexadecimal digit. -/
def isHex (c : Char) : Bool :=
  c.isDigit || ('a' ≤ c && c ≤ 'f') || ('A' ≤ c && c ≤ 'F')

def hexValue (c : Char) : Nat :=
  if c.isDigit then c.toNat - '0'.toNat
  else if 'a' ≤ c then c.toNat - 'a'.toNat + 10
  else c.toNat - 'A'.toNat + 10

/-- The number that some digits denote in a base of at most sixteen. -/
def baseValue (base : Nat) (digits : Text) : Nat :=
  digits.foldl (fun n c => base * n + hexValue c) 0

/-- The class of characters that an escape stands for, and whether it stands for the others. -/
def classEscape? : Char → Option (CharClass × Bool)
  | 'd' => some (.digit, false)
  | 'D' => some (.digit, true)
  | 's' => some (.space, false)
  | 'S' => some (.space, true)
  | 'w' => some (.word, false)
  | 'W' => some (.word, true)
  | _ => none

/-- The place that an escape stands for. -/
def anchorEscape? (flags : Flags) : Char → Option Anchor
  | 'A' => some .textStart
  | 'Z' => some .veryEnd
  | 'b' => some (.wordEdge flags.ascii false)
  | 'B' => some (.wordEdge flags.ascii true)
  | _ => none

/-- The character that an escape of a control character or of the backslash stands for. -/
def controlEscape? : Char → Option Nat
  | 'a' => some 7
  | 'b' => some 8
  | 'f' => some 12
  | 'n' => some 10
  | 'r' => some 13
  | 't' => some 9
  | 'v' => some 11
  | '\\' => some 92
  | _ => none

namespace Reading

/-- The code point of an escape with a fixed number of hexadecimal digits, of which the token
has been taken. -/
def hexEscape (token : Text) (digits : Nat) : Reading Nat := do
  let found ← takeWhile isHex digits
  let escape := token ++ found
  if found.length ≠ digits then refuse (.incompleteEscape escape) escape.length
  let code := baseValue 16 found
  if 0x80000000 ≤ code then throw .hugeCharacter
  if 0x10FFFF < code then refuse (.badEscape escape) escape.length
  return code

/-- The code point of an escape by a character's name. -/
def nameEscape : Reading Nat := do
  if !(← accept '{') then refuse .nameNotOpened 0
  let written ← name '}' "character name".toList
  match (← get).characters written with
  | some code => return code
  | none => refuse (.unknownCharacter written) (written.length + 4)

/-- The code point of an escape whose meaning is the same inside and outside of a set, if it is
one. -/
def numericEscape? (token : Text) (c : Char) :
    Reading (Option Nat) := do
  match c with
  | 'x' => return some (← hexEscape token 2)
  | 'u' => return some (← hexEscape token 4)
  | 'U' => return some (← hexEscape token 8)
  | 'N' => return some (← nameEscape)
  | _ => return none

/-- The code point of an octal escape with three digits. -/
def octalEscape (escape : Text) : Reading Nat := do
  let code := baseValue 8 (escape.drop 1)
  if 0xFF < code then refuse (.octalTooLarge escape) escape.length
  return code

/-- The set member that an escape inside a set stands for. -/
def setEscape (flags : Flags) (token : Text) (c : Char) :
    Reading SetItem := do
  if let some code := controlEscape? c then return .single code
  if let some (kind, negated) := classEscape? c then
    return .charClass kind flags.ascii negated
  if let some code ← numericEscape? token c then return .single code
  if isOctal c then
    return .single (← octalEscape (token ++ (← takeWhile isOctal 2)))
  if c.isAlphanum then refuse (.badEscape token) token.length
  return .single c.toNat

/-- The expression for the text of a group, of which the escape has been taken. -/
def groupEscape (flags : Flags) (escape : Text) : Reading Node := do
  let index := baseValue 10 (escape.drop 1)
  if index < (← nextGroup) then
    if !(← isClosed index) then refuse .openGroup escape.length
    checkLookbehind index
    return .again index flags.folding
  refuse (.invalidGroup index) (escape.length - 1)

/-- The expression that an escape outside of a set stands for. -/
def escape (flags : Flags) (token : Text) (c : Char) :
    Reading Node := do
  if let some (kind, negated) := classEscape? c then
    return .set false [.charClass kind flags.ascii negated] flags.folding
  if let some anchor := anchorEscape? flags c then return .place anchor
  if let some code := controlEscape? c then return .char code flags.folding
  if let some code ← numericEscape? token c then return .char code flags.folding
  if c = '0' then
    let escape := token ++ (← takeWhile isOctal 2)
    return .char (baseValue 8 (escape.drop 1)) flags.folding
  if c.isDigit then
    match ← acceptIf Char.isDigit with
    | none => groupEscape flags token
    | some d =>
      let pair := token ++ [d]
      -- Three octal digits are a code point; fewer, or others, are the number of a group.
      if isOctal c && isOctal d then
        if let some e ← acceptIf isOctal then
          return .char (← octalEscape (pair ++ [e])) flags.folding
      groupEscape flags pair
  else if c.isAlpha then refuse (.badEscape token) token.length
  else return .char c.toNat flags.folding

/-! ## Sets -/

/-- The set member that a token inside a set stands for. -/
def setToken (flags : Flags) : Text → Reading SetItem
  | ['\\', c] => setEscape flags ['\\', c] c
  | token => return .single ((token.head?.map Char.toNat).getD 0)

/-- The members of a set up to its bracket.  The set was opened at `start`, and the first member
may be a closing bracket. -/
def setItems (flags : Flags) (start : Nat) (items : List SetItem) :
    Nat → Reading (List SetItem)
  | 0 => refuse .unexpectedEnd 0
  | fuel + 1 => do
    let unterminated : Reading (List SetItem) := do
      refuse .unterminatedSet ((← tell) - start)
    match ← take with
    | none => unterminated
    | some token =>
      -- A closing bracket that comes first is a member of the set.
      if token = [']'] ∧ items ≠ [] then return items
      let low ← setToken flags token
      if ← accept '-' then
        match ← take with
        | none => unterminated
        | some [']'] => return items ++ [low, .single '-'.toNat]
        | some other =>
          let high ← setToken flags other
          match low, high with
          | .single a, .single b =>
            if b < a then
              refuse (.badRange token other) (token.length + 1 + other.length)
            setItems flags start (items ++ [.range a b]) fuel
          | _, _ => refuse (.badRange token other) (token.length + 1 + other.length)
      else setItems flags start (items ++ [low]) fuel

/-- The set whose opening bracket has been taken. -/
def charSet (flags : Flags) : Reading Node := do
  let start := (← tell) - 1
  let negated ← accept '^'
  let items ← setItems flags start [] ((← remaining) + 1)
  return .set negated items flags.folding

/-! ## Repetitions -/

/-- The bounds that a repetition gives, of which the first token has been taken; none if a brace
opens no bounds and stands for itself. -/
def bounds? (token : Char) : Reading (Option (Nat × Option Nat)) := do
  match token with
  | '?' => return some (0, some 1)
  | '*' => return some (0, none)
  | '+' => return some (1, none)
  | _ =>
    if (← peek) = some ['}'] then return none
    let start ← get
    let digits ← takeWhile Char.isDigit (← remaining)
    let upper ←
      if ← accept ',' then takeWhile Char.isDigit (← remaining) else pure digits
    if !(← accept '}') then
      -- The brace stands for itself, and what follows it is read again.
      set start
      return none
    if Text.digitLimit < digits.length then throw (.tooManyDigits digits.length)
    let least := if digits = [] then 0 else baseValue 10 digits
    if repetitionLimit ≤ least then throw .repetitionTooLarge
    if upper = [] then return some (least, none)
    if Text.digitLimit < upper.length then throw (.tooManyDigits upper.length)
    let most := baseValue 10 upper
    if repetitionLimit ≤ most then throw .repetitionTooLarge
    if most < least then refuse .boundsReversed ((← tell) - start.position)
    return some (least, some most)

/-- The expressions read so far, the last one first, with the last one repeated.  The repetition
was written at `start`. -/
def repeatLast (least : Nat) (most : Option Nat) (start : Nat) (items : List Node) :
    Reading (List Node) := do
  match items with
  | [] | .place _ :: _ => refuse .nothingToRepeat ((← tell) - start)
  | .repeated .. :: _ => refuse .multipleRepeat ((← tell) - start)
  | item :: rest =>
    let greed ←
      if ← accept '?' then pure Greed.reluctant
      else if ← accept '+' then pure Greed.possessive
      else pure Greed.greedy
    return .repeated least most greed item :: rest

/-! ## Flags in groups -/

def isLetter : Text → Bool
  | [c] => Unicode.isLetter c
  | _ => false

/-- The flags that are turned on, and the token after them. -/
def flagsOn (token : Text) (on : List Flag) : Nat → Reading (List Flag × Text)
  | 0 => refuse .unexpectedEnd 0
  | fuel + 1 => do
    match Flag.ofToken? token with
    | none => return (on, token)
    | some flag =>
      if flag = .locale then refuse .localeFlag 0
      let on := on ++ [flag]
      if flag.isTextual && on.any fun other => other.isTextual && other != flag then
        refuse .clashingTextFlags 0
      match ← take with
      | none => refuse .flagEndMissing 0
      | some next =>
        if next = [')'] ∨ next = ['-'] ∨ next = [':'] then return (on, next)
        if (Flag.ofToken? next).isNone then
          refuse (if isLetter next then .unknownFlag else .flagEndMissing) next.length
        flagsOn next on fuel

/-- The flags that are turned off, up to the colon. -/
def flagsOff (token : Text) (off : List Flag) : Nat → Reading (List Flag)
  | 0 => refuse .unexpectedEnd 0
  | fuel + 1 => do
    match Flag.ofToken? token with
    | none => return off
    | some flag =>
      if flag.isTextual then refuse .textFlagOff 0
      let off := off ++ [flag]
      match ← take with
      | none => refuse .colonMissing 0
      | some next =>
        if next = [':'] then return off
        if (Flag.ofToken? next).isNone then
          refuse (if isLetter next then .unknownFlag else .colonMissing) next.length
        flagsOff next off fuel

/-- The flags that a group turns on and off, of which the first token has been taken; none if
they are for the whole pattern. -/
def groupFlags (token : Text) : Reading (Option (List Flag × List Flag)) := do
  let (on, last) ←
    if token = ['-'] then pure ([], token) else flagsOn token [] ((← remaining) + 2)
  if last = [')'] then
    modify fun reader => { reader with flags := on.foldl (·.set · true) reader.flags }
    return none
  if on.contains .template then refuse .globalFlagOn 1
  let off ←
    if last = ['-'] then
      match ← take with
      | none => refuse .flagMissing 0
      | some next =>
        if (Flag.ofToken? next).isNone then
          refuse (if isLetter next then .unknownFlag else .flagMissing) next.length
        flagsOff next [] ((← remaining) + 2)
    else pure []
  if off.contains .template then refuse .globalFlagOff 1
  if on.any off.contains then refuse .flagOnAndOff 1
  return some (on, off)

/-! ## Conditions on groups -/

/-- The digits of a number, between any two of which one underscore may stand. -/
def groupedDigits? : Text → Option Text
  | [] => none
  | [c] => if Unicode.isDigit c then some [c] else none
  | c :: '_' :: rest =>
    if Unicode.isDigit c then (groupedDigits? rest).map (c :: ·) else none
  | c :: rest => if Unicode.isDigit c then (groupedDigits? rest).map (c :: ·) else none

/-- The number that a text denotes, with white space around it and a sign. -/
def integer? (text : Text) : Option Int :=
  let trimmed := Text.trimRight (Text.trimLeft text)
  let (negative, digits) :=
    match trimmed with
    | '-' :: rest => (true, rest)
    | '+' :: rest => (false, rest)
    | _ => (false, trimmed)
  (groupedDigits? digits).bind fun digits =>
    if Text.digitLimit < digits.length then none
    else
      let n := Unicode.numeral digits
      some (if negative then -(n : Int) else n)

/-- The group that a condition asks for, by name or by number. -/
def conditionGroup : Reading Nat := do
  let written ← name ')' "group name".toList
  if Unicode.isIdentifier written then
    match (← get).names.lookup written with
    | some index => return index
    | none => refuse (.unknownGroupName written) (written.length + 1)
  else
    match integer? written with
    | some (.ofNat index) =>
      if index = 0 then refuse .badGroupNumber (written.length + 1)
      if groupLimit ≤ index then refuse (.invalidGroup index) (written.length + 1)
      if ((← get).conditions.lookup index).isNone then
        let place := (← tell) - written.length - 1
        modify fun reader => { reader with conditions := reader.conditions ++ [(index, place)] }
      return index
    | _ => refuse (.badGroupName written) (written.length + 1)

/-! ## Expressions -/

/-- Passes over the rest of a comment group that was opened at `start`. -/
def skipComment (start : Nat) : Nat → Reading Unit
  | 0 => refuse .unexpectedEnd 0
  | fuel + 1 => do
    match ← peek with
    | none => refuse .unterminatedComment ((← tell) - start)
    | some token =>
      let _ ← take
      if token ≠ [')'] then skipComment start fuel

/-- Passes over the rest of a line. -/
def skipLine : Nat → Reading Unit
  | 0 => return ()
  | fuel + 1 => do
    match ← take with
    | none => return ()
    | some token => if token ≠ ['\n'] then skipLine fuel

inductive Group where
  | comment
  | flags
  | item (node : Node)

/-- Takes the closing parenthesis of a group that was opened at `start`. -/
def close (start : Nat) : Reading Unit := do
  if !(← accept ')') then refuse .unterminatedGroup ((← tell) - start)

mutual

/-- Alternatives up to a closing parenthesis or the end. -/
def alternatives (flags : Flags) (outermost : Bool)
    (earlier : List (List Node)) : Nat → Reading (List Node)
  | 0 => refuse .unexpectedEnd 0
  | fuel + 1 => do
    let item ← sequence flags (outermost && earlier.isEmpty) [] fuel
    if ← accept '|' then
      let reader ← get
      -- Flags for the whole pattern may have been set at the start of the first alternative.
      let flags := if outermost then reader.flags else flags
      alternatives flags outermost (earlier ++ [item]) fuel
    else if earlier.isEmpty then return item
    else return [Node.ofAlternatives ((earlier ++ [item]).map Node.ofList)]

/-- One expression after the other up to a bar, a closing parenthesis or the end, given those
read before, the last one first.  At the start of a pattern flags for all of it may stand. -/
def sequence (flags : Flags) (atStart : Bool) (items : List Node) :
    Nat → Reading (List Node)
  | 0 => refuse .unexpectedEnd 0
  | fuel + 1 => do
    match ← peek with
    | none | some ['|'] | some [')'] => return items.reverse
    | some token =>
      let _ ← take
      match token with
      | ['\\', c] =>
        let item ← escape flags token c
        sequence flags atStart (item :: items) fuel
      | [c] =>
        if flags.verbose && Unicode.isAsciiSpace c then
          sequence flags atStart items fuel
        else if flags.verbose && c = '#' then
          skipLine (← remaining)
          sequence flags atStart items fuel
        else
          match c with
          | '[' =>
            let item ← charSet flags
            sequence flags atStart (item :: items) fuel
          | '.' => sequence flags atStart (.any flags.dotAll :: items) fuel
          | '^' =>
            let anchor := if flags.multiline then Anchor.lineStart else .textStart
            sequence flags atStart (.place anchor :: items) fuel
          | '$' =>
            let anchor := if flags.multiline then Anchor.lineEnd else .textEnd
            sequence flags atStart (.place anchor :: items) fuel
          | '(' =>
            match ← group flags (atStart && items.isEmpty) fuel with
            | .comment => sequence flags atStart items fuel
            | .flags =>
              let reader ← get
              sequence reader.flags atStart items fuel
            | .item item => sequence flags atStart (item :: items) fuel
          | '*' | '+' | '?' | '{' =>
            let start := (← tell) - 1
            match ← bounds? c with
            | none => sequence flags atStart (.char c.toNat flags.folding :: items) fuel
            | some (least, most) =>
              let items ← repeatLast least most start items
              sequence flags atStart items fuel
          | _ => sequence flags atStart (.char c.toNat flags.folding :: items) fuel
      | _ => refuse .unexpectedEnd 0

/-- The group whose opening parenthesis has been taken. -/
def group (flags : Flags) (flagsAllowed : Bool) :
    Nat → Reading Group
  | 0 => refuse .unexpectedEnd 0
  | fuel + 1 => do
    let start := (← tell) - 1
    if !(← accept '?') then
      return .item (← captured flags none start fuel)
    match ← take with
    | none => refuse .unexpectedEnd 0
    | some ['P'] =>
      if ← accept '<' then
        let written ← name '>' "group name".toList
        checkName written
        return .item (← captured flags (some written) start fuel)
      else if ← accept '=' then
        let written ← name ')' "group name".toList
        checkName written
        match (← get).names.lookup written with
        | none => refuse (.unknownGroupName written) (written.length + 1)
        | some index =>
          if !(← isClosed index) then refuse .openGroup (written.length + 1)
          checkLookbehind index
          return .item (.again index flags.folding)
      else
        match ← take with
        | none => refuse .unexpectedEnd 0
        | some token => refuse (.unknownExtension ("?P".toList ++ token)) (token.length + 2)
    | some [':'] => return .item (.bracket (← inside flags start fuel))
    | some ['#'] =>
      skipComment start ((← remaining) + 1)
      return .comment
    | some ['='] => return .item (.ahead false (← inside flags start fuel))
    | some ['!'] => return .item (.ahead true (← inside flags start fuel))
    | some ['<'] =>
      let negated ←
        match ← take with
        | none => refuse .unexpectedEnd 0
        | some ['='] => pure false
        | some ['!'] => pure true
        | some token => refuse (.unknownExtension ("?<".toList ++ token)) (token.length + 2)
      let outer := (← get).lookbehind
      if outer.isNone then
        let first ← nextGroup
        modify fun reader => { reader with lookbehind := some first }
      let items ← alternatives flags false [] fuel
      -- Only the outermost lookbehind limits the groups that can be referred to.
      if outer.isNone then modify fun reader => { reader with lookbehind := none }
      close start
      return .item (.behind negated 0 (Node.ofList items))
    | some ['('] =>
      let index ← conditionGroup
      checkLookbehind index
      let yes ← sequence flags false [] fuel
      let no ←
        if ← accept '|' then
          let no ← sequence flags false [] fuel
          if (← peek) = some ['|'] then refuse .threeBranches 0
          pure no
        else pure []
      close start
      return .item (.choice index (Node.ofList yes) (Node.ofList no))
    | some ['>'] => return .item (.atomic (← inside flags start fuel))
    | some token =>
      if (Flag.ofToken? token).isSome ∨ token = ['-'] then
        match ← groupFlags token with
        | none =>
          if !flagsAllowed then refuse .misplacedFlags ((← tell) - start)
          return .flags
        | some (on, off) =>
          return .item (.bracket (← inside (flags.within on off) start fuel))
      else refuse (.unknownExtension ('?' :: token)) (token.length + 1)

/-- The contents of a group that was opened at `start`, up to its closing parenthesis. -/
def inside (flags : Flags) (start : Nat) : Nat → Reading Node
  | 0 => refuse .unexpectedEnd 0
  | fuel + 1 => do
    let items ← alternatives flags false [] fuel
    close start
    return Node.ofList items

/-- A group that is remembered, of which everything before the contents has been taken. -/
def captured (flags : Flags) (written : Option Text) (start : Nat) :
    Nat → Reading Node
  | 0 => refuse .unexpectedEnd 0
  | fuel + 1 => do
    let index ← openGroup written
    let body ← inside flags start fuel
    modify fun reader =>
      { reader with groups := reader.groups.set (index - 1) (some (body.width reader.groups)) }
    return .group index body

end

/-- The expression that a whole pattern is. -/
def pattern : Reading Node := do
  let items ← alternatives {} true [] (6 * (← remaining) + 12)
  let reader ← get
  if reader.flags.ascii && reader.flags.unicode then throw .clashingGlobalFlags
  -- Only a closing parenthesis that was never opened can be left.
  if reader.tokens ≠ [] then refuse .unbalanced 0
  if let some (index, place) := reader.conditions.find? fun (index, _) =>
      reader.groups.length < index then
    throw (.invalid ⟨.invalidGroup index, some place⟩)
  match (Node.ofList items).settle reader.groups reader.flags.template with
  | .ok node => return node
  | .error cause => throw (.invalid ⟨cause, none⟩)

end Reading

end SnippetMarkup.Regex

namespace SnippetMarkup

/-! ## Compiled patterns -/

structure Regex where
  pattern : Text
  node : Regex.Node
  groups : Nat
  deriving Repr

/-- The expression that a pattern is, in which characters may be given by these names. -/
def Regex.compile (characters : Regex.CharacterNames) (pattern : Text) :
    Except Regex.Refusal Regex := do
  let tokens := Regex.tokens pattern
  if tokens.head? = some ['\\'] then throw (.invalid ⟨.danglingEscape, some 0⟩)
  let (node, reader) ← (Regex.Reading.pattern).run { characters := characters, tokens := tokens }
  return ⟨pattern, node, reader.groups.length⟩

end SnippetMarkup
