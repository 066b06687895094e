import Mathlib
import SnippetMarkup.Proofs.Preview.Step

/-!
# The preview lexer by rules

The preview lexer as a table: each mode has its rules, and at every place the first one of the
innermost mode that matches there makes tokens of its groups and opens or closes a mode.  Where no
rule matches, the table has a hole, and a character is left over.  The table has none: at every
place some rule takes at least a character, so the lexer gets to the end of every source, and what
it makes on its way is what the lexer makes that does not look at the table.
-/

namespace SnippetMarkup

open Unicode (isSpace isWord)

/-! ## Groups -/

/-- A part of a rule: it takes the start of a source, if it can, for a token of its kind. -/
structure LexGroup where
  kind : TokenKind
  read? : Text → Option (Text × Text)

namespace LexGroup

/-- One of some words, the first that stands at the start. -/
def oneOf (kind : TokenKind) (words : List Text) : LexGroup where
  kind := kind
  read? source := words.findSome? fun word => (word.isPrefixOf? source).map fun rest => (word, rest)

/-- A single character. -/
def character (kind : TokenKind) (accepts : Char → Bool) : LexGroup where
  kind := kind
  read?
    | [] => none
    | c :: rest => if accepts c then some ([c], rest) else none

/-- All characters up to the first that is not accepted. -/
def many (kind : TokenKind) (accepts : Char → Bool) : LexGroup where
  kind := kind
  read? source := some (source.takeWhile accepts, source.dropWhile accepts)

/-- All characters up to the first that is not accepted, if there are any. -/
def run (kind : TokenKind) (accepts : Char → Bool) : LexGroup where
  kind := kind
  read?
    | [] => none
    | c :: rest =>
      if accepts c then some (c :: rest.takeWhile accepts, rest.dropWhile accepts) else none

def value : LexGroup where
  kind := .value
  read? source := (Token.readValue? source).map fun value => (value, source.drop value.length)

/-- Nothing is lost between what a group takes and what it leaves. -/
def Cuts (group : LexGroup) : Prop :=
  ∀ ⦃source text rest : Text⦄, group.read? source = some (text, rest) → source = text ++ rest

theorem cuts_oneOf (kind : TokenKind) (words : List Text) : (oneOf kind words).Cuts := by
  intro source text rest read
  obtain ⟨word, -, found⟩ := List.exists_of_findSome?_eq_some read
  obtain ⟨behind, isPrefix, same⟩ := Option.map_eq_some_iff.1 found
  cases same
  exact (List.isPrefixOf?_eq_some_iff_append_eq.1 isPrefix).symm

theorem cuts_character (kind : TokenKind) (accepts : Char → Bool) :
    (character kind accepts).Cuts := by
  intro source text rest read
  cases source with
  | nil => simp [character] at read
  | cons c behind =>
    obtain ⟨-, same⟩ := Option.ite_none_right_eq_some.1 read
    cases same
    rfl

theorem cuts_many (kind : TokenKind) (accepts : Char → Bool) : (many kind accepts).Cuts := by
  intro source text rest read
  cases read
  exact List.takeWhile_append_dropWhile.symm

theorem cuts_run (kind : TokenKind) (accepts : Char → Bool) : (run kind accepts).Cuts := by
  intro source text rest read
  cases source with
  | nil => simp [run] at read
  | cons c behind =>
    obtain ⟨-, same⟩ := Option.ite_none_right_eq_some.1 read
    cases same
    rw [List.cons_append, List.takeWhile_append_dropWhile]

theorem cuts_value : value.Cuts := by
  intro source text rest read
  obtain ⟨value, found, same⟩ := Option.map_eq_some_iff.1 read
  cases same
  obtain ⟨⟨behind, rfl⟩, -⟩ := Token.of_readValue? found
  rw [List.drop_left]

end LexGroup

/-! ## Rules -/

/-- What a rule does to the modes that are open. -/
inductive ModeChange where
  | stay
  | enter (mode : LexMode)
  | leave
  deriving DecidableEq, Repr

/-- The modes that are open after a change, the innermost first.  The outermost one stays open. -/
def ModeChange.apply : ModeChange → List LexMode → List LexMode
  | stay, modes => modes
  | enter mode, modes => mode :: modes
  | leave, [mode] => [mode]
  | leave, modes => modes.tail

/-- Groups that follow each other, and a condition on the text behind them. -/
structure LexRule where
  groups : List LexGroup
  ahead : Text → Bool := fun _ => true
  change : ModeChange := .stay

namespace LexRule

/-- What the groups make of the start of a source, and what they leave. -/
def readGroups? : List LexGroup → Text → Option (List Token × Text)
  | [], source => some ([], source)
  | group :: groups, source => do
    let (text, rest) ← group.read? source
    let (tokens, rest) ← readGroups? groups rest
    return (⟨group.kind, text⟩ :: tokens, rest)

def find? (rule : LexRule) (source : Text) : Option (List Token × Text) :=
  (readGroups? rule.groups source).filter fun found => rule.ahead found.2

theorem readGroups?_tiles {groups : List LexGroup} (cuts : ∀ group ∈ groups, group.Cuts)
    {source rest : Text} {tokens : List Token}
    (read : readGroups? groups source = some (tokens, rest)) :
    source = Token.join tokens ++ rest := by
  induction groups generalizing source tokens with
  | nil =>
    cases read
    rfl
  | cons group groups ih =>
    obtain ⟨⟨text, behind⟩, taken, read⟩ := Option.bind_eq_some_iff.1 read
    obtain ⟨⟨others, left⟩, later, same⟩ := Option.bind_eq_some_iff.1 read
    cases same
    rw [cuts group List.mem_cons_self taken, Token.join_cons, List.append_assoc,
      ← ih (fun other member => cuts other (List.mem_cons_of_mem group member)) later]

/-- The beginning of a comment, up to its tag, which must be a whole word. -/
def comment : LexRule where
  groups := [.oneOf .comment (Introducer.all.map (·.written)), .many .text isSpace,
    .oneOf .keyword (Tag.all.map (·.written))]
  ahead rest := rest.head?.all isSpace
  change := .enter .markup

/-- An attribute with its value. -/
def assignment : LexRule where
  groups := [.run .name isWord, .many .text isSpace, .character .punctuation (· == '='),
    .many .text isSpace, .value]

/-- The colon of a comment that is meant for the next line. -/
def colon : LexRule where
  groups := [.character .punctuation (· == ':')]
  ahead := Token.blankToLineEnd

@[simp] theorem change_comment : comment.change = .enter .markup := rfl

@[simp] theorem change_assignment : assignment.change = .stay := rfl

@[simp] theorem change_colon : colon.change = .stay := rfl

end LexRule

namespace LexMode

/-- The rules of a mode, in the order in which they are tried. -/
def rules : LexMode → List LexRule
  | code => [
      .comment,
      { groups := [.run .text Token.isPlain] },
      { groups := [.character .text (· == '\n')] },
      { groups := [.character .text (· != '\n')] }]
  | markup => [
      { groups := [.character .text (· == '\n')], change := .leave },
      .assignment,
      .colon,
      { groups := [.run .name isWord] },
      { groups := [.run .text Token.isGap] },
      { groups := [.character .comment (· != '\n')] }]

/-- What the first rule that matches makes of the start of a source, what it leaves, and what it
does to the modes. -/
def first? (mode : LexMode) (source : Text) : Option (List Token × Text × ModeChange) :=
  mode.rules.findSome? fun rule =>
    (rule.find? source).map fun (tokens, rest) => (tokens, rest, rule.change)

/-- The modes that are open in a mode: there is no markup but in code. -/
def opened : LexMode → List LexMode
  | code => [code]
  | markup => [markup, code]

end LexMode

/-! ## Rules and steps -/

namespace LexRule

variable {source rest : Text} {tokens : List Token}

theorem oneOf_introducers (source : Text) :
    (LexGroup.oneOf .comment (Introducer.all.map (·.written))).read? source =
      (Introducer.read? source).map fun (introducer, rest) => (introducer.written, rest) := by
  rw [Introducer.read?, List.map_findSome?]
  simp [LexGroup.oneOf, List.findSome?_map, Option.map_map, Function.comp_def]

theorem oneOf_tags (source : Text) :
    (LexGroup.oneOf .keyword (Tag.all.map (·.written))).read? source =
      (Tag.read? source).map fun (tag, rest) => (tag.written, rest) := by
  rw [Tag.read?, List.map_findSome?]
  simp [LexGroup.oneOf, List.findSome?_map, Option.map_map, Function.comp_def]

/-- The rule for comments finds what the lexer reads as the beginning of one. -/
theorem find?_comment (source : Text) :
    (comment.find? source).map (fun found => Token.visible found.1) =
      Token.readComment? source := by
  rw [find?, Token.readComment?]
  simp only [comment, readGroups?, oneOf_introducers, oneOf_tags]
  cases Introducer.read? source with
  | none => rfl
  | some introduced =>
    obtain ⟨introducer, rest⟩ := introduced
    simp only [Option.map_some, LexGroup.many, Option.bind_eq_bind, Option.bind_some]
    cases Tag.read? (rest.dropWhile isSpace) with
    | none => rfl
    | some tagged =>
      obtain ⟨tag, after⟩ := tagged
      cases whole : after.head?.all isSpace <;> simp [Option.filter, whole, LexGroup.oneOf]

/-- The rule for attributes with values finds what the lexer reads as one. -/
theorem find?_assignment (source : Text) :
    (assignment.find? source).map (fun found => Token.visible found.1) =
      Token.readAssignment? source := by
  rw [find?, Token.readAssignment?]
  cases source with
  | nil => rfl
  | cons c rest =>
    cases word : isWord c with
    | false => simp [assignment, readGroups?, LexGroup.run, word]
    | true =>
      simp only [assignment, readGroups?, LexGroup.run, LexGroup.many, word, if_true,
        Option.bind_eq_bind, Option.bind_some, List.takeWhile_cons_of_pos word,
        List.dropWhile_cons_of_pos word]
      cases (rest.dropWhile isWord).dropWhile isSpace with
      | nil => rfl
      | cons sign afterSign =>
        by_cases signed : sign = '='
        · subst signed
          simp only [LexGroup.character, BEq.rfl, if_true, Option.bind_some, LexGroup.value]
          cases Token.readValue? (afterSign.dropWhile isSpace) with
          | none => rfl
          | some value => simp [Option.filter]
        · simp [LexGroup.character, signed]

theorem find?_single (group : LexGroup) (ahead : Text → Bool) (change : ModeChange)
    (source : Text) :
    find? ⟨[group], ahead, change⟩ source =
      ((group.read? source).filter fun taken => ahead taken.2).map fun (text, rest) =>
        ([⟨group.kind, text⟩], rest) := by
  rw [find?]
  simp only [readGroups?]
  cases group.read? source with
  | none => rfl
  | some taken => cases behind : ahead taken.2 <;> simp [Option.filter, behind]

theorem find?_tiles {rule : LexRule} (cuts : ∀ group ∈ rule.groups, group.Cuts)
    (found : rule.find? source = some (tokens, rest)) : source = Token.join tokens ++ rest :=
  readGroups?_tiles cuts (Option.filter_eq_some_iff.1 found).1

theorem cuts_comment : ∀ group ∈ comment.groups, group.Cuts := by
  simp [comment, LexGroup.cuts_oneOf, LexGroup.cuts_many]

theorem cuts_assignment : ∀ group ∈ assignment.groups, group.Cuts := by
  simp [assignment, LexGroup.cuts_run, LexGroup.cuts_many, LexGroup.cuts_character,
    LexGroup.cuts_value]

/-- What a rule leaves is told by the tokens that it makes. -/
theorem exists_find? {rule : LexRule} (cuts : ∀ group ∈ rule.groups, group.Cuts)
    (read : (rule.find? source).map (fun found => Token.visible found.1) = some tokens)
    (tiles : source = Token.join tokens ++ rest) :
    ∃ groups, rule.find? source = some (groups, rest) ∧ Token.visible groups = tokens := by
  obtain ⟨⟨groups, behind⟩, found, rfl⟩ := Option.map_eq_some_iff.1 read
  have same := (find?_tiles cuts found).symm.trans tiles
  rw [Token.join_visible, List.append_cancel_left_eq] at same
  exact ⟨groups, by rw [found, same], rfl⟩

theorem find?_comment_eq_none (unread : Token.readComment? source = none) :
    comment.find? source = none :=
  Option.map_eq_none_iff.1 ((find?_comment source).trans unread)

theorem find?_assignment_eq_none (unread : Token.readAssignment? source = none) :
    assignment.find? source = none :=
  Option.map_eq_none_iff.1 ((find?_assignment source).trans unread)

theorem find?_colon (c : Char) (rest : Text) :
    colon.find? (c :: rest) =
      if c = ':' ∧ Token.blankToLineEnd rest = true then some ([⟨.punctuation, [':']⟩], rest)
      else none := by
  rw [colon, find?_single]
  by_cases sign : c = ':'
  · subst sign
    cases ends : Token.blankToLineEnd rest <;> simp [LexGroup.character, Option.filter, ends]
  · simp [LexGroup.character, sign]

theorem find?_character (kind : TokenKind) (accepts : Char → Bool) (change : ModeChange) (c : Char)
    (rest : Text) :
    find? ⟨[.character kind accepts], fun _ => true, change⟩ (c :: rest) =
      if accepts c = true then some ([⟨kind, [c]⟩], rest) else none := by
  rw [find?_single]
  cases accepted : accepts c <;> simp [LexGroup.character, Option.filter, accepted]

theorem find?_run (kind : TokenKind) (accepts : Char → Bool) (change : ModeChange) (c : Char)
    (rest : Text) :
    find? ⟨[.run kind accepts], fun _ => true, change⟩ (c :: rest) =
      if accepts c = true then
        some ([⟨kind, c :: rest.takeWhile accepts⟩], rest.dropWhile accepts)
      else none := by
  rw [find?_single]
  cases accepted : accepts c <;> simp [LexGroup.run, Option.filter, accepted]

end LexRule

namespace LexMode

open LexRule

variable {c : Char} {rest : Text}

/-- In code every character is taken, even if no comment begins there. -/
theorem first?_code (unread : Token.readComment? (c :: rest) = none) :
    code.first? (c :: rest) =
      if Token.isPlain c = true then
        some ([⟨.text, c :: rest.takeWhile Token.isPlain⟩], rest.dropWhile Token.isPlain, .stay)
      else some ([⟨.text, [c]⟩], rest, .stay) := by
  simp only [first?, rules, List.findSome?_cons, find?_comment_eq_none unread, find?_run,
    find?_character, Option.map_none]
  cases Token.isPlain c with
  | true => rfl
  | false => by_cases lineEnd : c = '\n' <;> simp [lineEnd]

/-- In markup every character is taken, even if no attribute with a value begins there. -/
theorem first?_markup (unread : Token.readAssignment? (c :: rest) = none) :
    markup.first? (c :: rest) =
      if c = '\n' then some ([⟨.text, ['\n']⟩], rest, .leave)
      else if c = ':' ∧ Token.blankToLineEnd rest = true then
        some ([⟨.punctuation, [':']⟩], rest, .stay)
      else if isWord c = true then
        some ([⟨.name, c :: rest.takeWhile isWord⟩], rest.dropWhile isWord, .stay)
      else if Token.isGap c = true then
        some ([⟨.text, c :: rest.takeWhile Token.isGap⟩], rest.dropWhile Token.isGap, .stay)
      else some ([⟨.comment, [c]⟩], rest, .stay) := by
  simp only [first?, rules, List.findSome?_cons, find?_assignment_eq_none unread, find?_run,
    find?_character, find?_colon, Option.map_none]
  by_cases lineEnd : c = '\n'
  · simp [lineEnd]
  · by_cases ends : c = ':' ∧ Token.blankToLineEnd rest = true
    · simp [ends]
    · cases isWord c <;> cases Token.isGap c <;> simp [lineEnd, ends]

end LexMode

open LexRule in
/-- A step is what the first rule that matches does. -/
theorem LexStep.exists_first? {mode later : LexMode} {source rest : Text} {tokens : List Token}
    (step : LexStep mode source tokens later rest) :
    ∃ groups change, mode.first? source = some (groups, rest, change) ∧
      Token.visible groups = tokens ∧ change.apply mode.opened = later.opened := by
  have tiles := step.tiles
  cases step with
  | comment begins =>
    have read := Token.readComment?_eq_some_iff.2 ⟨_, begins, rfl, rfl⟩
    obtain ⟨groups, found, visible⟩ :=
      exists_find? cuts_comment ((find?_comment _).trans read) tiles
    exact ⟨groups, .enter .markup, by simp [LexMode.first?, LexMode.rules, found], visible, rfl⟩
  | plain unread plain =>
    exact ⟨_, .stay, by rw [LexMode.first?_code unread, if_pos plain], rfl, rfl⟩
  | character unread other =>
    exact ⟨_, .stay, by rw [LexMode.first?_code unread, if_neg (by simp [other])], rfl, rfl⟩
  | lineEnd rest =>
    have unread := Token.readAssignment?_eq_none (show isWord '\n' = false by decide) rest
    exact ⟨_, .leave, by rw [LexMode.first?_markup unread, if_pos rfl], rfl, rfl⟩
  | @assignment parts rest begins =>
    have read := begins.readAssignment?_eq
    obtain ⟨groups, found, visible⟩ :=
      exists_find? cuts_assignment ((find?_assignment _).trans read) tiles
    refine ⟨groups, .stay, ?_, visible, rfl⟩
    obtain ⟨c, more, named⟩ := List.exists_cons_of_ne_nil begins.named
    have inLine := (Token.ne_of_isWord (begins.word c (named ▸ List.mem_cons_self))).1
    have missed : find? ⟨[.character .text (· == '\n')], fun _ => true, .leave⟩
        (parts.written ++ rest) = none := by
      simp [find?_character, AssignmentParts.written, named, inLine]
    simp [LexMode.first?, LexMode.rules, missed, found]
  | @colon rest ends =>
    have unread := Token.readAssignment?_eq_none (show isWord ':' = false by decide) rest
    refine ⟨[⟨.punctuation, [':']⟩], .stay, ?_, rfl, rfl⟩
    rw [LexMode.first?_markup unread]
    simp [ends]
  | @word c rest unread word =>
    obtain ⟨inLine, other⟩ := Token.ne_of_isWord word
    refine ⟨[⟨.name, c :: rest.takeWhile isWord⟩], .stay, ?_, rfl, rfl⟩
    rw [LexMode.first?_markup unread]
    simp [inLine, other, word]
  | @gap c rest gap =>
    obtain ⟨unworded, inLine, other⟩ := Token.of_isGap gap
    have unread := Token.readAssignment?_eq_none unworded rest
    refine ⟨[⟨.text, c :: rest.takeWhile Token.isGap⟩], .stay, ?_, rfl, rfl⟩
    rw [LexMode.first?_markup unread]
    simp [inLine, other, unworded, gap]
  | mark inLine goesOn unworded visible =>
    have unread := Token.readAssignment?_eq_none unworded rest
    exact ⟨_, .stay, by
      rw [LexMode.first?_markup unread, if_neg inLine, if_neg goesOn, unworded, visible]; rfl,
      rfl, rfl⟩

/-! ## The loop -/

/-- What is put out at a place. -/
inductive LexPiece where
  | token (token : Token)
  /-- A line end that no rule matches. -/
  | lineEnd
  /-- Another character that no rule matches. -/
  | stray (c : Char)
  deriving DecidableEq, Repr

/-- Tokens as pieces, with their places. -/
def LexPiece.ofTokens (tokens : List (Nat × Token)) : List (Nat × LexPiece) :=
  tokens.map fun (place, found) => (place, .token found)

/-- The modes that are open at a place, and what is put out there, with the places of the pieces. -/
structure LexVisit where
  modes : List LexMode
  pieces : List (Nat × LexPiece)
  deriving DecidableEq, Repr

/-- Applies rules from a place on until nothing is left and no rule matches.  A line end that no
rule matches closes all modes but the outermost one.  The rules are those of the markup; that they
are applied in this way is assumed of the library that applies them, not proved. -/
def lexByRules : Nat → List LexMode → Nat → Text → Option (List LexVisit)
  | 0, _, _, _ => none
  | fuel + 1, modes, place, source =>
    match (modes.headD .code).first? source with
    | some (groups, rest, change) =>
      let shown := (Token.place place groups).filter fun (_, token) => !token.text.isEmpty
      (lexByRules fuel (change.apply modes) (place + (source.length - rest.length)) rest).map
        (⟨modes, LexPiece.ofTokens shown⟩ :: ·)
    | none =>
      match source with
      | [] => some [⟨modes, []⟩]
      | '\n' :: rest =>
        (lexByRules fuel [.code] (place + 1) rest).map (⟨modes, [(place, .lineEnd)]⟩ :: ·)
      | c :: rest =>
        (lexByRules fuel modes (place + 1) rest).map (⟨modes, [(place, .stray c)]⟩ :: ·)

namespace Token

theorem place_append (start : Nat) (tokens more : List Token) :
    place start (tokens ++ more) = place start tokens ++ place (start + width tokens) more := by
  induction tokens generalizing start with
  | nil => rfl
  | cons token tokens ih =>
    simp only [List.cons_append, place, ih, width, join_cons, List.length_append, Nat.add_assoc]

/-- Tokens that hold nothing take no place. -/
theorem filter_place (start : Nat) (tokens : List Token) :
    (place start tokens).filter (fun (_, token) => !token.text.isEmpty) =
      place start (visible tokens) := by
  induction tokens generalizing start with
  | nil => rfl
  | cons token tokens ih =>
    rw [visible] at ih ⊢
    rw [place, List.filter_cons, List.filter_cons]
    cases text : token.text with
    | nil => simpa [text] using ih start
    | cons c rest => simpa [text, place] using ih (start + (c :: rest).length)

end Token

theorem LexMode.headD_opened (mode : LexMode) : mode.opened.headD .code = mode := by
  cases mode <;> rfl

/-- The rules match at every place, and lead to the end of the source. -/
theorem Lexes.exists_lexByRules {mode : LexMode} {source : Text} {tokens : List Token}
    (lexes : Lexes mode source tokens) {fuel : Nat} (enough : source.length < fuel) (place : Nat) :
    ∃ visits, lexByRules fuel mode.opened place source = some visits ∧
      visits.flatMap (·.pieces) = LexPiece.ofTokens (Token.place place tokens) ∧
      ∀ visit ∈ visits, ∃ mode : LexMode, visit.modes = mode.opened := by
  induction lexes generalizing fuel place with
  | nil mode =>
    cases fuel with
    | zero => simp at enough
    | succ fuel =>
      refine ⟨[⟨mode.opened, []⟩], ?_, rfl, fun visit member => ⟨mode, ?_⟩⟩
      · cases mode <;> rfl
      · rw [List.mem_singleton.1 member]
  | @cons mode later source rest tokens more step lexes ih =>
    cases fuel with
    | zero => simp at enough
    | succ fuel =>
      obtain ⟨groups, change, found, visible, applied⟩ := step.exists_first?
      have shorter := step.length_lt
      have taken : source.length - rest.length = Token.width tokens := by
        rw [step.tiles, List.length_append, Nat.add_sub_cancel, Token.width]
      obtain ⟨visits, run, pieces, modes⟩ :=
        @ih fuel (by omega) (place + Token.width tokens)
      refine ⟨⟨mode.opened, LexPiece.ofTokens (Token.place place tokens)⟩ :: visits, ?_, ?_, ?_⟩
      · simp only [lexByRules, LexMode.headD_opened, found, applied, taken, run, Option.map_some,
          Token.filter_place, visible]
      · rw [List.flatMap_cons, pieces, Token.place_append, LexPiece.ofTokens, LexPiece.ofTokens,
          LexPiece.ofTokens, List.map_append]
      · intro visit member
        rcases List.mem_cons.1 member with rfl | there
        · exact ⟨mode, rfl⟩
        · exact modes visit there

/-! ## Keywords -/

/-- Every keyword is a tag, and the token in front of it is the introducer of a comment, with one
token of white space between them at most. -/
def IntroducesKeywords (tokens : List Token) : Prop :=
  ∀ before token after, tokens = before ++ token :: after → token.kind = .keyword →
    (∃ tag : Tag, token.text = tag.written) ∧
      ∃ front, ∃ introducer : Introducer, before = front ++ [⟨.comment, introducer.written⟩] ∨
        ∃ space, Text.isBlank space = true ∧
          before = front ++ [⟨.comment, introducer.written⟩, ⟨.text, space⟩]

namespace IntroducesKeywords

variable {tokens more : List Token}

theorem of_forall_ne (others : ∀ token ∈ tokens, token.kind ≠ .keyword) :
    IntroducesKeywords tokens := by
  rintro before token after rfl keyword
  exact (others token (by simp) keyword).elim

theorem append (introduced : IntroducesKeywords tokens) (later : IntroducesKeywords more) :
    IntroducesKeywords (tokens ++ more) := by
  intro before token after cut keyword
  rcases List.append_eq_append_iff.1 cut with ⟨inner, rfl, behind⟩ | ⟨inner, here, behind⟩
  · obtain ⟨tagged, front, introducer, inFront⟩ := later inner token after behind keyword
    refine ⟨tagged, tokens ++ front, introducer, ?_⟩
    rcases inFront with rfl | ⟨space, blank, rfl⟩
    · exact .inl (List.append_assoc ..).symm
    · exact .inr ⟨space, blank, (List.append_assoc ..).symm⟩
  · cases inner with
    | nil =>
      -- The keyword is the first of the later tokens, so nothing stands in front of it.
      obtain ⟨-, front, introducer, inFront⟩ :=
        later [] token after (by simpa using behind.symm) keyword
      rcases inFront with nothing | ⟨space, -, nothing⟩ <;> simp at nothing
    | cons first others =>
      obtain ⟨rfl, rest⟩ := List.cons.inj behind
      exact introduced before token others here keyword

theorem tokens_comment {parts : CommentParts} (blank : Text.isBlank parts.gap = true) :
    IntroducesKeywords parts.tokens := by
  intro before token after cut keyword
  have shape :
      parts.tokens = [⟨.comment, parts.introducer.written⟩, ⟨.keyword, parts.tag.written⟩] ∨
      parts.tokens = [⟨.comment, parts.introducer.written⟩, ⟨.text, parts.gap⟩,
        ⟨.keyword, parts.tag.written⟩] := by
    obtain ⟨mark, others, introducer⟩ := parts.introducer.exists_written_eq_cons
    cases gap : parts.gap <;>
      simp [CommentParts.tokens, Token.visible, introducer, gap, Tag.written]
  rcases shape with shape | shape
  · rw [shape] at cut
    rcases before with _ | ⟨first, _ | ⟨second, others⟩⟩
    · cases cut
      simp at keyword
    · cases cut
      exact ⟨⟨parts.tag, rfl⟩, [], parts.introducer, .inl rfl⟩
    · simp at cut
  · rw [shape] at cut
    rcases before with _ | ⟨first, _ | ⟨second, _ | ⟨third, others⟩⟩⟩
    · cases cut
      simp at keyword
    · cases cut
      simp at keyword
    · cases cut
      exact ⟨⟨parts.tag, rfl⟩, [], parts.introducer, .inr ⟨parts.gap, blank, rfl⟩⟩
    · simp at cut

end IntroducesKeywords

/-- Only the beginning of a comment has a keyword. -/
theorem LexStep.kind_ne_keyword {later : LexMode} {source rest : Text} {tokens : List Token}
    (step : LexStep .markup source tokens later rest) {token : Token} (member : token ∈ tokens) :
    token.kind ≠ .keyword := by
  cases step with
  | assignment begins =>
    have member := (List.mem_filter.1 member).1
    simp only [List.mem_cons, List.not_mem_nil, or_false] at member
    rcases member with rfl | rfl | rfl | rfl | rfl <;> simp
  | lineEnd | colon | word | gap | mark => simp [List.mem_singleton.1 member]

theorem LexStep.introducesKeywords {mode later : LexMode} {source rest : Text} {tokens : List Token}
    (step : LexStep mode source tokens later rest) : IntroducesKeywords tokens := by
  cases mode with
  | markup => exact .of_forall_ne fun token member => step.kind_ne_keyword member
  | code =>
    cases step with
    | comment begins => exact .tokens_comment begins.gap
    | plain | character => exact .of_forall_ne (by simp)

theorem Lexes.introducesKeywords {mode : LexMode} {source : Text} {tokens : List Token}
    (lexes : Lexes mode source tokens) : IntroducesKeywords tokens := by
  induction lexes with
  | nil mode => exact .of_forall_ne (by simp)
  | cons step lexes ih => exact step.introducesKeywords.append ih

namespace Token

/-- The lexer loses nothing and never gets stuck: its tokens, of which none is empty, make up the
source, with an introducer in front of every keyword.  By the rules, one after the other from the
start of the source, the same tokens are made with the same places, no character is left over, and
the modes that are open are code alone or markup in code. -/
theorem lex_lossless (source : Text) :
    join (lex source) = source ∧ (∀ token ∈ lex source, token.text ≠ []) ∧
      IntroducesKeywords (lex source) ∧
      ∃ visits, lexByRules (source.length + 1) [.code] 0 source = some visits ∧
        visits.flatMap (·.pieces) = LexPiece.ofTokens (place 0 (lex source)) ∧
        ∀ visit ∈ visits, visit.modes = [.code] ∨ visit.modes = [.markup, .code] := by
  have lexes : Lexes .code source (lex source) := lexes_lexFrom .code source
  obtain ⟨visits, run, pieces, modes⟩ := lexes.exists_lexByRules (Nat.lt_succ_self _) 0
  refine ⟨lexes.join_eq, fun token => lexes.text_ne_nil, lexes.introducesKeywords, visits, run,
    pieces, fun visit member => ?_⟩
  obtain ⟨mode, opened⟩ := modes visit member
  cases mode with
  | code => exact .inl opened
  | markup => exact .inr opened

/-- A quoted value takes a line end with it, and the comment behind it is introduced without white
space. -/
theorem lex_lossless_quoted :
    let source := "x rem\t@link target='a\nb':\n'@end".toList
    (⟨.value, "'a\nb'".toList⟩ ∈ lex source ∧ "'a\nb'".toList ≠ []) ∧ join (lex source) = source ∧
      IntroducesKeywords (lex source) ∧
      ∃ visits, lexByRules (source.length + 1) [.code] 0 source = some visits ∧
        visits.flatMap (·.pieces) = LexPiece.ofTokens (place 0 (lex source)) ∧
        ∃ visit ∈ visits, visit.modes = [.markup, .code] := by
  intro source
  have member : ⟨.value, "'a\nb'".toList⟩ ∈ lex source := by decide +kernel
  have inMarkup : ((lexByRules (source.length + 1) [.code] 0 source).getD []).any
      (fun visit => visit.modes == [.markup, .code]) = true := by decide +kernel
  obtain ⟨joined, filled, introduced, visits, run, pieces, -⟩ := lex_lossless source
  refine ⟨⟨member, filled _ member⟩, joined, introduced, visits, run, pieces, ?_⟩
  rw [run] at inMarkup
  obtain ⟨visit, visited, opened⟩ := List.any_eq_true.1 inMarkup
  exact ⟨visit, visited, by simpa using opened⟩

end Token

end SnippetMarkup
