import Mathlib
import SnippetMarkup.Preview.Lexer
import SnippetMarkup.Proofs.Markup.Attributes
import SnippetMarkup.Proofs.Markup.Padding
import SnippetMarkup.Proofs.Text.Cut

/-!
# Steps of the preview lexer

What the lexer can do at a place: one rule for each kind of piece, with the text that is left behind
it.  A step takes at least one character, and the pieces that it makes are what it takes; so a whole
source is cut into pieces by finitely many steps, and nothing of it is lost.
-/

namespace SnippetMarkup

open Unicode (isSpace isWord)

/-! ## Tokens -/

namespace Token

@[simp] theorem join_nil : join [] = [] := rfl

@[simp] theorem join_cons (token : Token) (tokens : List Token) :
    join (token :: tokens) = token.text ++ join tokens := rfl

@[simp] theorem join_append (tokens more : List Token) :
    join (tokens ++ more) = join tokens ++ join more := List.flatMap_append

/-- Tokens that hold nothing add nothing to the text. -/
@[simp] theorem join_visible (tokens : List Token) : join (visible tokens) = join tokens := by
  induction tokens with
  | nil => rfl
  | cons token tokens ih =>
    rw [visible, List.filter_cons] at *
    cases text : token.text with
    | nil => simpa [text] using ih
    | cons c rest => simp [text, ih]

theorem text_ne_nil_of_mem_visible {tokens : List Token} {token : Token}
    (member : token ∈ visible tokens) : token.text ≠ [] := by
  simpa using (List.mem_filter.1 member).2

/-! ## Values -/

theorem readParts_prefix (source : Text) : readParts source <+: source := by
  induction source with
  | nil => exact List.prefix_refl []
  | cons c rest ih =>
    rw [readParts]
    split
    · exact (List.prefix_cons_inj c).2 ih
    · split
      · next colon => exact colon.1 ▸ (List.prefix_cons_inj ':').2 ih
      · exact List.nil_prefix

theorem isBare_quote {c : Char} (quote : c = '\'' ∨ c = '"') : isBare c = true := by
  rcases quote with rfl | rfl <;> rfl

/-- A value is written in front of what is left of its source, and begins with a character that can
stand in a value without quotes. -/
theorem of_readValue? {source value : Text} (read : readValue? source = some value) :
    (∃ rest, source = value ++ rest) ∧ ∃ c more, value = c :: more ∧ isBare c = true := by
  cases source with
  | nil => simp [readValue?] at read
  | cons c rest =>
    rw [readValue?] at read
    split at read
    · next found quoted =>
      cases read
      obtain ⟨quote, closed⟩ := Option.ite_none_right_eq_some.1 quoted
      obtain ⟨⟨inside, after⟩, cut, same⟩ := Option.bind_eq_some_iff.1 closed
      cases same
      obtain ⟨-, rfl⟩ := Text.splitFirst?_eq_some_iff.1 cut
      exact ⟨⟨after, by simp⟩, c, _, rfl, isBare_quote quote⟩
    · split at read
      · next bare =>
        cases read
        obtain ⟨after, parts⟩ := readParts_prefix rest
        exact ⟨⟨after, by rw [List.cons_append, parts]⟩, c, _, rfl, bare⟩
      · simp at read

end Token

/-! ## Comments -/

namespace CommentParts

/-- The tokens of the beginning of a comment, up to its tag. -/
def tokens (parts : CommentParts) : List Token :=
  Token.visible [⟨.comment, parts.introducer.written⟩, ⟨.text, parts.gap⟩,
    ⟨.keyword, parts.tag.written⟩]

/-- A comment begins here if there is white space up to the tag, and the tag is a whole word. -/
structure Begins (parts : CommentParts) : Prop where
  gap : Text.isBlank parts.gap = true
  whole : parts.tail.head?.all isSpace = true

variable {parts : CommentParts}

@[simp] theorem join_tokens : Token.join parts.tokens = parts.head := by
  simp [tokens, head]

theorem gap_eq_takeWhile (blank : Text.isBlank parts.gap = true) :
    (parts.gap ++ parts.body).takeWhile isSpace = parts.gap := by
  have visible : parts.body.takeWhile isSpace = [] := by
    rw [body]
    cases parts.tag <;> rfl
  rw [List.takeWhile_append_of_pos (List.all_eq_true.1 blank), visible, List.append_nil]

end CommentParts

theorem Token.readComment?_eq_some_iff {source : Text} {tokens : List Token} :
    Token.readComment? source = some tokens ↔
      ∃ parts : CommentParts, parts.Begins ∧ source = parts.written ∧ tokens = parts.tokens := by
  constructor
  · intro read
    obtain ⟨⟨introducer, rest⟩, introduced, read⟩ := Option.bind_eq_some_iff.1 read
    obtain ⟨⟨tag, after⟩, tagged, read⟩ := Option.bind_eq_some_iff.1 read
    obtain ⟨whole, same⟩ := Option.ite_none_right_eq_some.1 read
    refine ⟨⟨introducer, rest.takeWhile isSpace, tag, after⟩, ⟨?_, whole⟩, ?_, ?_⟩
    · exact List.all_eq_true.2 fun c member => List.mem_takeWhile_imp member
    · rw [Introducer.eq_of_read? introduced, CommentParts.written, CommentParts.body,
        ← Tag.eq_of_read? tagged, List.append_assoc, List.takeWhile_append_dropWhile]
    · exact (Option.some.inj same).symm
  · rintro ⟨parts, begins, rfl, rfl⟩
    have passed :
        (parts.gap ++ parts.body).dropWhile isSpace = parts.tag.written ++ parts.tail := by
      rw [List.dropWhile_append_of_pos (List.all_eq_true.1 begins.gap), CommentParts.body]
      exact Tag.trimLeft_written parts.tag parts.tail
    rw [readComment?, CommentParts.written, List.append_assoc, Introducer.read?_written]
    simp only [Option.bind_eq_bind, Option.bind_some]
    rw [passed, Tag.read?_written, Option.bind_some, if_pos begins.whole,
      CommentParts.gap_eq_takeWhile begins.gap]
    rfl

/-! ## Assignments -/

/-- What an attribute with its value is made of. -/
structure AssignmentParts where
  name : Text
  beforeSign : Text
  afterSign : Text
  value : Text
  deriving DecidableEq, Repr

namespace AssignmentParts

def written (parts : AssignmentParts) : Text :=
  parts.name ++ (parts.beforeSign ++ '=' :: (parts.afterSign ++ parts.value))

def tokens (parts : AssignmentParts) : List Token :=
  Token.visible [⟨.name, parts.name⟩, ⟨.text, parts.beforeSign⟩, ⟨.punctuation, ['=']⟩,
    ⟨.text, parts.afterSign⟩, ⟨.value, parts.value⟩]

/-- An attribute with its value stands in front of the rest of a source. -/
structure Begins (parts : AssignmentParts) (rest : Text) : Prop where
  named : parts.name ≠ []
  word : ∀ c ∈ parts.name, isWord c = true
  beforeSign : Text.isBlank parts.beforeSign = true
  afterSign : Text.isBlank parts.afterSign = true
  value : Token.readValue? (parts.value ++ rest) = some parts.value

variable {parts : AssignmentParts} {rest : Text}

@[simp] theorem join_tokens : Token.join parts.tokens = parts.written := by
  simp [tokens, written]

theorem Begins.visible (begins : parts.Begins rest) :
    ∃ c more, parts.value = c :: more ∧ isSpace c = false := by
  obtain ⟨-, c, more, shape, bare⟩ := Token.of_readValue? begins.value
  exact ⟨c, more, shape, by simpa using (Bool.and_eq_true_iff.1 bare).1⟩

theorem Begins.not_isWord_of_mem_head? (begins : parts.Begins rest) (behind : Text) :
    ∀ c ∈ (parts.beforeSign ++ '=' :: behind).head?, isWord c = false := by
  intro c first
  have blank := begins.beforeSign
  cases spaced : parts.beforeSign with
  | nil =>
    rw [spaced] at first
    cases first
    decide
  | cons d space =>
    rw [spaced] at first blank
    cases first
    rw [Text.isBlank, List.all_cons, Bool.and_eq_true] at blank
    exact Unicode.isWord_of_isSpace blank.1

/-- What begins with an attribute and its value is read so: each part ends where the next one
begins. -/
theorem Begins.readAssignment?_eq (begins : parts.Begins rest) :
    Token.readAssignment? (parts.written ++ rest) = some parts.tokens := by
  obtain ⟨c, more, shape, visible⟩ := begins.visible
  have whole : parts.written ++ rest = parts.name ++
      (parts.beforeSign ++ '=' :: (parts.afterSign ++ (parts.value ++ rest))) := by
    simp [written]
  obtain ⟨name, behind⟩ :=
    Text.takeWhile_append_of_head begins.word (begins.not_isWord_of_mem_head? _)
  obtain ⟨beforeSign, signed⟩ :=
    Text.takeWhile_append_of_head (List.all_eq_true.1 begins.beforeSign)
      (show ∀ c ∈ ('=' :: (parts.afterSign ++ (parts.value ++ rest))).head?, isSpace c = false by
        rintro _ ⟨⟩
        rfl)
  obtain ⟨afterSign, valued⟩ :=
    Text.takeWhile_append_of_head (List.all_eq_true.1 begins.afterSign)
      (show ∀ c ∈ (parts.value ++ rest).head?, isSpace c = false by
        rw [shape]
        rintro _ ⟨⟩
        exact visible)
  rw [Token.readAssignment?, whole]
  rw [name, behind, signed]
  split
  · next nothing => exact (begins.named nothing).elim
  · next sign same _ =>
    cases same
    rw [valued, begins.value, beforeSign, afterSign]
    rfl
  · next _ other => exact (other _ rfl).elim

end AssignmentParts

/-- What is read as an attribute and its value begins with them. -/
theorem Token.of_readAssignment? {source : Text} {tokens : List Token}
    (read : Token.readAssignment? source = some tokens) :
    ∃ (parts : AssignmentParts) (rest : Text), parts.Begins rest ∧
      source = parts.written ++ rest ∧ tokens = parts.tokens := by
  rw [readAssignment?] at read
  split at read
  · simp at read
  · next name afterSign signed named =>
    obtain ⟨value, found, same⟩ := Option.bind_eq_some_iff.1 read
    obtain ⟨⟨rest, cut⟩, -⟩ := of_readValue? found
    refine ⟨⟨source.takeWhile isWord, (source.dropWhile isWord).takeWhile isSpace,
      afterSign.takeWhile isSpace, value⟩, rest, ⟨?_, ?_, ?_, ?_, ?_⟩, ?_, ?_⟩
    · exact fun nothing => named nothing
    · exact fun c member => List.mem_takeWhile_imp member
    · exact List.all_eq_true.2 fun c member => List.mem_takeWhile_imp member
    · exact List.all_eq_true.2 fun c member => List.mem_takeWhile_imp member
    · rw [← cut]
      exact found
    · simp only [AssignmentParts.written, List.append_assoc, List.cons_append]
      rw [← cut, List.takeWhile_append_dropWhile, ← signed, List.takeWhile_append_dropWhile,
        List.takeWhile_append_dropWhile]
    · exact (Option.some.inj same).symm
  · simp at read

namespace Token

variable {c : Char} {rest : Text}

theorem isWord_of_readAssignment? {tokens : List Token}
    (read : readAssignment? (c :: rest) = some tokens) : isWord c = true := by
  obtain ⟨parts, behind, begins, shape, -⟩ := of_readAssignment? read
  obtain ⟨d, more, named⟩ := List.exists_cons_of_ne_nil begins.named
  rw [AssignmentParts.written, named] at shape
  rw [(List.cons.inj shape).1]
  exact begins.word d (named ▸ List.mem_cons_self)

theorem readAssignment?_eq_none (unworded : isWord c = false) (rest : Text) :
    readAssignment? (c :: rest) = none := by
  cases read : readAssignment? (c :: rest) with
  | none => rfl
  | some tokens =>
    rw [isWord_of_readAssignment? read] at unworded
    contradiction

theorem ne_of_isWord (word : isWord c = true) : c ≠ '\n' ∧ c ≠ ':' := by
  constructor
  · rintro rfl
    exact absurd word (by decide)
  · rintro rfl
    exact absurd word (by decide)

theorem of_isGap (gap : isGap c = true) : isWord c = false ∧ c ≠ '\n' ∧ c ≠ ':' := by
  rw [isGap, Bool.or_eq_true, beq_iff_eq, beq_iff_eq] at gap
  rcases gap with rfl | rfl <;> decide

end Token

/-! ## Steps -/

/-- What the lexer makes of the start of a source: some tokens, the mode in which it goes on, and
the text behind them. -/
inductive LexStep : LexMode → Text → List Token → LexMode → Text → Prop
  | comment {parts : CommentParts} (begins : parts.Begins) :
      LexStep .code parts.written parts.tokens .markup parts.tail
  | plain {c : Char} {rest : Text} (unread : Token.readComment? (c :: rest) = none)
      (plain : Token.isPlain c = true) :
      LexStep .code (c :: rest) [⟨.text, c :: rest.takeWhile Token.isPlain⟩] .code
        (rest.dropWhile Token.isPlain)
  | character {c : Char} {rest : Text} (unread : Token.readComment? (c :: rest) = none)
      (other : Token.isPlain c = false) : LexStep .code (c :: rest) [⟨.text, [c]⟩] .code rest
  | lineEnd (rest : Text) : LexStep .markup ('\n' :: rest) [⟨.text, ['\n']⟩] .code rest
  | assignment {parts : AssignmentParts} {rest : Text} (begins : parts.Begins rest) :
      LexStep .markup (parts.written ++ rest) parts.tokens .markup rest
  | colon {rest : Text} (ends : Token.blankToLineEnd rest = true) :
      LexStep .markup (':' :: rest) [⟨.punctuation, [':']⟩] .markup rest
  | word {c : Char} {rest : Text} (unread : Token.readAssignment? (c :: rest) = none)
      (word : isWord c = true) :
      LexStep .markup (c :: rest) [⟨.name, c :: rest.takeWhile isWord⟩] .markup
        (rest.dropWhile isWord)
  | gap {c : Char} {rest : Text} (gap : Token.isGap c = true) :
      LexStep .markup (c :: rest) [⟨.text, c :: rest.takeWhile Token.isGap⟩] .markup
        (rest.dropWhile Token.isGap)
  | mark {c : Char} {rest : Text} (inLine : c ≠ '\n')
      (goesOn : ¬(c = ':' ∧ Token.blankToLineEnd rest = true)) (unworded : isWord c = false)
      (visible : Token.isGap c = false) : LexStep .markup (c :: rest) [⟨.comment, [c]⟩] .markup rest

namespace LexStep

variable {mode later : LexMode} {source rest : Text} {tokens : List Token}

/-- The tokens of a step make up what it takes from the source. -/
theorem tiles (step : LexStep mode source tokens later rest) :
    source = Token.join tokens ++ rest := by
  cases step with
  | comment begins => rw [CommentParts.join_tokens, CommentParts.written_eq_head]
  | assignment begins => rw [AssignmentParts.join_tokens]
  | plain | word | gap => simp
  | character | lineEnd | colon | mark => simp

/-- No token of a step is empty. -/
theorem text_ne_nil (step : LexStep mode source tokens later rest) {token : Token}
    (member : token ∈ tokens) : token.text ≠ [] := by
  cases step with
  | comment begins => exact Token.text_ne_nil_of_mem_visible member
  | assignment begins => exact Token.text_ne_nil_of_mem_visible member
  | plain | word | gap => simp [List.mem_singleton.1 member]
  | character | lineEnd | colon | mark => simp [List.mem_singleton.1 member]

/-- A step takes at least one character. -/
theorem join_ne_nil (step : LexStep mode source tokens later rest) : Token.join tokens ≠ [] := by
  cases step with
  | @comment parts begins =>
    rw [CommentParts.join_tokens]
    exact parts.head_ne_nil
  | @assignment parts _ begins => simp [AssignmentParts.written]
  | plain | word | gap => simp
  | character | lineEnd | colon | mark => simp

theorem length_lt (step : LexStep mode source tokens later rest) : rest.length < source.length := by
  have took := List.length_pos_iff.2 step.join_ne_nil
  rw [step.tiles, List.length_append]
  omega

/-- What a step leaves is what the lexer goes on with. -/
theorem drop_width (step : LexStep mode source tokens later rest) {c : Char} {behind : Text}
    (shape : source = c :: behind) : behind.drop (Token.width tokens - 1) = rest := by
  obtain ⟨d, more, took⟩ := List.exists_cons_of_ne_nil step.join_ne_nil
  have cut := step.tiles
  rw [shape, took, List.cons_append, List.cons.injEq] at cut
  rw [Token.width, took, cut.2, List.length_cons, Nat.add_sub_cancel, List.drop_left]

/-- A step is the one that the lexer does. -/
theorem step_eq (step : LexStep mode source tokens later rest) {c : Char} {behind : Text}
    (shape : source = c :: behind) : Token.step mode c behind = (tokens, later) := by
  cases step with
  | comment begins =>
    have read := Token.readComment?_eq_some_iff.2 ⟨_, begins, rfl, rfl⟩
    rw [shape] at read
    simp only [Token.step, Token.stepCode, read]
  | plain unread plain =>
    obtain ⟨rfl, rfl⟩ := List.cons.inj shape
    simp only [Token.step, Token.stepCode, unread, plain, if_true]
  | character unread other =>
    obtain ⟨rfl, rfl⟩ := List.cons.inj shape
    simp [Token.step, Token.stepCode, unread, other]
  | lineEnd =>
    obtain ⟨rfl, rfl⟩ := List.cons.inj shape
    rfl
  | assignment begins =>
    have read := begins.readAssignment?_eq
    rw [shape] at read
    have inLine := (Token.ne_of_isWord (Token.isWord_of_readAssignment? read)).1
    simp only [Token.step, Token.stepMarkup, if_neg inLine, read]
  | colon ends =>
    obtain ⟨rfl, rfl⟩ := List.cons.inj shape
    have unread := Token.readAssignment?_eq_none (show isWord ':' = false by decide) rest
    simp [Token.step, Token.stepMarkup, unread, ends]
  | word unread word =>
    obtain ⟨rfl, rfl⟩ := List.cons.inj shape
    obtain ⟨inLine, other⟩ := Token.ne_of_isWord word
    simp [Token.step, Token.stepMarkup, inLine, unread, other, word]
  | @gap d more gap =>
    obtain ⟨rfl, rfl⟩ := List.cons.inj shape
    obtain ⟨unworded, inLine, other⟩ := Token.of_isGap gap
    have unread := Token.readAssignment?_eq_none unworded more
    simp [Token.step, Token.stepMarkup, inLine, unread, other, unworded, gap]
  | @mark d _ inLine goesOn unworded visible =>
    obtain ⟨rfl, rfl⟩ := List.cons.inj shape
    have unread := Token.readAssignment?_eq_none unworded rest
    simp [Token.step, Token.stepMarkup, inLine, unread, goesOn, unworded, visible]

end LexStep

namespace Token

variable {c : Char} {rest : Text}

/-- Every character can be read in code. -/
theorem exists_lexStep_code (c : Char) (rest : Text) :
    ∃ behind, LexStep .code (c :: rest) (stepCode c rest).1 (stepCode c rest).2 behind := by
  cases read : readComment? (c :: rest) with
  | some tokens =>
    obtain ⟨parts, begins, written, rfl⟩ := readComment?_eq_some_iff.1 read
    refine ⟨parts.tail, ?_⟩
    simp only [stepCode, read]
    rw [written]
    exact .comment begins
  | none =>
    simp only [stepCode, read]
    cases plain : isPlain c with
    | true => exact ⟨_, .plain read plain⟩
    | false => exact ⟨_, .character read plain⟩

/-- Every character can be read in markup. -/
theorem exists_lexStep_markup (c : Char) (rest : Text) :
    ∃ behind, LexStep .markup (c :: rest) (stepMarkup c rest).1 (stepMarkup c rest).2 behind := by
  rw [stepMarkup]
  split
  · next lineEnd =>
    subst lineEnd
    exact ⟨rest, .lineEnd rest⟩
  · next inLine =>
    cases read : readAssignment? (c :: rest) with
    | some tokens =>
      obtain ⟨parts, behind, begins, written, rfl⟩ := of_readAssignment? read
      refine ⟨behind, ?_⟩
      rw [written]
      exact .assignment begins
    | none =>
      dsimp only
      split
      · next ends =>
        obtain ⟨rfl, blank⟩ := ends
        exact ⟨rest, .colon blank⟩
      · next goesOn =>
        split
        · next word => exact ⟨_, .word read word⟩
        · next unworded =>
          split
          · next gap => exact ⟨_, .gap gap⟩
          · next visible =>
            exact ⟨_, .mark inLine goesOn (Bool.eq_false_of_not_eq_true unworded)
              (Bool.eq_false_of_not_eq_true visible)⟩

theorem exists_lexStep (mode : LexMode) (c : Char) (rest : Text) :
    ∃ behind, LexStep mode (c :: rest) (step mode c rest).1 (step mode c rest).2 behind := by
  cases mode with
  | code => exact exists_lexStep_code c rest
  | markup => exact exists_lexStep_markup c rest

end Token

/-! ## Sources -/

/-- What the lexer makes of a whole source. -/
inductive Lexes : LexMode → Text → List Token → Prop
  | nil (mode : LexMode) : Lexes mode [] []
  | cons {mode later : LexMode} {source rest : Text} {tokens more : List Token}
      (step : LexStep mode source tokens later rest) (lexes : Lexes later rest more) :
      Lexes mode source (tokens ++ more)

theorem lexes_lexFrom (mode : LexMode) (source : Text) :
    Lexes mode source (Token.lexFrom mode source) := by
  induction mode, source using Token.lexFrom.induct with
  | case1 mode =>
    rw [Token.lexFrom]
    exact .nil mode
  | case2 mode c rest found ih =>
    obtain ⟨behind, step⟩ := Token.exists_lexStep mode c rest
    rw [Token.lexFrom]
    rw [step.drop_width rfl] at ih ⊢
    exact .cons step ih

namespace Lexes

variable {mode : LexMode} {source : Text} {tokens : List Token}

/-- The tokens of a source make it up. -/
theorem join_eq (lexes : Lexes mode source tokens) : Token.join tokens = source := by
  induction lexes with
  | nil => rfl
  | cons step lexes ih => rw [Token.join_append, ih, ← step.tiles]

/-- A source is cut in one way only. -/
theorem lexFrom_eq (lexes : Lexes mode source tokens) : Token.lexFrom mode source = tokens := by
  induction lexes with
  | nil mode => rw [Token.lexFrom]
  | @cons mode later source rest tokens more step lexes ih =>
    cases source with
    | nil => exact absurd step.length_lt (Nat.not_lt_zero _)
    | cons c behind =>
      rw [Token.lexFrom, step.step_eq rfl, step.drop_width rfl, ih]

theorem text_ne_nil (lexes : Lexes mode source tokens) {token : Token} (member : token ∈ tokens) :
    token.text ≠ [] := by
  induction lexes with
  | nil => simp at member
  | cons step lexes ih =>
    rcases List.mem_append.1 member with here | there
    · exact step.text_ne_nil here
    · exact ih there

end Lexes

end SnippetMarkup
