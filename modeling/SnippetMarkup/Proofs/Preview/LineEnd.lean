import Mathlib
import SnippetMarkup.Proofs.Markup.Appending
import SnippetMarkup.Proofs.Preview.Step

/-!
# Line ends in a preview

What the lexer makes of a line, with and without further lines behind it.  White space and values in
quotes may hold line ends, so that a piece that begins in a line can reach over its end.  There are
four ways for that, which can be told from the line and what is behind it; in all other cases, the
line is cut as if nothing were behind it, and the lexer begins the next line as code.
-/

namespace SnippetMarkup

open Unicode (isSpace isWord)

/-! ## Reaching over the end of a line -/

/-- What is left of a line behind a name, when the name is that of an attribute whose value ends in
the text behind the line. -/
inductive GoesOn (rest : Text) : Text → Prop
  | sign {more : Text} (signed : Text.trimLeft rest = '=' :: more)
      (valued : (Text.trimLeft more).head?.any Token.isBare = true) : GoesOn rest []
  | value {space : Text} (blank : Text.isBlank space = true)
      (valued : (Text.trimLeft rest).head?.any Token.isBare = true) : GoesOn rest (space ++ ['='])
  | quoted {space spaceToo inside : Text} {quote : Char} (blank : Text.isBlank space = true)
      (blankToo : Text.isBlank spaceToo = true) (quotes : quote = '\'' ∨ quote = '"')
      (opened : quote ∉ inside) (closed : quote ∈ rest) :
      GoesOn rest (space ++ '=' :: (spaceToo ++ quote :: inside))

/-- A piece of the preview begins in a line and ends in the text behind it: a comment whose tag is
not on the line of its introducer, or an attribute. -/
inductive ReachesOver (line rest : Text) : Prop
  | comment {introducer : Introducer} {tag : Tag} {tail : Text}
      (unmarked : MarkupComment.scan line = none) (ends : introducer.written <:+ line)
      (begins : Text.trimLeft rest = tag.written ++ tail) (whole : tail.head?.all isSpace = true)
  | assignment {before after : List Token} {name : Text}
      (named : Token.lex line = before ++ ⟨.name, name⟩ :: after)
      (goesOn : GoesOn rest (Token.join after))

/-- Nothing reaches over the end of a line in front of a text without quotes that begins neither
with a tag nor with a sign, unless the line ends in a sign. -/
theorem not_reachesOver {line rest : Text} (unsigned : line.getLast? ≠ some '=')
    (begins : (Text.trimLeft rest).head? ≠ some '@' ∧ (Text.trimLeft rest).head? ≠ some '=')
    (unquoted : '\'' ∉ rest ∧ '"' ∉ rest) : ¬ReachesOver line rest := by
  intro reaches
  cases reaches with
  | comment _ _ tagged _ =>
    rw [tagged] at begins
    exact begins.1 rfl
  | @assignment before after name named goesOn =>
    have joined : Token.join (Token.lex line) = line := (lexes_lexFrom .code line).join_eq
    rw [named, Token.join_append, Token.join_cons] at joined
    generalize Token.join after = behind at goesOn joined
    cases goesOn with
    | sign signed _ =>
      rw [signed] at begins
      exact begins.2 rfl
    | @value space _ _ =>
      rw [← joined, ← List.append_assoc, ← List.append_assoc, List.getLast?_concat] at unsigned
      exact unsigned rfl
    | quoted _ _ quotes _ closed =>
      rcases quotes with rfl | rfl
      · exact unquoted.1 closed
      · exact unquoted.2 closed

/-! ## Pieces of a line with text behind it -/

namespace Token

variable {line rest : Text}

theorem takeWhile_append_lineEnd {p : Char → Bool} (stops : p '\n' = false) (line rest : Text) :
    (line ++ '\n' :: rest).takeWhile p = line.takeWhile p ∧
      (line ++ '\n' :: rest).dropWhile p = line.dropWhile p ++ '\n' :: rest := by
  refine Text.takeWhile_append_of_stop ?_ line
  rintro _ ⟨⟩
  exact stops

/-- Whether white space is all that a line holds from some place on is decided by the line. -/
theorem blankToLineEnd_append (oneLine : '\n' ∉ line) (rest : Text) :
    blankToLineEnd (line ++ '\n' :: rest) = blankToLineEnd line := by
  induction line with
  | nil => simp [blankToLineEnd, show isSpace '\n' = true by decide]
  | cons c line ih =>
    rw [List.mem_cons, not_or] at oneLine
    have shorter := ih oneLine.2
    rw [blankToLineEnd, blankToLineEnd] at shorter ⊢
    cases space : isSpace c with
    | false => simp [space]
    | true => simpa [space, oneLine.1] using shorter

theorem readParts_append (oneLine : '\n' ∉ line) (rest : Text) :
    readParts (line ++ '\n' :: rest) = readParts line := by
  induction line with
  | nil => simp [readParts, show isBare '\n' = false by decide]
  | cons c line ih =>
    rw [List.mem_cons, not_or] at oneLine
    rw [List.cons_append, readParts, readParts, ih oneLine.2, blankToLineEnd_append oneLine.2]

theorem readQuoted?_append {quote : Char} (inLine : quote ≠ '\n')
    (closed : quote ∉ line → quote ∉ rest) :
    readQuoted? quote (line ++ '\n' :: rest) = readQuoted? quote line := by
  by_cases here : quote ∈ line
  · obtain ⟨inside, after, rfl, unmarked⟩ := List.eq_append_cons_of_mem here
    rw [readQuoted?, readQuoted?, List.append_assoc, List.cons_append,
      Text.splitFirst?_append_mark unmarked, Text.splitFirst?_append_mark unmarked]
    rfl
  · have nowhere {text : Text} (absent : quote ∉ text) : readQuoted? quote text = none := by
      cases cut : Text.splitFirst? quote text with
      | none => rw [readQuoted?, cut]; rfl
      | some parts =>
        obtain ⟨-, shape⟩ := Text.splitFirst?_eq_some_iff.1 cut
        exact (absent (by simp [shape])).elim
    rw [nowhere here, nowhere (by simp [here, inLine, closed here])]

/-- A value is the same with text behind its line, unless it opens a quote that is closed there. -/
theorem readValue?_append (some : line ≠ []) (oneLine : '\n' ∉ line) (rest : Text)
    (closed : ∀ quote inside, line = quote :: inside → (quote = '\'' ∨ quote = '"') →
      quote ∉ inside → quote ∉ rest) :
    readValue? (line ++ '\n' :: rest) = readValue? line := by
  cases line with
  | nil => exact (some rfl).elim
  | cons c line =>
    rw [List.mem_cons, not_or] at oneLine
    rw [List.cons_append, readValue?, readValue?, readParts_append oneLine.2]
    by_cases quote : c = '\'' ∨ c = '"'
    · simp only [if_pos quote,
        readQuoted?_append (Ne.symm oneLine.1) (closed c line rfl quote)]
    · simp only [if_neg quote]

theorem readValue?_eq_none {source : Text} (unvalued : source.head?.any isBare = false) :
    readValue? source = none := by
  cases read : readValue? source with
  | none => rfl
  | some value =>
    obtain ⟨⟨rest, rfl⟩, c, more, rfl, bare⟩ := of_readValue? read
    simp [bare] at unvalued

/-- The tokens of an attribute, given its name and what is left behind the name and behind the white
space there. -/
def assign? (name afterName : Text) : Text → Option (List Token)
  | '=' :: afterSign => do
    let value ← readValue? (Text.trimLeft afterSign)
    some (visible [⟨.name, name⟩, ⟨.text, afterName.takeWhile isSpace⟩, ⟨.punctuation, ['=']⟩,
      ⟨.text, afterSign.takeWhile isSpace⟩, ⟨.value, value⟩])
  | _ => none

theorem readAssignment?_eq_assign? {source : Text} (named : source.takeWhile isWord ≠ []) :
    readAssignment? source = assign? (source.takeWhile isWord) (source.dropWhile isWord)
      (Text.trimLeft (source.dropWhile isWord)) := by
  rw [readAssignment?, Text.trimLeft]
  obtain ⟨c, name, shape⟩ := List.exists_cons_of_ne_nil named
  rw [shape]
  cases (source.dropWhile isWord).dropWhile isSpace with
  | nil => rfl
  | cons d afterSign =>
    by_cases sign : d = '='
    · subst sign
      rfl
    · simp [assign?, sign]

theorem assign?_eq_none {name afterName signed : Text}
    (unvalued : ∀ afterSign, signed = '=' :: afterSign →
      (Text.trimLeft afterSign).head?.any isBare = false) :
    assign? name afterName signed = none := by
  cases signed with
  | nil => rfl
  | cons d afterSign =>
    by_cases sign : d = '='
    · subst sign
      rw [assign?, readValue?_eq_none (unvalued afterSign rfl)]
      rfl
    · simp [assign?, sign]

theorem takeWhile_append_of_visible {text : Text} (visible : Text.isBlank text = false)
    (rest : Text) : (text ++ rest).takeWhile isSpace = text.takeWhile isSpace := by
  induction text with
  | nil => simp [Text.isBlank] at visible
  | cons c text ih =>
    cases space : isSpace c with
    | false => simp [space]
    | true =>
      rw [Text.isBlank, List.all_cons, space, Bool.true_and] at visible
      simp [space, ih visible]

theorem assign?_append {name afterName afterSign : Text} (oneLine : '\n' ∉ afterName)
    (signed : Text.trimLeft afterName = '=' :: afterSign)
    (trimmed : Text.isBlank afterSign = true → afterSign = [])
    (stays : ¬GoesOn rest afterName) :
    assign? name (afterName ++ '\n' :: rest) ('=' :: (afterSign ++ '\n' :: rest)) =
      assign? name afterName ('=' :: afterSign) := by
  have split : afterName = afterName.takeWhile isSpace ++ '=' :: afterSign := by
    rw [← signed]
    exact List.takeWhile_append_dropWhile.symm
  have blankSpace : Text.isBlank (afterName.takeWhile isSpace) = true :=
    List.all_eq_true.2 fun c member => List.mem_takeWhile_imp member
  have visibleName : Text.isBlank afterName = false := by
    rw [← Bool.not_eq_true, ← Text.trimLeft_eq_nil_iff, signed]
    exact List.cons_ne_nil _ _
  cases blank : Text.isBlank afterSign with
  | true =>
    -- There is no value on the line, and one behind it would make the attribute go on.
    obtain rfl := trimmed blank
    rw [assign?_eq_none fun more same => ?_, assign?_eq_none fun more same => ?_]
    · cases same
      rfl
    · cases same
      refine Bool.eq_false_of_not_eq_true fun valued => stays ?_
      rw [split]
      exact .value blankSpace valued
  | false =>
    have shown : Text.trimLeft afterSign ≠ [] := by
      rw [ne_eq, Text.trimLeft_eq_nil_iff, blank]
      exact Bool.false_ne_true
    have within : Text.trimLeft afterSign ⊆ afterName := by
      rw [split]
      intro c member
      have inside := (List.dropWhile_sublist isSpace).subset member
      simp [inside]
    have value := readValue?_append shown (fun member => oneLine (within member)) rest
      fun quote inside opens quotes opened closed => stays <| by
        rw [split, ← List.takeWhile_append_dropWhile (p := isSpace) (l := afterSign)]
        rw [Text.trimLeft] at opens
        rw [opens]
        exact .quoted blankSpace
          (List.all_eq_true.2 fun c member => List.mem_takeWhile_imp member) quotes opened closed
    rw [assign?, assign?, Text.trimLeft_append_of_visible blank, value,
      takeWhile_append_of_visible visibleName, takeWhile_append_of_visible blank]

/-- An attribute is the same with text behind its line, unless it goes on there. -/
theorem readAssignment?_append (oneLine : '\n' ∉ line) (trimmed : Text.trimRight line = line)
    (stays : line.takeWhile isWord ≠ [] → ¬GoesOn rest (line.dropWhile isWord)) :
    readAssignment? (line ++ '\n' :: rest) = readAssignment? line := by
  obtain ⟨named, behind⟩ := takeWhile_append_lineEnd (show isWord '\n' = false by decide) line rest
  have suffix : line.dropWhile isWord <:+ line := List.dropWhile_suffix isWord
  by_cases unnamed : line.takeWhile isWord = []
  · rw [readAssignment?, readAssignment?, named, unnamed]
  have stays := stays unnamed
  rw [readAssignment?_eq_assign? unnamed, readAssignment?_eq_assign? (named ▸ unnamed), named,
    behind]
  cases blank : Text.isBlank (line.dropWhile isWord) with
  | true =>
    -- The name ends the line, and a sign behind it would make the attribute go on.
    have nothing := Text.eq_nil_of_suffix trimmed suffix blank
    rw [nothing] at stays ⊢
    rw [assign?_eq_none fun afterSign signed => ?_, assign?_eq_none fun afterSign signed => ?_]
    · simp [Text.trimLeft] at signed
    · exact Bool.eq_false_of_not_eq_true fun valued => stays (GoesOn.sign signed valued)
  | false =>
    rw [Text.trimLeft_append_of_visible blank]
    cases signed : Text.trimLeft (line.dropWhile isWord) with
    | nil =>
      rw [Text.trimLeft_eq_nil_iff, blank] at signed
      contradiction
    | cons d afterSign =>
      by_cases sign : d = '='
      · subst sign
        have behindSign : afterSign <:+ line :=
          ((List.suffix_cons '=' afterSign).trans
            (signed ▸ List.dropWhile_suffix isSpace)).trans suffix
        exact assign?_append (fun member => oneLine (suffix.subset member)) signed
          (Text.eq_nil_of_suffix trimmed behindSign) stays
      · simp [assign?, sign]

/-! ## Markup -/

/-- A step in the markup of a line does not depend on what is behind the line, unless an attribute
goes on there. -/
theorem stepMarkup_append {c : Char} (oneLine : '\n' ∉ c :: line)
    (trimmed : Text.trimRight (c :: line) = c :: line)
    (stays : (c :: line).takeWhile isWord ≠ [] → ¬GoesOn rest ((c :: line).dropWhile isWord)) :
    stepMarkup c (line ++ '\n' :: rest) = stepMarkup c line := by
  have read := readAssignment?_append oneLine trimmed stays
  have oneLineBehind : '\n' ∉ line := fun member => oneLine (List.mem_cons_of_mem c member)
  rw [List.cons_append] at read
  rw [stepMarkup, stepMarkup, read, blankToLineEnd_append oneLineBehind,
    (takeWhile_append_lineEnd (show isWord '\n' = false by decide) line rest).1,
    (takeWhile_append_lineEnd (show isGap '\n' = false by decide) line rest).1]

/-- The names in some tokens of a line, of which none is that of an attribute that goes on behind
the line. -/
def Stay (tokens : List Token) (rest : Text) : Prop :=
  ∀ before name after, tokens = before ++ ⟨.name, name⟩ :: after → ¬GoesOn rest (join after)

theorem Stay.of_append {tokens more : List Token} (stay : Stay (tokens ++ more) rest) :
    Stay more rest := by
  rintro before name after rfl
  exact stay (tokens ++ before) name after (List.append_assoc ..).symm

end Token

/-- A step that begins with a word makes a name of it. -/
theorem LexStep.exists_name {source rest : Text} {tokens : List Token} {later : LexMode}
    (step : LexStep .markup source tokens later rest) (named : source.takeWhile isWord ≠ []) :
    ∃ more, tokens = ⟨.name, source.takeWhile isWord⟩ :: more ∧
      Token.join more ++ rest = source.dropWhile isWord := by
  have unnamed {c : Char} {behind : Text} (unworded : isWord c = false) :
      (c :: behind).takeWhile isWord = [] := by simp [unworded]
  cases step with
  | lineEnd => exact (named (unnamed (by decide))).elim
  | colon => exact (named (unnamed (by decide))).elim
  | gap gap => exact (named (unnamed (Token.of_isGap gap).1)).elim
  | mark _ _ unworded _ => exact (named (unnamed unworded)).elim
  | word _ word =>
    refine ⟨[], ?_, ?_⟩
    · rw [List.takeWhile_cons_of_pos word]
    · rw [List.dropWhile_cons_of_pos word]
      rfl
  | @assignment parts _ begins =>
    obtain ⟨name, behind⟩ := Text.takeWhile_append_of_head begins.word
      (begins.not_isWord_of_mem_head? (parts.afterSign ++ (parts.value ++ rest)))
    have whole : parts.written ++ rest = parts.name ++
        (parts.beforeSign ++ '=' :: (parts.afterSign ++ (parts.value ++ rest))) := by
      simp [AssignmentParts.written]
    rw [whole, name, behind, AssignmentParts.tokens, Token.visible,
      List.filter_cons_of_pos (by simpa using begins.named), ← Token.visible]
    exact ⟨_, rfl, by simp⟩

theorem LexStep.later_eq_markup {source rest : Text} {tokens : List Token} {later : LexMode}
    (step : LexStep .markup source tokens later rest) (oneLine : '\n' ∉ source) :
    later = .markup := by
  cases step with
  | lineEnd => simp at oneLine
  | assignment | colon | word | gap | mark => rfl

/-- Behind the markup of a line, the lexer goes on with the line end and then with code, unless an
attribute goes on in the next line. -/
theorem Lexes.append_lineEnd {mode : LexMode} {line rest : Text} {tokens : List Token}
    (lexes : Lexes mode line tokens) (inMarkup : mode = .markup) (oneLine : '\n' ∉ line)
    (trimmed : Text.trimRight line = line) (stay : Token.Stay tokens rest) :
    Token.lexFrom mode (line ++ '\n' :: rest) =
      tokens ++ ⟨.text, ['\n']⟩ :: Token.lexFrom .code rest := by
  induction lexes with
  | nil mode =>
    subst inMarkup
    exact (Lexes.cons (.lineEnd rest) (lexes_lexFrom .code rest)).lexFrom_eq
  | @cons mode later source behind tokens more step lexes ih =>
    subst inMarkup
    cases source with
    | nil => exact absurd step.length_lt (Nat.not_lt_zero _)
    | cons c line =>
      -- The step is the same with the next line behind it, and leaves the end of the line.
      have cut := step.tiles
      have stays (named : (c :: line).takeWhile isWord ≠ []) :
          ¬GoesOn rest ((c :: line).dropWhile isWord) := by
        obtain ⟨inside, rfl, joined⟩ := step.exists_name named
        rw [← joined, ← lexes.join_eq, ← Token.join_append]
        exact stay [] _ _ rfl
      have suffix : behind <:+ c :: line := cut ▸ List.suffix_append _ _
      have within : Token.width tokens - 1 ≤ line.length := by
        have lengths := congrArg List.length cut
        rw [List.length_append, List.length_cons] at lengths
        rw [Token.width]
        omega
      have trimmedBehind := Text.trimRight_of_suffix trimmed suffix
      have later : later = .markup := step.later_eq_markup oneLine
      rw [List.cons_append, Token.lexFrom, Token.step,
        Token.stepMarkup_append oneLine trimmed stays, ← Token.step, step.step_eq rfl,
        List.drop_append_of_le_length within, step.drop_width rfl]
      dsimp only
      rw [ih later (fun member => oneLine (suffix.subset member)) trimmedBehind stay.of_append,
        List.append_assoc]

/-! ## Code -/

namespace CommentParts

variable {parts : CommentParts} {line rest : Text}

/-- A comment up to its tag that begins in a line and ends behind it begins with the introducer at
the end of the line. -/
theorem of_head_eq_append {more : Text} (blank : Text.isBlank parts.gap = true)
    (trimmed : Text.trimRight line = line) (headed : parts.head = line ++ '\n' :: more) :
    line = parts.introducer.written ∧ parts.gap ++ parts.tag.written = '\n' :: more := by
  rw [head, List.append_assoc] at headed
  rcases List.append_eq_append_iff.1 headed with ⟨space, rfl, tagged⟩ | ⟨inner, shape, tagged⟩
  · have blankSpace : Text.isBlank space = true := by
      rcases List.append_eq_append_iff.1 tagged with ⟨inner, -, shape⟩ | ⟨inner, shape, -⟩
      · exact absurd (parts.tag.isSpace_of_mem_written (c := '\n') (by simp [shape])) (by decide)
      · rw [shape, Text.isBlank_append, Bool.and_eq_true] at blank
        exact blank.1
    obtain rfl := Text.eq_nil_of_suffix trimmed (List.suffix_append _ _) blankSpace
    exact ⟨List.append_nil _, tagged⟩
  · cases inner with
    | nil => exact ⟨by simpa using shape.symm, tagged.symm⟩
    | cons c inner =>
      obtain rfl := (List.cons.inj tagged).1
      have blank : isSpace '\n' = false :=
        parts.introducer.isSpace_of_mem_written (by simp [shape])
      exact absurd blank (by decide)

end CommentParts

namespace Token

variable {line rest : Text}

/-- A tag stands at the start of a text, with white space in front of it and behind it at most. -/
def BeginsWithTag (text : Text) : Prop :=
  ∃ (tag : Tag) (tail : Text),
    Text.trimLeft text = tag.written ++ tail ∧ tail.head?.all isSpace = true

/-- A line end behind a place of a line makes no comment there, unless the place is that of an
introducer at the end of the line, and a tag is behind it. -/
theorem readComment?_append_eq_none (trimmed : Text.trimRight line = line)
    (unread : readComment? line = none)
    (apart : ∀ introducer : Introducer, line = introducer.written → ¬BeginsWithTag rest) :
    readComment? (line ++ '\n' :: rest) = none := by
  cases read : readComment? (line ++ '\n' :: rest) with
  | none => rfl
  | some tokens =>
    obtain ⟨parts, begins, written, -⟩ := readComment?_eq_some_iff.1 read
    have here (tail : Text) (cut : line = parts.head ++ tail)
        (tailed : parts.tail = tail ++ '\n' :: rest) : False := by
      let own : CommentParts := { parts with tail := tail }
      have begun : own.Begins := by
        refine ⟨begins.gap, ?_⟩
        have whole := begins.whole
        rw [tailed] at whole
        cases tail with
        | nil => rfl
        | cons c tail => exact whole
      have found := readComment?_eq_some_iff.2 ⟨own, begun, cut.trans own.written_eq_head.symm, rfl⟩
      rw [unread] at found
      contradiction
    rw [CommentParts.written_eq_head] at written
    -- The line ends inside of what is read as a comment up to its tag, or behind that.
    rcases List.append_eq_append_iff.1 written with ⟨inner, headed, tailed⟩ | ⟨tail, cut, tailed⟩
    · cases inner with
      | nil => exact (here [] (by simpa using headed.symm) tailed.symm).elim
      | cons c inner =>
        obtain ⟨rfl, behind⟩ := List.cons.inj tailed
        obtain ⟨introduced, spaced⟩ := CommentParts.of_head_eq_append begins.gap trimmed headed
        refine (apart parts.introducer introduced ⟨parts.tag, parts.tail, ?_, begins.whole⟩).elim
        have same : '\n' :: rest = parts.gap ++ (parts.tag.written ++ parts.tail) := by
          rw [← List.append_assoc, spaced, tailed]
        have trimmedRest : Text.trimLeft ('\n' :: rest) = Text.trimLeft rest := rfl
        rw [← trimmedRest, same, Text.trimLeft_append_of_isBlank begins.gap, Tag.trimLeft_written]
    · exact (here tail cut tailed).elim

/-- A text in which no comment begins becomes these tokens as code, whatever is behind it. -/
structure CodeTokens (front : Text) (tokens : List Token) : Prop where
  kinds : ∀ token ∈ tokens, token.kind = .text
  join_eq : join tokens = front
  lexFrom_eq : ∀ source, (∀ c ∈ source.head?, isPlain c = false) →
    (∀ place < front.length, readComment? ((front ++ source).drop place) = none) →
    lexFrom .code (front ++ source) = tokens ++ lexFrom .code source

namespace CodeTokens

variable {c : Char} {front : Text} {tokens : List Token}

theorem nil : CodeTokens [] [] := ⟨by simp, rfl, fun _ _ _ => rfl⟩

theorem character (other : isPlain c = false) (code : CodeTokens front tokens) :
    CodeTokens (c :: front) (⟨.text, [c]⟩ :: tokens) := by
  refine ⟨?_, ?_, fun source stops nowhere => ?_⟩
  · simpa using code.kinds
  · rw [join_cons, code.join_eq, List.singleton_append]
  · have unread : readComment? (c :: (front ++ source)) = none := nowhere 0 (by simp)
    have nowhereBehind (place : Nat) (inside : place < front.length) :=
      nowhere (place + 1) (Nat.succ_lt_succ inside)
    have step := LexStep.character unread other
    rw [List.cons_append, (Lexes.cons step (lexes_lexFrom .code _)).lexFrom_eq,
      code.lexFrom_eq source stops nowhereBehind]
    rfl

theorem plain (plain : isPlain c = true) (code : CodeTokens (front.dropWhile isPlain) tokens) :
    CodeTokens (c :: front) (⟨.text, c :: front.takeWhile isPlain⟩ :: tokens) := by
  have split : front.takeWhile isPlain ++ front.dropWhile isPlain = front :=
    List.takeWhile_append_dropWhile
  have lengths := congrArg List.length split
  rw [List.length_append] at lengths
  refine ⟨?_, ?_, fun source stops nowhere => ?_⟩
  · simpa using code.kinds
  · rw [join_cons, code.join_eq, List.cons_append, split]
  · obtain ⟨run, behind⟩ := Text.takeWhile_append_of_stop stops front
    have unread : readComment? (c :: (front ++ source)) = none := nowhere 0 (by simp)
    have nowhereBehind : ∀ place < (front.dropWhile isPlain).length,
        readComment? ((front.dropWhile isPlain ++ source).drop place) = none := by
      intro place inside
      have here := nowhere ((c :: front.takeWhile isPlain).length + place)
        (by simp only [List.length_cons]; omega)
      have whole : c :: front ++ source =
          (c :: front.takeWhile isPlain) ++ (front.dropWhile isPlain ++ source) := by
        simp only [List.cons_append, ← List.append_assoc, split]
      rwa [whole, List.drop_length_add_append] at here
    have step := LexStep.plain unread plain
    rw [run, behind] at step
    rw [List.cons_append, (Lexes.cons step (lexes_lexFrom .code _)).lexFrom_eq,
      code.lexFrom_eq source stops nowhereBehind]
    rfl

end CodeTokens

/-- Code in which no comment begins becomes text, in the same way whatever is behind it. -/
theorem exists_codeTokens (front : Text) : ∃ tokens, CodeTokens front tokens := by
  induction length : front.length using Nat.strong_induction_on generalizing front with
  | h n ih =>
    cases front with
    | nil => exact ⟨[], .nil⟩
    | cons c front =>
      rw [List.length_cons] at length
      cases plain : isPlain c with
      | true =>
        have shorter : (front.dropWhile isPlain).length ≤ front.length :=
          (List.dropWhile_sublist isPlain).length_le
        obtain ⟨tokens, code⟩ := ih (front.dropWhile isPlain).length (by omega) _ rfl
        exact ⟨_, code.plain plain⟩
      | false =>
        obtain ⟨tokens, code⟩ := ih front.length (by omega) front rfl
        exact ⟨_, code.character plain⟩

theorem lexFrom_code_lineEnd (rest : Text) :
    lexFrom .code ('\n' :: rest) = ⟨.text, ['\n']⟩ :: lexFrom .code rest := by
  have unread : readComment? ('\n' :: rest) = none := rfl
  exact (Lexes.cons (.character unread (by decide)) (lexes_lexFrom .code rest)).lexFrom_eq

end Token

end SnippetMarkup
