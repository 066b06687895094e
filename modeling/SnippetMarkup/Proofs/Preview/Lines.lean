import Mathlib
import SnippetMarkup.Proofs.Preview.LineEnd
import SnippetMarkup.Proofs.Preview.Rules

/-!
# Lines in a preview

The preview reads a text as a whole, and the converter acts on its lines.  Where nothing reaches
over the end of a line, the tokens of the text are those of the line and those of what is below, so
every line is shown as if it were alone; and a line alone is shown with a keyword where its scan
finds a comment.
-/

namespace SnippetMarkup

open Unicode (isSpace isWord)

/-! ## Comments of trimmed lines -/

namespace CommentParts

variable {parts : CommentParts}

theorem WellFormed.begins (wellFormed : parts.WellFormed) : parts.Begins := by
  refine ⟨wellFormed.gap, ?_⟩
  rcases wellFormed.tail with bare | ⟨c, more, tail, white, -⟩
  · rw [bare]
    rfl
  · rw [tail]
    exact white

/-- A line end may stand behind a comment. -/
theorem WellFormed.begins_padded (wellFormed : parts.WellFormed) (rest : Text) :
    (parts.padded ('\n' :: rest)).Begins := by
  refine ⟨wellFormed.gap, ?_⟩
  rw [padded_tail]
  cases tail : parts.tail with
  | nil => rfl
  | cons c more => simpa [tail] using wellFormed.begins.whole

theorem tail_suffix {line : Text} {place : Nat} (here : line.drop place = parts.written) :
    parts.tail <:+ line := by
  have suffix : parts.tail <:+ parts.written := by
    rw [written_eq_head]
    exact List.suffix_append _ _
  exact suffix.trans (here ▸ List.drop_suffix _ _)

/-- Where a line is trimmed, a tag with white space behind it has something behind that. -/
theorem Begins.wellFormed (begins : parts.Begins) {line : Text}
    (trimmed : Text.trimRight line = line) (suffix : parts.written <:+ line) :
    parts.WellFormed := by
  refine ⟨begins.gap, ?_⟩
  cases tail : parts.tail with
  | nil => exact .inl rfl
  | cons c more =>
    have white : isSpace c = true := by simpa [tail] using begins.whole
    refine .inr ⟨c, more, rfl, white, fun single => ?_⟩
    rw [written_eq_head, tail, single] at suffix
    have nothing := Text.eq_nil_of_suffix trimmed ((List.suffix_append _ _).trans suffix)
      (by simp [Text.isBlank, white])
    exact List.cons_ne_nil _ _ nothing

theorem mark_mem_written (parts : CommentParts) : '@' ∈ parts.written := by
  simp [written, body, Tag.written]

end CommentParts

namespace MarkupComment

theorem beginsAt_iff_readComment? {line : Text} (trimmed : Text.trimRight line = line)
    (place : Nat) :
    BeginsAt line place ↔ Token.readComment? (line.drop place) ≠ none := by
  rw [Option.ne_none_iff_exists']
  simp only [Token.readComment?_eq_some_iff]
  constructor
  · rintro ⟨parts, wellFormed, written⟩
    exact ⟨parts.tokens, parts, wellFormed.begins, written, rfl⟩
  · rintro ⟨-, parts, begins, written, -⟩
    exact ⟨parts, begins.wellFormed trimmed (written ▸ List.drop_suffix _ _), written⟩

/-- A line with a comment has a leftmost one. -/
theorem exists_leftmost {line : Text} (oneLine : '\n' ∉ line) (some : scan line ≠ none) :
    ∃ place, BeginsAt line place ∧ ∀ before < place, ¬BeginsAt line before := by
  classical
  rw [ne_eq, scan_eq_none_iff oneLine, not_forall_not] at some
  exact ⟨Nat.find some, Nat.find_spec some, fun before => Nat.find_min some⟩

end MarkupComment

/-! ## The tokens of a line -/

/-- The tokens of a line: code alone, or code up to the leftmost comment, the beginning of the
comment, and what the lexer makes of its markup. -/
inductive LineTokens (line : Text) : List Token → Prop
  | unmarked {tokens : List Token} (unmarked : MarkupComment.scan line = none)
      (code : ∀ token ∈ tokens, token.kind = .text) (joined : Token.join tokens = line) :
      LineTokens line tokens
  | marked {place : Nat} {parts : CommentParts} {front : List Token} (wellFormed : parts.WellFormed)
      (written : line.drop place = parts.written)
      (leftmost : ∀ before < place, ¬MarkupComment.BeginsAt line before)
      (code : ∀ token ∈ front, token.kind = .text) (joined : Token.join front = line.take place) :
      LineTokens line (front ++ (parts.tokens ++ Token.lexFrom .markup parts.tail))

namespace Token

variable {line rest : Text}

/-- Up to a place in front of which no comment begins, a line end behind the line makes none. -/
theorem nowhere_append (trimmed : Text.trimRight line = line) {place : Nat}
    (inside : place ≤ line.length) (nowhere : ∀ before < place, ¬MarkupComment.BeginsAt line before)
    (apart : ∀ before < place, ∀ introducer : Introducer, line.drop before = introducer.written →
      ¬BeginsWithTag rest) :
    ∀ before < place, readComment? ((line ++ '\n' :: rest).drop before) = none := by
  intro before earlier
  have unread := nowhere before earlier
  rw [MarkupComment.beginsAt_iff_readComment? trimmed, not_not] at unread
  rw [List.drop_append_of_le_length (by omega)]
  exact readComment?_append_eq_none (Text.trimRight_drop trimmed before) unread
    (apart before earlier)

theorem lex_unmarked (oneLine : '\n' ∉ line) (trimmed : Text.trimRight line = line)
    (unmarked : MarkupComment.scan line = none) :
    LineTokens line (lex line) ∧
      ∀ rest, ¬ReachesOver line rest →
        lex (line ++ '\n' :: rest) = lex line ++ ⟨.text, ['\n']⟩ :: lex rest := by
  have nowhere := (MarkupComment.scan_eq_none_iff oneLine).1 unmarked
  obtain ⟨tokens, kinds, joined, lexed⟩ := exists_codeTokens line
  have alone : lex line = tokens := by
    have here := lexed [] (by simp) fun place inside => ?_
    · rwa [List.append_nil, show lexFrom .code [] = [] by rw [lexFrom], List.append_nil] at here
    · rw [List.append_nil, ← not_ne_iff, ← MarkupComment.beginsAt_iff_readComment? trimmed]
      exact nowhere place
  rw [alone]
  refine ⟨.unmarked unmarked kinds joined, fun rest contained => ?_⟩
  rw [lex, lex, lexed ('\n' :: rest), lexFrom_code_lineEnd]
  · rintro _ ⟨⟩
    rfl
  · refine nowhere_append trimmed le_rfl (fun before _ => nowhere before) ?_
    rintro before - introducer ends ⟨tag, tail, begins, whole⟩
    exact contained (.comment unmarked (ends ▸ List.drop_suffix _ _) begins whole)

/-- A comment begins, in front of whatever white space may be behind the line. -/
theorem lexFrom_code_written {parts : CommentParts} {behind : Text}
    (begins : (parts.padded behind).Begins) :
    lexFrom .code (parts.written ++ behind) =
      parts.tokens ++ lexFrom .markup (parts.tail ++ behind) := by
  have step := LexStep.comment begins
  rw [CommentParts.padded_written, CommentParts.padded_tail] at step
  exact (Lexes.cons step (lexes_lexFrom .markup _)).lexFrom_eq

/-- In front of a comment, a line does not end in an introducer. -/
theorem drop_ne_introducer {parts : CommentParts} {place : Nat}
    (written : line.drop place = parts.written) {before : Nat} (earlier : before < place)
    (introducer : Introducer) : line.drop before ≠ introducer.written := by
  intro ends
  have later : parts.written <:+ introducer.written := by
    rw [← ends, ← written, ← Nat.add_sub_cancel' earlier.le, ← List.drop_drop]
    exact List.drop_suffix _ _
  exact absurd (later.subset parts.mark_mem_written) introducer.mark_notMem_written

theorem isPlain_of_mem_head? {parts : CommentParts} (behind : Text) :
    ∀ c ∈ (parts.written ++ behind).head?, isPlain c = false := by
  rw [CommentParts.written, List.append_assoc, List.append_assoc]
  cases parts.introducer <;> (rintro _ ⟨⟩; rfl)

theorem lex_marked (oneLine : '\n' ∉ line) (trimmed : Text.trimRight line = line)
    (marked : MarkupComment.scan line ≠ none) :
    LineTokens line (lex line) ∧
      ∀ rest, ¬ReachesOver line rest →
        lex (line ++ '\n' :: rest) = lex line ++ ⟨.text, ['\n']⟩ :: lex rest := by
  obtain ⟨place, ⟨parts, wellFormed, written⟩, leftmost⟩ :=
    MarkupComment.exists_leftmost oneLine marked
  have inside : place < line.length :=
    MarkupComment.lt_length_of_drop_eq_head (written.trans parts.written_eq_head)
  have split : line.take place ++ parts.written = line := by rw [← written, List.take_append_drop]
  obtain ⟨front, kinds, joined, lexed⟩ := exists_codeTokens (line.take place)
  rw [List.length_take_of_le inside.le] at lexed
  have alone : lex line = front ++ (parts.tokens ++ lexFrom .markup parts.tail) := by
    have here := lexed (parts.written ++ []) (isPlain_of_mem_head? []) fun before earlier => ?_
    · rwa [List.append_nil, split, ← List.append_nil parts.written,
        lexFrom_code_written (by simpa [CommentParts.padded] using wellFormed.begins),
        List.append_nil] at here
    · rw [List.append_nil, split, ← not_ne_iff, ← MarkupComment.beginsAt_iff_readComment? trimmed]
      exact leftmost before earlier
  rw [alone]
  refine ⟨.marked wellFormed written leftmost kinds joined, fun rest contained => ?_⟩
  have tailed : parts.tail <:+ line := CommentParts.tail_suffix written
  have stay : Stay (lexFrom .markup parts.tail) rest := by
    intro before name after named goesOn
    have namedToo : lex line = front ++ (parts.tokens ++ before) ++ ⟨.name, name⟩ :: after := by
      rw [alone, named]
      simp only [List.append_assoc]
    exact contained (.assignment namedToo goesOn)
  have whole : line ++ '\n' :: rest = line.take place ++ (parts.written ++ '\n' :: rest) := by
    rw [← List.append_assoc, split]
  have apart (before : Nat) (earlier : before < place) (introducer : Introducer)
      (ends : line.drop before = introducer.written) : ¬BeginsWithTag rest :=
    absurd ends (drop_ne_introducer written earlier introducer)
  have nowhere := nowhere_append trimmed inside.le leftmost apart
  have trimmedTail := Text.trimRight_of_suffix trimmed tailed
  rw [whole] at nowhere ⊢
  rw [lex, lex, lexed _ (isPlain_of_mem_head? _) nowhere,
    lexFrom_code_written (wellFormed.begins_padded rest),
    (lexes_lexFrom .markup parts.tail).append_lineEnd rfl
      (fun member => oneLine (tailed.subset member)) trimmedTail stay]
  simp

/-- What the lexer makes of a line by itself. -/
theorem lineTokens_lex (oneLine : '\n' ∉ line) (trimmed : Text.trimRight line = line) :
    LineTokens line (lex line) := by
  by_cases unmarked : MarkupComment.scan line = none
  · exact (lex_unmarked oneLine trimmed unmarked).1
  · exact (lex_marked oneLine trimmed unmarked).1

/-- A line is cut as if nothing were behind it, unless it reaches over its end. -/
theorem lex_append_lineEnd (oneLine : '\n' ∉ line) (trimmed : Text.trimRight line = line)
    (contained : ¬ReachesOver line rest) :
    lex (line ++ '\n' :: rest) = lex line ++ ⟨.text, ['\n']⟩ :: lex rest := by
  by_cases unmarked : MarkupComment.scan line = none
  · exact (lex_unmarked oneLine trimmed unmarked).2 rest contained
  · exact (lex_marked oneLine trimmed unmarked).2 rest contained

/-! ## The colon at the end of a line -/

/-- A value does not hold the colon at the end of the text. -/
theorem readParts_getLast?_ne {source : Text} (all : readParts source = source) :
    source.getLast? ≠ some ':' := by
  induction source with
  | nil => simp
  | cons c rest ih =>
    rw [readParts] at all
    split at all
    · next bare =>
      have behind := ih (List.cons.inj all).2
      cases rest with
      | nil =>
        rintro ⟨⟩
        exact absurd bare (by decide)
      | cons d rest => rwa [List.getLast?_cons_cons]
    · split at all
      · next colon =>
        have behind := ih (List.cons.inj all).2
        cases rest with
        | nil => exact absurd colon.2 (by decide)
        | cons d rest => rwa [List.getLast?_cons_cons]
      · exact absurd all (List.cons_ne_nil _ _).symm

theorem readValue?_getLast?_ne {value : Text} (all : readValue? value = some value) :
    value.getLast? ≠ some ':' := by
  cases value with
  | nil => simp
  | cons c rest =>
    rw [readValue?] at all
    split at all
    · next found quoted =>
      cases all
      obtain ⟨quote, closed⟩ := Option.ite_none_right_eq_some.1 quoted
      obtain ⟨⟨inside, after⟩, cut, same⟩ := Option.bind_eq_some_iff.1 closed
      rw [← Option.some.inj same, List.getLast?_append]
      rcases quote with rfl | rfl <;> simp
    · split at all
      · next bare =>
        have parts := readParts_getLast?_ne (List.cons.inj (Option.some.inj all)).2
        cases rest with
        | nil =>
          rintro ⟨⟩
          exact absurd bare (by decide)
        | cons d rest => rwa [List.getLast?_cons_cons]
      · contradiction

end Token

/-- A step that takes the colon at the end of a line takes nothing else. -/
theorem LexStep.eq_colon {source rest : Text} {tokens : List Token} {later : LexMode}
    (step : LexStep .markup source tokens later rest) (done : rest = [])
    (ends : source.getLast? = some ':') : tokens = [⟨.punctuation, [':']⟩] := by
  have last : ':' ∈ source := List.mem_of_getLast? ends
  have run {p : Char → Bool} {c : Char} {behind : Text} (first : p c = true)
      (taken : behind.dropWhile p = []) (member : ':' ∈ c :: behind) : p ':' = true := by
    rcases List.mem_cons.1 member with rfl | inside
    · exact first
    · exact List.dropWhile_eq_nil_iff.1 taken _ inside
  cases step with
  | colon => rfl
  | lineEnd =>
    subst done
    exact absurd ends (by decide)
  | word _ word => exact absurd (run word done last) (by decide)
  | gap gap => exact absurd (run gap done last) (by decide)
  | mark _ goesOn _ _ =>
    subst done
    cases List.mem_singleton.1 last
    exact (goesOn ⟨rfl, rfl⟩).elim
  | @assignment parts _ begins =>
    subst done
    obtain ⟨c, more, shape, -⟩ := begins.visible
    have value := begins.value
    rw [List.append_nil] at value ends
    have split : parts.written =
        (parts.name ++ (parts.beforeSign ++ '=' :: parts.afterSign)) ++ parts.value := by
      simp [AssignmentParts.written]
    rw [split, List.getLast?_append_of_ne_nil _ (shape ▸ List.cons_ne_nil c more)] at ends
    exact (Token.readValue?_getLast?_ne value ends).elim

theorem Lexes.exists_colon {mode : LexMode} {source : Text} {tokens : List Token}
    (lexes : Lexes mode source tokens) (inMarkup : mode = .markup) (oneLine : '\n' ∉ source)
    (ends : source.getLast? = some ':') : ∃ front, tokens = front ++ [⟨.punctuation, [':']⟩] := by
  induction lexes with
  | nil => simp at ends
  | @cons mode later source rest tokens more step lexes ih =>
    subst inMarkup
    have cut := step.tiles
    by_cases done : rest = []
    · have nothing : more = [] := by
        rw [← lexes.lexFrom_eq, done, Token.lexFrom]
      exact ⟨[], by rw [step.eq_colon done ends, nothing]; rfl⟩
    · rw [cut, List.getLast?_append_of_ne_nil _ done] at ends
      have within : rest ⊆ source := cut ▸ List.subset_append_right _ _
      obtain ⟨front, rfl⟩ :=
        ih (step.later_eq_markup oneLine) (fun member => oneLine (within member)) ends
      exact ⟨tokens ++ front, (List.append_assoc ..).symm⟩

/-- No tag stands in the markup of a line. -/
theorem Lexes.kind_ne_keyword {mode : LexMode} {source : Text} {tokens : List Token}
    (lexes : Lexes mode source tokens) (inMarkup : mode = .markup) (oneLine : '\n' ∉ source)
    {token : Token} (member : token ∈ tokens) : token.kind ≠ .keyword := by
  induction lexes with
  | nil => simp at member
  | @cons mode later source rest tokens more step lexes ih =>
    subst inMarkup
    have within : rest ⊆ source := step.tiles ▸ List.subset_append_right _ _
    rcases List.mem_append.1 member with here | there
    · exact step.kind_ne_keyword here
    · exact ih (step.later_eq_markup oneLine) (fun member => oneLine (within member)) there

/-! ## Places -/

namespace Token

theorem mem_place_iff {start place : Nat} {token : Token} {tokens : List Token} :
    (place, token) ∈ Token.place start tokens ↔
      ∃ before after, tokens = before ++ token :: after ∧ place = start + width before := by
  induction tokens generalizing start with
  | nil => simp [Token.place]
  | cons first tokens ih =>
    rw [Token.place, List.mem_cons, ih]
    constructor
    · rintro (same | ⟨before, after, rfl, rfl⟩)
      · cases same
        exact ⟨[], tokens, rfl, rfl⟩
      · exact ⟨first :: before, after, rfl, by simp [width, Nat.add_assoc]⟩
    · rintro ⟨before, after, cut, rfl⟩
      cases before with
      | nil =>
        cases cut
        exact .inl rfl
      | cons second before =>
        cases cut
        exact .inr ⟨before, after, rfl, by simp [width, Nat.add_assoc]⟩

/-- The keywords that begin on a line, given where the line begins. -/
def keywordsOn (tokens : List (Nat × Token)) (start : Nat) (line : Text) : List (Nat × Token) :=
  tokens.filter fun (place, token) =>
    token.kind == .keyword && decide (start ≤ place ∧ place < start + line.length)

end Token

/-- The tokens show a comment of a line, given where the line begins. -/
structure ShowsComment (tokens : List (Nat × Token)) (start : Nat) (line : Text)
    (comment : MarkupComment) (place : Nat) (parts : CommentParts) : Prop where
  wellFormed : parts.WellFormed
  written : line.drop place = parts.written
  leftmost : ∀ before < place, ¬MarkupComment.BeginsAt line before
  comment_eq : comment = ⟨parts.introducer, parts.body, Text.trimRight (line.take place)⟩
  tagged : Tag.ofBody? comment.body = some parts.tag
  introduced : ∃ before after, tokens = before ++ Token.place (start + place) parts.tokens ++ after
  keyword : Token.keywordsOn tokens start line =
    [(start + place + parts.introducer.written.length + parts.gap.length,
      ⟨.keyword, parts.tag.written⟩)]
  colon_iff : (start + (line.length - 1), ⟨.punctuation, [':']⟩) ∈ tokens ↔ comment.continues = true

/-- The tokens show what the scan of a line finds, given where the line begins. -/
structure ShowsLine (tokens : List (Nat × Token)) (start : Nat) (line : Text) : Prop where
  keyword_iff : Token.keywordsOn tokens start line ≠ [] ↔ MarkupComment.scan line ≠ none
  comment : ∀ comment, MarkupComment.scan line = some comment →
    ∃ place parts, ShowsComment tokens start line comment place parts

namespace LineTokens

variable {line : Text} {own : List Token}

theorem join_eq (tokens : LineTokens line own) : Token.join own = line := by
  cases tokens with
  | unmarked _ _ joined => exact joined
  | @marked place parts front _ written _ _ joined =>
    rw [Token.join_append, Token.join_append, joined, (lexes_lexFrom .markup parts.tail).join_eq,
      CommentParts.join_tokens, ← CommentParts.written_eq_head, ← written, List.take_append_drop]

end LineTokens

namespace Token

variable {line : Text} {before own after : List Token}

theorem keywordsOn_eq_nil {tokens : List (Nat × Token)} {start : Nat}
    (apart : ∀ entry ∈ tokens, entry.1 < start ∨ start + line.length ≤ entry.1) :
    keywordsOn tokens start line = [] := by
  refine List.filter_eq_nil_iff.2 fun entry member => ?_
  have outside := apart entry member
  simp only [Bool.and_eq_true, decide_eq_true_eq, not_and]
  omega

/-- The keywords that begin on a line are those among its own tokens. -/
theorem keywordsOn_append (after : List Token) (filledBefore : ∀ token ∈ before, token.text ≠ [])
    (joined : join own = line) (filled : ∀ token ∈ own, token.text ≠ []) :
    keywordsOn (place 0 (before ++ (own ++ after))) (width before) line =
      (place (width before) own).filter fun (_, token) => token.kind == .keyword := by
  have length : width own = line.length := by rw [width, joined]
  have inFront : keywordsOn (place 0 before) (width before) line = [] := by
    refine keywordsOn_eq_nil ?_
    rintro ⟨place, token⟩ member
    left
    obtain ⟨front, behind, cut, rfl⟩ := mem_place_iff.1 member
    have some := List.length_pos_iff.2 (filledBefore token (cut ▸ by simp))
    simp [cut, width]
    omega
  have behind : keywordsOn (place (width before + width own) after) (width before) line = [] := by
    refine keywordsOn_eq_nil ?_
    rintro ⟨place, token⟩ member
    right
    obtain ⟨front, behind, cut, rfl⟩ := mem_place_iff.1 member
    simp only
    omega
  have inside : keywordsOn (place (width before) own) (width before) line =
      (place (width before) own).filter fun (_, token) => token.kind == .keyword := by
    refine List.filter_congr ?_
    rintro ⟨place, token⟩ member
    obtain ⟨front, behind, cut, rfl⟩ := mem_place_iff.1 member
    have some := List.length_pos_iff.2 (filled token (cut ▸ by simp))
    have within : width before ≤ width before + width front ∧
        width before + width front < width before + line.length := by
      rw [← length]
      simp [cut, width]
      omega
    simp only [decide_eq_true within, Bool.and_true]
  rw [keywordsOn, place_append, place_append, List.filter_append, List.filter_append, Nat.zero_add,
    ← keywordsOn, ← keywordsOn, ← keywordsOn, inFront, inside, behind, List.nil_append,
    List.append_nil]

/-- At the last place of a line, the token of a colon stands only if it is the last of the line's
own tokens. -/
theorem getLast?_of_mem_place (joined : join own = line) (some : line ≠ [])
    (member : (width before + (line.length - 1), ⟨.punctuation, [':']⟩) ∈
      place 0 (before ++ (own ++ after))) : line.getLast? = Option.some ':' := by
  obtain ⟨front, behind, cut, start⟩ := mem_place_iff.1 member
  have positive := List.length_pos_iff.2 some
  have whole := congrArg join cut
  simp only [join_append, join_cons, joined] at whole
  have here := congrArg (·[(join before).length + (line.length - 1)]?) whole
  rw [width, width, Nat.zero_add] at start
  rw [List.getElem?_append_right (Nat.le_add_right _ _), Nat.add_sub_cancel_left,
    List.getElem?_append_left (by omega), start, List.getElem?_append_right le_rfl,
    Nat.sub_self] at here
  rw [List.getLast?_eq_getElem?, here]
  rfl

theorem mem_place_of_eq_append (front : List Token) {token : Token} (joined : join own = line)
    (ends : own = front ++ [token]) (single : token.text.length = 1) :
    (width before + (line.length - 1), token) ∈ place 0 (before ++ (own ++ after)) := by
  refine mem_place_iff.2 ⟨before ++ front, after, by simp [ends], ?_⟩
  rw [← joined, ends]
  simp [width, single]

/-- Of the tokens with which a comment begins, the last one is a keyword. -/
theorem filter_place_tokens {parts : CommentParts} (start : Nat) :
    (place start parts.tokens).filter (fun (_, token) => token.kind == .keyword) =
      [(start + parts.introducer.written.length + parts.gap.length,
        ⟨.keyword, parts.tag.written⟩)] := by
  rw [CommentParts.tokens, ← filter_place, List.filter_filter]
  simp [place, Tag.written]

theorem filter_place_eq_nil {start : Nat} {tokens : List Token}
    (others : ∀ token ∈ tokens, token.kind ≠ .keyword) :
    (place start tokens).filter (fun (_, token) => token.kind == .keyword) = [] := by
  rw [List.filter_eq_nil_iff]
  rintro ⟨place, token⟩ member
  obtain ⟨front, behind, rfl, -⟩ := mem_place_iff.1 member
  simpa using others token (by simp)

end Token

/-! ## What a line shows -/

namespace CommentParts

variable {parts : CommentParts}

theorem getLast?_written (front : Text) :
    (front ++ parts.written).getLast? = parts.body.getLast? := by
  have some : parts.body ≠ [] := by simp [body, Tag.written]
  rw [written, ← List.append_assoc, List.getLast?_append_of_ne_nil _ some]

/-- A body that ends in a colon has it behind its tag. -/
theorem getLast?_tail (ends : parts.body.getLast? = some ':') : parts.tail.getLast? = some ':' := by
  rw [body] at ends
  by_cases bare : parts.tail = []
  · rw [bare] at ends
    cases tag : parts.tag <;> rw [tag] at ends <;> exact absurd ends (by decide)
  · rwa [List.getLast?_append_of_ne_nil _ bare] at ends

end CommentParts

namespace LineTokens

variable {line : Text} {own before : List Token}

section Marked

variable {place : Nat} {parts : CommentParts} {front : List Token}

theorem width_front (written : line.drop place = parts.written)
    (joined : Token.join front = line.take place) : Token.width front = place := by
  have inside : place ≤ line.length :=
    (MarkupComment.lt_length_of_drop_eq_head (written.trans parts.written_eq_head)).le
  rw [Token.width, joined, List.length_take_of_le inside]

/-- The tag of a line's comment is the keyword among its tokens. -/
theorem filter_place_marked (oneLine : '\n' ∉ parts.tail)
    (code : ∀ token ∈ front, token.kind = .text) (start : Nat) :
    (Token.place start (front ++ (parts.tokens ++ Token.lexFrom .markup parts.tail))).filter
        (fun (_, token) => token.kind == .keyword) =
      [(start + Token.width front + parts.introducer.written.length + parts.gap.length,
        ⟨.keyword, parts.tag.written⟩)] := by
  have behind (token : Token) (member : token ∈ Token.lexFrom .markup parts.tail) :
      token.kind ≠ .keyword :=
    (lexes_lexFrom .markup parts.tail).kind_ne_keyword rfl oneLine member
  rw [Token.place_append, Token.place_append, List.filter_append, List.filter_append,
    Token.filter_place_eq_nil fun token member => by rw [code token member]; simp,
    Token.filter_place_tokens, Token.filter_place_eq_nil behind]
  rfl

/-- The colon at the end of a line is a token if the line's comment ends in it. -/
theorem mem_place_colon_iff (after : List Token) (oneLine : '\n' ∉ parts.tail)
    (written : line.drop place = parts.written)
    (joined : Token.join (front ++ (parts.tokens ++ Token.lexFrom .markup parts.tail)) = line) :
    (Token.width before + (line.length - 1), ⟨.punctuation, [':']⟩) ∈
        Token.place 0
          (before ++ (front ++ (parts.tokens ++ Token.lexFrom .markup parts.tail) ++ after)) ↔
      parts.body.getLast? = some ':' := by
  have last : line.getLast? = parts.body.getLast? := by
    rw [← parts.getLast?_written (line.take place), ← written, List.take_append_drop]
  have some : line ≠ [] := by
    rintro rfl
    simp [parts.written_eq_head, parts.head_ne_nil] at written
  rw [← last]
  refine ⟨Token.getLast?_of_mem_place joined some, fun ends => ?_⟩
  obtain ⟨markup, colon⟩ := (lexes_lexFrom .markup parts.tail).exists_colon rfl oneLine
    (CommentParts.getLast?_tail (last ▸ ends))
  refine Token.mem_place_of_eq_append (front ++ (parts.tokens ++ markup)) joined ?_ rfl
  rw [colon]
  simp

end Marked

/-- Among other tokens, those of a line show what its scan finds. -/
theorem showsLine (tokens : LineTokens line own) (oneLine : '\n' ∉ line) (after : List Token)
    (filledBefore : ∀ token ∈ before, token.text ≠ []) (filled : ∀ token ∈ own, token.text ≠ []) :
    ShowsLine (Token.place 0 (before ++ (own ++ after))) (Token.width before) line := by
  have joined := tokens.join_eq
  have keywords := Token.keywordsOn_append after filledBefore joined filled
  cases tokens with
  | unmarked unmarked code _ =>
    rw [Token.filter_place_eq_nil fun token member => by rw [code token member]; simp] at keywords
    refine ⟨?_, fun comment scanned => ?_⟩
    · rw [keywords, unmarked]
      simp
    · rw [unmarked] at scanned
      contradiction
  | @marked place parts front wellFormed written leftmost code joinedFront =>
    have scanned := MarkupComment.scan_of_written oneLine wellFormed written leftmost
    have oneLineTail : '\n' ∉ parts.tail :=
      fun member => oneLine ((CommentParts.tail_suffix written).subset member)
    have width := width_front written joinedFront
    rw [filter_place_marked oneLineTail code, width] at keywords
    refine ⟨?_, fun comment found => ⟨place, parts, ?_⟩⟩
    · rw [keywords, scanned]
      simp
    · rw [scanned, Option.some.injEq] at found
      subst found
      refine ⟨wellFormed, written, leftmost, rfl, Tag.ofBody?_written _ _, ?_, keywords, ?_⟩
      · refine ⟨Token.place 0 (before ++ front),
          Token.place (Token.width before + place + Token.width parts.tokens)
            (Token.lexFrom .markup parts.tail ++ after), ?_⟩
        simp only [Token.place_append, List.append_assoc, width, Nat.zero_add, Nat.add_assoc]
      · rw [MarkupComment.continues, beq_iff_eq]
        exact mem_place_colon_iff after oneLineTail written joined

end LineTokens

/-! ## Texts of several lines -/

namespace Token

/-- Where a line begins that has some lines in front of it. -/
def offset (above : List Text) : Nat := (above.map fun line => line.length + 1).sum

/-- Behind the lines in front of it, a line is cut as if it were alone. -/
theorem lex_joinLines {above below : List Text} {line : Text}
    (lines : ∀ one ∈ above ++ line :: below, '\n' ∉ one ∧ Text.trimRight one = one)
    (contained : ∀ front one behind, above ++ line :: below = front ++ one :: behind →
      front.length ≤ above.length → behind ≠ [] → ¬ReachesOver one (Text.joinLines behind)) :
    ∃ before after, lex (Text.joinLines (above ++ line :: below)) = before ++ (lex line ++ after) ∧
      width before = offset above := by
  induction above with
  | nil =>
    obtain ⟨oneLine, trimmed⟩ := lines line (by simp)
    rw [List.nil_append] at contained ⊢
    by_cases last : below = []
    · subst last
      exact ⟨[], [], by simp [Text.joinLines], rfl⟩
    · refine ⟨[], ⟨.text, ['\n']⟩ :: lex (Text.joinLines below), ?_, rfl⟩
      rw [Text.joinLines_cons line last]
      exact lex_append_lineEnd oneLine trimmed (contained [] line below rfl le_rfl last)
  | cons first above ih =>
    have some : above ++ line :: below ≠ [] := by simp
    obtain ⟨oneLine, trimmed⟩ := lines first (by simp)
    obtain ⟨before, after, lexed, begins⟩ := ih
      (fun one member => lines one (List.mem_cons_of_mem first member))
      fun front one behind cut earlier => contained (first :: front) one behind
        (congrArg (first :: ·) cut) (Nat.succ_le_succ earlier)
    have stays : ¬ReachesOver first (Text.joinLines (above ++ line :: below)) :=
      contained [] first _ rfl (Nat.zero_le _) some
    -- The first line is cut by itself, and moves the places of all others behind it.
    refine ⟨lex first ++ ⟨.text, ['\n']⟩ :: before, after, ?_, ?_⟩
    · rw [List.cons_append, Text.joinLines_cons first some,
        lex_append_lineEnd oneLine trimmed stays, lexed]
      simp
    · have joined : join (lex first) = first := (lexes_lexFrom .code first).join_eq
      rw [offset, List.map_cons, List.sum_cons, ← offset, ← begins]
      simp [width, joined]
      omega

/-- The preview shows on each line what the scan of the line finds, if nothing reaches over the ends
of the lines up to it: a keyword exactly if there is a comment, and then only its tag, with the
introducer in front of it where the comment begins, and a colon at the end exactly if the comment is
carried on. -/
theorem lex_showsLine {above below : List Text} {line : Text}
    (lines : ∀ one ∈ above ++ line :: below, '\n' ∉ one ∧ Text.trimRight one = one)
    (contained : ∀ front one behind, above ++ line :: below = front ++ one :: behind →
      front.length ≤ above.length → behind ≠ [] → ¬ReachesOver one (Text.joinLines behind)) :
    ShowsLine (place 0 (lex (Text.joinLines (above ++ line :: below)))) (offset above) line := by
  obtain ⟨before, after, lexed, begins⟩ := lex_joinLines lines contained
  obtain ⟨oneLine, trimmed⟩ := lines line (by simp)
  have filled : ∀ token ∈ lex (Text.joinLines (above ++ line :: below)), token.text ≠ [] :=
    fun token => (lexes_lexFrom .code _).text_ne_nil
  rw [lexed] at filled ⊢
  rw [← begins]
  exact (lineTokens_lex oneLine trimmed).showsLine oneLine after
    (fun token member => filled token (by simp [member]))
    fun token member => filled token (by simp [member])

/-- Below a line that is carried on, with a value in quotes and an apostrophe in its code, and above
a line with a tag that is none. -/
theorem lex_showsLine_between :
    let first := "it's // @link target='a b':".toList
    let line := "rem\t@start region=r:".toList
    let last := "  foo(x); // @endless".toList
    (∀ one ∈ [first] ++ line :: [last], '\n' ∉ one ∧ Text.trimRight one = one) ∧
      ¬ReachesOver first (Text.joinLines [line, last]) ∧ ¬ReachesOver line last ∧
      ShowsLine (place 0 (lex (Text.joinLines [first, line, last]))) 28 line := by
  intro first line last
  have lines : ∀ one ∈ [first] ++ line :: [last], '\n' ∉ one ∧ Text.trimRight one = one := by decide
  have firstEnds : ¬ReachesOver first (Text.joinLines [line, last]) :=
    not_reachesOver (by decide) (by decide) (by decide)
  have lineEnds : ¬ReachesOver line last := not_reachesOver (by decide) (by decide) (by decide)
  refine ⟨lines, firstEnds, lineEnds,
    lex_showsLine lines fun front one behind cut earlier some => ?_⟩
  rcases front with _ | ⟨_, _ | ⟨_, front⟩⟩
  · cases cut
    exact firstEnds
  · cases cut
    exact lineEnds
  · simp at earlier

/-- Each of the four ways to reach over the end of a line puts a keyword on the next line that is
none, or hides one there. -/
theorem lex_not_showsLine :
    let misshown (first second : Text) : Prop :=
      ('\n' ∉ first ∧ Text.trimRight first = first) ∧
        ('\n' ∉ second ∧ Text.trimRight second = second) ∧
        ¬ShowsLine (place 0 (lex (Text.joinLines [first, second]))) (first.length + 1) second
    misshown "//".toList "@end".toList ∧
      misshown "x # @link target".toList "= # @end".toList ∧
      misshown "x # @link target=".toList "# @end".toList ∧
      misshown "x # @link target='a".toList "b' # @end".toList := by
  intro misshown
  have of_keywordsOn {first second : Text}
      (trimmed : ('\n' ∉ first ∧ Text.trimRight first = first) ∧
        '\n' ∉ second ∧ Text.trimRight second = second)
      (differ : ¬(keywordsOn (place 0 (lex (Text.joinLines [first, second]))) (first.length + 1)
        second ≠ [] ↔ MarkupComment.scan second ≠ none)) : misshown first second :=
    ⟨trimmed.1, trimmed.2, fun shows => differ shows.keyword_iff⟩
  refine ⟨of_keywordsOn (by decide) ?_, of_keywordsOn (by decide) ?_, of_keywordsOn (by decide) ?_,
    of_keywordsOn (by decide) ?_⟩
  all_goals decide +kernel

end Token

end SnippetMarkup
