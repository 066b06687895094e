import Mathlib
import SnippetMarkup.Proofs.Markup.Attributes
import SnippetMarkup.Proofs.Markup.Scan
import SnippetMarkup.Proofs.Snippet.Balance
import SnippetMarkup.Proofs.Snippet.Extraction

/-!
# Comments for the next line

A comment that ends in a colon acts on the next line as if it had been written there, except for a
tag with nothing but one white-space character between it and the colon: without the colon, the
white space is followed by nothing, and what was carried over is shown as a part of the line.
-/

namespace SnippetMarkup

open Unicode (isSpace)

/-! ## Carried bodies -/

section Carried

variable {comment : MarkupComment} {line : Text}

theorem getLast?_written (tag : Tag) : tag.written.getLast? ≠ some ':' := by
  cases tag <;> decide

/-- The body of a comment for the next line is a tag, white space, and something before the colon,
if not nothing. -/
theorem exists_body_of_continues (scanned : MarkupComment.scan line = some comment)
    (continues : comment.continues = true) (oneLine : '\n' ∉ line) :
    ∃ tag c inner, comment.body = Tag.written tag ++ c :: (inner ++ [':']) ∧
      isSpace c = true ∧ '\n' ∉ comment.body := by
  obtain ⟨text, suffix, read⟩ := MarkupComment.exists_body?_of_scanFrom scanned
  have bodyOneLine : '\n' ∉ text := fun member => oneLine (suffix.subset member)
  obtain ⟨same, tag, rest, shape, ends⟩ := (MarkupComment.body?_eq_some_iff bodyOneLine).1 read
  rw [MarkupComment.continues, same, beq_iff_eq] at continues
  rcases ends with rfl | ⟨c, more, rfl, space, nonempty⟩
  · rw [shape, List.append_nil] at continues
    exact (getLast?_written tag continues).elim
  · obtain ⟨inner, last, rfl⟩ := (List.eq_nil_or_concat' more).resolve_left nonempty
    have whole : tag.written ++ c :: (inner ++ [last]) = (tag.written ++ c :: inner) ++ [last] := by
      simp
    have colon : last = ':' := by
      rw [shape, whole, List.getLast?_concat] at continues
      exact Option.some.inj continues
    refine ⟨tag, c, inner, by rw [same, shape, colon], space, same ▸ bodyOneLine⟩

end Carried

section Bodies

open MarkupComment (body? body?_eq_some_iff)

variable {tag : Tag} {c : Char} {inner : Text}

theorem body?_eq_self (space : isSpace c = true) (oneLine : '\n' ∉ tag.written ++ c :: inner)
    (more : inner ≠ []) :
    body? (tag.written ++ c :: inner) = some (tag.written ++ c :: inner) :=
  (body?_eq_some_iff oneLine).2 ⟨rfl, tag, c :: inner, rfl, .inr ⟨c, inner, rfl, space, more⟩⟩

/-- A single white-space character after a tag is no part of a markup body. -/
theorem body?_bare (oneLine : '\n' ∉ tag.written ++ [c]) : body? (tag.written ++ [c]) = none := by
  rw [Option.eq_none_iff_forall_ne_some]
  intro body read
  obtain ⟨-, other, rest, shape, ends⟩ := (body?_eq_some_iff oneLine).1 read
  have tags := congrArg Tag.read? shape
  simp only [Tag.read?_written, Option.some.injEq, Prod.mk.injEq] at tags
  rcases ends with rfl | ⟨d, more, rfl, -, nonempty⟩
  · simp at tags
  · simp only [List.cons.injEq] at tags
    exact nonempty tags.2.2.symm

theorem body?_trimRight (space : isSpace c = true) (oneLine : '\n' ∉ tag.written ++ c :: inner) :
    body? (Text.trimRight (tag.written ++ c :: inner)) =
      some (Text.trimRight (tag.written ++ c :: inner)) := by
  have shorter : Text.trimRight (tag.written ++ c :: inner) <+: tag.written ++ c :: inner :=
    List.rdropWhile_prefix ..
  refine (body?_eq_some_iff fun member => oneLine (shorter.subset member)).2 ⟨rfl, tag,
    Text.trimRight (c :: inner), Text.trimRight_append (Attributes.trimRight_written tag), ?_⟩
  have front : Text.trimRight (c :: inner) <+: c :: inner := List.rdropWhile_prefix ..
  cases trimmed : Text.trimRight (c :: inner) with
  | nil => exact .inl rfl
  | cons d more =>
    rw [trimmed, List.cons_prefix_cons] at front
    obtain ⟨rfl, -⟩ := front
    refine .inr ⟨d, more, rfl, space, ?_⟩
    rintro rfl
    have again := Text.trimRight_trimRight (d :: inner)
    have blank : Text.trimRight [d] = [] := by
      rw [Text.trimRight_eq_nil_iff]
      simp [Text.isBlank, space]
    rw [trimmed, blank] at again
    simp at again

theorem getLast?_trimRight {text : Text} (colon : text.getLast? = some ':') :
    (Text.trimRight text).getLast? = some ':' := by
  obtain ⟨front, rfl⟩ := List.getLast?_eq_some_iff.1 colon
  rw [Text.trimRight_eq_rdropWhile, List.rdropWhile_concat_neg _ _ _ (by decide),
    List.getLast?_concat]

/-- Between the tag of a comment and the colon at its end there is one white-space character. -/
def MarkupComment.IsBare (comment : MarkupComment) (tag : Tag) : Prop :=
  ∃ c, comment.body = tag.written ++ [c, ':']

theorem isBare_iff {comment : MarkupComment}
    (shape : comment.body = tag.written ++ c :: (inner ++ [':'])) (other : Tag) :
    comment.IsBare other ↔ other = tag ∧ inner = [] := by
  constructor
  · rintro ⟨d, bare⟩
    have tags := congrArg Tag.read? (shape.symm.trans bare)
    simp only [Tag.read?_written, Option.some.injEq, Prod.mk.injEq, List.cons.injEq] at tags
    obtain ⟨same, -, rest⟩ := tags
    have lengths := congrArg List.length rest
    simp only [List.length_append, List.length_cons, List.length_nil] at lengths
    exact ⟨same.symm, List.length_eq_zero_iff.1 (by omega)⟩
  · rintro ⟨rfl, rfl⟩
    exact ⟨c, shape⟩

end Bodies

namespace Progress

variable {context : MarkupContext} {progress : Progress}

/-- Two comments with the same code, the same tag and the same attributes act alike. -/
theorem collect_congr {line other : Text} {introducer : Introducer} {code body bodyToo : Text}
    {tag : Tag} (scanned : MarkupComment.scan line = some ⟨introducer, body, code⟩)
    (scannedToo : MarkupComment.scan other = some ⟨introducer, bodyToo, code⟩)
    (settled : body.getLast? ≠ some ':') (settledToo : bodyToo.getLast? ≠ some ':')
    (tagged : Tag.ofBody? body = some tag) (taggedToo : Tag.ofBody? bodyToo = some tag)
    (attributes : Attributes.parse tag body = Attributes.parse tag bodyToo)
    (context : SnippetContext) (isLast : Bool) :
    progress.collect context isLast line = progress.collect context isLast other := by
  rw [collect_acting progress scanned (by simpa [MarkupComment.continues] using settled) tagged,
    collect_acting progress scannedToo (by simpa [MarkupComment.continues] using settledToo)
      taggedToo]
  simp only [handleTag_eq, attributes]

/-! ## Tags without attributes -/

theorem parse_written (tag : Tag) : Attributes.parse tag tag.written = ([], []) := by
  have nothing : Attributes.text tag tag.written = [] := by
    have whole := Attributes.text_written tag []
    rwa [List.append_nil] at whole
  rw [Attributes.parse, nothing, Assignment.readAll_eq_nil rfl]
  rfl

theorem level_warn (collecting : progress.phase = .collecting) (problem : Problem) :
    Level 1 progress (progress.warn problem) := by
  refine ⟨collecting, collecting, rfl, rfl, ?_⟩
  rw [warn, balance_report]
  simp

theorem level_closing (collecting : progress.phase = .collecting) (name : Option Text) :
    Level 1 progress (progress.closing name) := by
  refine ⟨collecting, ?_, ?_, ?_, ?_⟩
  · rw [closing_phase, collecting]
  · rw [closing_carried]
  · rw [closing_store]
  · rw [balance_closing]
    omega

theorem handleTag_written (tag : Tag) (context : SnippetContext) (code : Text) :
    progress.handleTag context tag tag.written code = progress.act context [] code tag := by
  have nothing : progress.report (refusals tag []) = progress := report_nil progress
  rw [handleTag_eq, parse_written, nothing]

/-- Every tag but a highlight needs an attribute, or something to close: without, it leaves a
warning, or one region less. -/
theorem handleTag_bare {tag : Tag} (other : tag ≠ .highlight)
    (collecting : progress.phase = .collecting) (code : Text) :
    ∃ later, progress.handleTag ⟨context, none⟩ tag tag.written code = (later, .next) ∧
      Level 1 progress later := by
  rw [handleTag_written]
  cases tag with
  | start => exact ⟨_, rfl, level_warn collecting .startWithoutRegion⟩
  | finish =>
    refine ⟨_, rfl, ?_⟩
    rw [handleEnd_eq, if_neg (by simp)]
    exact (level_closing collecting none).emitVisible_right code
  | highlight => exact (other rfl).elim
  | replace => exact ⟨_, rfl, (level_warn collecting .missingReplacement).emitVisible_right code⟩
  | link => exact ⟨_, rfl, (level_warn collecting .missingTarget).emitVisible_right code⟩

theorem emitVisible_wrapStyle (style : Style) (code : Text) :
    progress.emitVisible (Text.trimRight (Operation.wrapStyle style code)) =
      progress.emit (Operation.wrapStyle style code) := by
  have opened : '<' ∈ Operation.wrapStyle style code := List.mem_append_left _
    (List.mem_append_left _ List.mem_cons_self)
  have visible : Text.isBlank (Operation.wrapStyle style code) = false := by
    rw [Text.isBlank, List.all_eq_false]
    exact ⟨'<', opened, by decide⟩
  have trimmed : Text.trimRight (Operation.wrapStyle style code) =
      Operation.wrapStyle style code := by
    rw [Operation.wrapStyle, Style.closing, ← List.append_assoc]
    exact List.rdropWhile_concat_neg isSpace _ '>' (by decide)
  rw [trimmed, emitVisible, if_neg (by simp [visible])]

theorem handleTag_bareHighlight (context : SnippetContext) (code : Text) :
    progress.handleTag context .highlight (Tag.written .highlight) code =
      (progress.emit (Operation.wrapStyle .bold code), .next) := by
  have built : Operation.build context.toMarkupContext .highlight [] progress.store =
      .ok ⟨some (.highlight {} .bold), progress.store, []⟩ := rfl
  have same : (progress.report []).withStore progress.store = progress := by
    rw [report_nil]
    rfl
  rw [handleTag_written]
  show progress.handleOperation context .highlight [] code = _
  rw [handleOperation_eq, built]
  show ((progress.report []).withStore progress.store).perform [] code _ = _
  rw [same, ← emitVisible_wrapStyle]
  rfl

/-! ## Two lines -/

section Lines

variable {front after : List Text} {store : ReferenceStore}

theorem phase_reached
    (reached : takeLines ⟨context, none⟩ false front (initial none store) = (progress, .next)) :
    progress.phase = .collecting := by
  have whole := takeLines_phase_whole context false front (initial none store) rfl
  rwa [reached] at whole

variable {a b code : Text} {comment : MarkupComment} {context : SnippetContext}
  (collecting : progress.phase = .collecting) (calm : progress.carried = none)
  (rendered : progress.render comment.code = .ok code) (visible : Text.isBlank code = false)
include collecting calm rendered visible

theorem step_carrying (scanned : MarkupComment.scan a = some comment)
    (continues : comment.continues = true) :
    progress.step context false a =
      ((progress.emit code).carrying (some ⟨comment.introducer, comment.body.dropLast⟩),
        .next) := by
  rw [step_collecting_none calm (by simp [collecting]),
    collect_carrying progress scanned continues, rendered, ← emitVisible_of_visible _ visible]
  rfl

omit visible in
theorem step_unmarked (unmarked : '@' ∉ comment.code) (isLast : Bool) :
    progress.step context isLast comment.code = (progress.emit code, .next) := by
  have plain : MarkupComment.scan comment.code = none := MarkupComment.scanFrom_eq_none unmarked []
  exact step_plain calm (by simp [collecting]) plain rendered context isLast

theorem takeLines_carrying (scanned : MarkupComment.scan a = some comment)
    (continues : comment.continues = true) :
    progress.takeLines context true (a :: b :: after) =
      continueWith ((progress.emit code).collect context after.isEmpty
        (b ++ ' ' :: comment.introducer.written ++ ' ' :: comment.body.dropLast))
        (takeLines context true after) := by
  have calmToo : (progress.emit code).carried = none := calm
  have undone : ((progress.emit code).carrying
      (some ⟨comment.introducer, comment.body.dropLast⟩)).carrying none = progress.emit code :=
    carrying_none calmToo
  have active : ((progress.emit code).carrying
      (some ⟨comment.introducer, comment.body.dropLast⟩)).phase ≠ .awaiting := by
    show progress.phase ≠ .awaiting
    simp [collecting]
  rw [takeLines_cons, List.isEmpty_cons, Bool.and_false,
    step_carrying collecting calm rendered visible scanned continues, continueWith_next,
    takeLines_cons, step_collecting _ active, undone]
  rfl

omit visible in
theorem takeLines_unmarked (line : Text) (unmarked : '@' ∉ comment.code) :
    progress.takeLines context true (comment.code :: line :: after) =
      continueWith ((progress.emit code).collect context after.isEmpty line)
        (takeLines context true after) := by
  have calmToo : (progress.emit code).carried = none := calm
  have active : (progress.emit code).phase ≠ .awaiting := by
    show progress.phase ≠ .awaiting
    simp [collecting]
  rw [takeLines_cons, step_unmarked collecting calm rendered unmarked, continueWith_next,
    takeLines_cons, step_collecting_none calmToo active]
  rfl

end Lines

/-! ## The rest of a run -/

/-- Results that look the same from outside: the lines, the text, the warnings, the references and
the open regions. -/
structure SameOutcome (first second : Progress) : Prop where
  output : first.output = second.output
  text : first.text = second.text
  warnings : first.journal.warnings = second.journal.warnings
  store : first.store = second.store
  stack : first.stack = second.stack

theorem SameOutcome.refl : SameOutcome progress progress := ⟨rfl, rfl, rfl, rfl, rfl⟩

/-- Runs at different balances come to different regions or warnings. -/
theorem not_sameOutcome_of_together {gap : Int} (apart : gap ≠ 0)
    {first second : Progress × Flow} (together : Together gap first second)
    (completes : first.2.failure? = none) (completesToo : second.2.failure? = none)
    (context : MarkupContext) (count : Nat) :
    ¬SameOutcome (outcome ⟨context, none⟩ count first).1
      (outcome ⟨context, none⟩ count second).1 := by
  intro same
  rcases together with ⟨level, -⟩ | failed | failed
  · have regions := same.stack
    rw [outcome_stack, outcome_stack] at regions
    -- Without a region to extract, the end of a run only looks at the open regions.
    have closings : first.1.closingProblems ⟨context, none⟩ =
        second.1.closingProblems ⟨context, none⟩ := by
      simp [closingProblems, regions]
    have warnings := same.warnings
    rw [outcome_of_failure?_none _ _ _ completes, outcome_of_failure?_none _ _ _ completesToo,
      concluded_warnings, concluded_warnings, closings, List.append_cancel_right_eq] at warnings
    have balances := level.balance
    rw [balance, balance, regions, warnings] at balances
    omega
  · simp [completes] at failed
  · simp [completesToo] at failed

theorem exists_output_takeLines_emit (progress : Progress) (context : SnippetContext)
    (closing : Bool) (lines : List Text) :
    ∃ rest, ∀ line, ((progress.emit line).takeLines context closing lines).1.output =
      progress.output ++ line :: rest := by
  -- The run over the lines starts from the same state, with another line put out before it.
  let clear : Progress := { progress with output := [], journal := [] }
  refine ⟨(clear.takeLines context closing lines).1.output, fun line => ?_⟩
  have shown : progress.emit line =
      clear.preceded (progress.output ++ [line]) progress.journal := by
    simp [emit, preceded, clear]
  rw [shown, takeLines_preceded, preceded_output, List.append_assoc]
  rfl

theorem sameOutcome_emit_iff (context : SnippetContext) (count : Nat) (closing : Bool)
    (lines : List Text) (line other : Text) :
    SameOutcome (outcome context count ((progress.emit line).takeLines context closing lines)).1
        (outcome context count ((progress.emit other).takeLines context closing lines)).1 ↔
      line = other := by
  obtain ⟨rest, shown⟩ := exists_output_takeLines_emit progress context closing lines
  constructor
  · intro same
    have outputs := same.output
    rw [outcome_output, outcome_output, shown, shown, List.append_cancel_left_eq,
      List.cons.injEq] at outputs
    exact outputs.1
  · rintro rfl
    exact .refl

/-! ## Carried comments -/

section Moved

variable {line : Text} (unmarked : '@' ∉ line) (introducer : Introducer) {tag : Tag} {c : Char}
  (space : isSpace c = true)
include unmarked space

/-- With something after its tag, a comment acts as it does without the white space at its end. -/
theorem collect_trimmed {inner : Text} (oneLine : '\n' ∉ tag.written ++ c :: inner)
    (more : inner ≠ [])
    (once : (Text.trimRight (tag.written ++ c :: inner)).getLast? ≠ some ':')
    (context : SnippetContext) (isLast : Bool) :
    progress.collect context isLast
        (line ++ ' ' :: introducer.written ++ ' ' :: (tag.written ++ c :: inner)) =
      progress.collect context isLast
        (line ++ ' ' :: introducer.written ++ ' ' ::
          Text.trimRight (tag.written ++ c :: inner)) := by
  have settled : (tag.written ++ c :: inner).getLast? ≠ some ':' :=
    fun colon => once (getLast?_trimRight colon)
  have attributes := Attributes.parse_trimRight tag (c :: inner)
  have read := MarkupComment.scan_appended unmarked introducer (body?_eq_self space oneLine more)
  have readTrimmed := body?_trimRight space oneLine
  rw [Text.trimRight_append (Attributes.trimRight_written tag)] at once attributes readTrimmed ⊢
  exact collect_congr read (MarkupComment.scan_appended unmarked introducer readTrimmed) settled
    once (Tag.ofBody?_written tag _) (Tag.ofBody?_written tag _) attributes.symm context isLast

/-- With white space but nothing else after its tag, a comment is no comment. -/
theorem collect_untagged (oneLine : '\n' ∉ tag.written ++ [c]) (context : SnippetContext)
    (isLast : Bool) :
    progress.collect context isLast
        (line ++ ' ' :: introducer.written ++ ' ' :: (tag.written ++ [c])) =
      match progress.render
        (line ++ ' ' :: introducer.written ++ ' ' :: (tag.written ++ [c])) with
      | .error failure => (progress, .fail failure)
      | .ok shown => (progress.emit shown, .next) := by
  have other : '@' ≠ c := by
    rintro rfl
    exact absurd space (by decide)
  have unmarkedTag : '@' ∉ tag.keyword ++ [c] := by
    have keyword : '@' ∉ tag.keyword := by cases tag <;> decide
    simp [keyword, other]
  exact collect_plain progress
    (MarkupComment.scan_appended_eq_none unmarked introducer unmarkedTag (body?_bare oneLine))
    context isLast

omit space in
theorem collect_written (context : SnippetContext) (isLast : Bool) :
    progress.collect context isLast
        (line ++ ' ' :: introducer.written ++ ' ' :: tag.written) =
      match progress.render (Text.trimRight line) with
      | .error failure => (progress, .fail failure)
      | .ok code => settle (progress.handleTag context tag tag.written code) := by
  have oneLine : '\n' ∉ tag.written := by cases tag <;> decide
  have read : MarkupComment.body? tag.written = some tag.written :=
    (MarkupComment.body?_eq_some_iff oneLine).2 ⟨rfl, tag, [], by simp, .inl rfl⟩
  have tagged := Tag.ofBody?_written tag []
  rw [List.append_nil] at tagged
  exact collect_acting progress (MarkupComment.scan_appended unmarked introducer read)
    (by simpa [MarkupComment.continues] using getLast?_written tag) tagged context isLast

end Moved

/-- A bare tag that has been carried over shows its line with the tag, and a bare tag that stands
at the end of its line does not. -/
theorem sameOutcome_bare_iff {line : Text} (unmarked : '@' ∉ line) (introducer : Introducer)
    {tag : Tag} {c : Char} (space : isSpace c = true) (oneLine : '\n' ∉ tag.written ++ [c])
    (collecting : progress.phase = .collecting) (context : MarkupContext) (count : Nat)
    (isLast : Bool) (after : List Text) :
    let apart := outcome ⟨context, none⟩ count
      (continueWith (progress.collect ⟨context, none⟩ isLast
        (line ++ ' ' :: introducer.written ++ ' ' :: (tag.written ++ [c])))
        (takeLines ⟨context, none⟩ true after))
    let folded := outcome ⟨context, none⟩ count
      (continueWith (progress.collect ⟨context, none⟩ isLast
        (line ++ ' ' :: introducer.written ++ ' ' :: tag.written))
        (takeLines ⟨context, none⟩ true after))
    apart.2 = none → folded.2 = none →
      (SameOutcome apart.1 folded.1 ↔ tag = .highlight ∧
        progress.render (line ++ ' ' :: introducer.written ++ ' ' :: (tag.written ++ [c])) =
          (progress.render (Text.trimRight line)).map (Operation.wrapStyle .bold)) := by
  dsimp only
  rw [collect_untagged unmarked introducer space oneLine, collect_written unmarked introducer]
  cases progress.render (line ++ ' ' :: introducer.written ++ ' ' :: (tag.written ++ [c])) with
  | error failure => simp [Flow.failure?]
  | ok shown =>
    cases progress.render (Text.trimRight line) with
    | error failure => simp [Flow.failure?]
    | ok code =>
      dsimp only
      by_cases highlight : tag = .highlight
      · subst highlight
        have shownToo : (progress.emit (Operation.wrapStyle .bold code)).phase = .collecting :=
          collecting
        rw [handleTag_bareHighlight, settle_of_collecting shownToo, continueWith_next,
          continueWith_next, sameOutcome_emit_iff]
        simp [Except.map]
      · -- The line with the tag warns about nothing and closes nothing, the tag does.
        obtain ⟨later, handled, level⟩ := handleTag_bare highlight collecting code
        have together := (level.emit_left shown).takeLines context true after
        rw [handled, settle_of_collecting level.collectingToo, continueWith_next,
          continueWith_next, outcome_failure, outcome_failure]
        intro completes completesToo
        constructor
        · intro same
          exact (not_sameOutcome_of_together (by decide) together completes completesToo context
            count same).elim
        · rintro ⟨same, -⟩
          exact (highlight same).elim

/-- A comment for the next line acts as if it stood there, unless it is a bare tag.  A bare tag
does so only if it is a highlight and its text happens to be rendered as the line in bold. -/
theorem parse_continuation_iff {context : MarkupContext} {front after : List Text} {a b code : Text}
    {comment : MarkupComment} {store : ReferenceStore} {before : Progress}
    (reached : takeLines ⟨context, none⟩ false front (initial none store) = (before, .next))
    (calm : before.carried = none) (scanned : MarkupComment.scan a = some comment)
    (continues : comment.continues = true) (oneLine : '\n' ∉ a) (unmarked : '@' ∉ b)
    (unmarkedCode : '@' ∉ comment.code) (rendered : before.render comment.code = .ok code)
    (visible : Text.isBlank code = false)
    (once : (Text.trimRight comment.body.dropLast).getLast? ≠ some ':') :
    let apart := (initial none store).parse ⟨context, none⟩ (front ++ a :: b :: after)
    let folded := (initial none store).parse ⟨context, none⟩
      (front ++ comment.code ::
        (b ++ ' ' :: comment.introducer.written ++ ' ' :: Text.trimRight comment.body.dropLast) ::
        after)
    ((∀ tag, ¬comment.IsBare tag) → apart = folded) ∧
      (apart.2 = none → folded.2 = none →
        (SameOutcome apart.1 folded.1 ↔
          ∀ tag, comment.IsBare tag → tag = .highlight ∧
            before.render
              (b ++ ' ' :: comment.introducer.written ++ ' ' :: comment.body.dropLast) =
              (before.render (Text.trimRight b)).map (Operation.wrapStyle .bold))) := by
  have collecting := phase_reached reached
  obtain ⟨tag, c, inner, shape, space, bodyOneLine⟩ :=
    exists_body_of_continues scanned continues oneLine
  have dropped : comment.body.dropLast = tag.written ++ c :: inner := by
    rw [shape, ← List.cons_append, ← List.append_assoc, List.dropLast_concat]
  have droppedOneLine : '\n' ∉ tag.written ++ c :: inner := by
    rw [← dropped]
    exact fun member => bodyOneLine (List.mem_of_mem_dropLast member)
  intro apart folded
  simp only [apart, folded]
  rw [parse_reached (List.cons_ne_nil _ _) reached, parse_reached (List.cons_ne_nil _ _) reached,
    takeLines_carrying collecting calm rendered visible scanned continues,
    takeLines_unmarked collecting calm rendered _ unmarkedCode, List.length_cons,
    List.length_cons, List.length_cons, List.length_cons]
  rw [dropped] at once ⊢
  by_cases more : inner = []
  · subst more
    have trimmed : Text.trimRight (tag.written ++ [c]) = tag.written := by
      rw [Text.trimRight_append_of_isBlank (by simp [Text.isBlank, space]),
        Attributes.trimRight_written]
    have shown : (before.emit code).phase = .collecting := collecting
    rw [trimmed]
    refine ⟨fun noneBare => (noneBare tag ⟨c, shape⟩).elim, fun completes completesToo => ?_⟩
    refine (sameOutcome_bare_iff unmarked comment.introducer space droppedOneLine shown context
      _ after.isEmpty after completes completesToo).trans ?_
    constructor
    · intro both other bare
      obtain ⟨rfl, -⟩ := (isBare_iff shape other).1 bare
      exact both
    · exact fun every => every tag ⟨c, shape⟩
  · rw [collect_trimmed unmarked comment.introducer space droppedOneLine more once]
    refine ⟨fun _ => rfl, fun _ _ => ⟨fun _ other bare => ?_, fun _ => .refl⟩⟩
    exact (more ((isBare_iff shape other).1 bare).2).elim

/-- In an open region, a highlight with white space before its colon. -/
theorem parse_continuation_region :
    let front := ["x // @highlight region substring=b".toList]
    let after := ["y // @end".toList]
    let before := (takeLines ⟨{}, none⟩ false front (initial none {})).1
    let comment : MarkupComment := ⟨.slashes, "@highlight :".toList, ['a']⟩
    let apart := (initial none {}).parse ⟨{}, none⟩
      (front ++ "a // @highlight :".toList :: ['b'] :: after)
    let folded := (initial none {}).parse ⟨{}, none⟩
      (front ++ comment.code ::
        (['b'] ++ ' ' :: comment.introducer.written ++ ' ' ::
          Text.trimRight comment.body.dropLast) :: after)
    ((∀ tag, ¬comment.IsBare tag) → apart = folded) ∧
      (apart.2 = none → folded.2 = none →
        (SameOutcome apart.1 folded.1 ↔
          ∀ tag, comment.IsBare tag → tag = .highlight ∧
            before.render
              (['b'] ++ ' ' :: comment.introducer.written ++ ' ' :: comment.body.dropLast) =
              (before.render (Text.trimRight ['b'])).map (Operation.wrapStyle .bold))) := by
  intro front after before comment
  have reached : takeLines ⟨{}, none⟩ false front (initial none {}) = (before, .next) :=
    Prod.ext rfl (by decide +kernel)
  have scanned : MarkupComment.scan "a // @highlight :".toList = some comment := by decide +kernel
  have rendered : before.render comment.code = .ok ['a'] := by decide +kernel
  exact parse_continuation_iff reached (by decide +kernel) scanned (by decide +kernel)
    (by decide +kernel) (by decide +kernel) (by decide +kernel) rendered (by decide +kernel)
    (by decide +kernel)

/-- A highlight without attributes is shown as a part of the next line and does not act on it. -/
theorem parse_bareHighlight :
    let comment : MarkupComment := ⟨.slashes, "@highlight :".toList, ['a']⟩
    let apart := (initial none {}).parse ⟨{}, none⟩ ["a // @highlight :".toList, ['b']]
    let folded := (initial none {}).parse ⟨{}, none⟩
      [comment.code, ['b'] ++ ' ' :: comment.introducer.written ++ ' ' ::
        Text.trimRight comment.body.dropLast]
    MarkupComment.scan "a // @highlight :".toList = some comment ∧ comment.continues = true ∧
      (Text.trimRight comment.body.dropLast).getLast? ≠ some ':' ∧
      apart.2 = none ∧ apart.1.output = [['a'], "b // @highlight".toList] ∧
      folded.2 = none ∧ folded.1.output = [['a'], "<b>b</b>".toList] ∧
      ¬SameOutcome apart.1 folded.1 := by
  intro comment apart folded
  have shown : apart.1.output = [['a'], "b // @highlight".toList] := by decide +kernel
  have bold : folded.1.output = [['a'], "<b>b</b>".toList] := by decide +kernel
  have differ : apart.1.output ≠ folded.1.output := by
    rw [shown, bold]
    decide
  exact ⟨by decide +kernel, by decide +kernel, by decide +kernel, by decide +kernel, shown,
    by decide +kernel, bold, fun same => differ same.output⟩

end Progress

end SnippetMarkup
