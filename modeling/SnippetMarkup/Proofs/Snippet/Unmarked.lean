import Mathlib
import SnippetMarkup.Proofs.Html.Unescape
import SnippetMarkup.Proofs.Snippet.Run

/-!
# Lines without markup

Lines without markup are put out one by one, each after the operations of the open regions, and
nothing else comes of them.  Where no region is open they are shown as they are: escaped, and
without the white space at their ends and the indentation that they share.
-/

namespace SnippetMarkup

namespace Progress

/-! ## Putting out several lines -/

def emitAll (progress : Progress) (shown : List Text) : Progress :=
  { progress with output := progress.output ++ shown }

section EmitAll

variable (progress : Progress) (shown : List Text)

@[simp] theorem emitAll_phase : (progress.emitAll shown).phase = progress.phase := rfl
@[simp] theorem emitAll_stack : (progress.emitAll shown).stack = progress.stack := rfl
@[simp] theorem emitAll_output :
    (progress.emitAll shown).output = progress.output ++ shown := rfl
@[simp] theorem emitAll_carried : (progress.emitAll shown).carried = progress.carried := rfl
@[simp] theorem emitAll_store : (progress.emitAll shown).store = progress.store := rfl
@[simp] theorem emitAll_journal : (progress.emitAll shown).journal = progress.journal := rfl

theorem emitAll_nil : progress.emitAll [] = progress := by
  simp [emitAll]

theorem emit_emitAll (line : Text) :
    (progress.emit line).emitAll shown = progress.emitAll (line :: shown) := by
  simp [emitAll, emit]

end EmitAll

/-- Lines without markup leave the open regions as they are, so that all of them are rendered
alike. -/
theorem takeLines_plain {context : SnippetContext} {closing : Bool} {lines : List Text}
    {progress : Progress} (image : Text → Text) (collecting : progress.phase ≠ .awaiting)
    (calm : progress.carried = none)
    (unmarked : ∀ line ∈ lines, MarkupComment.scan line = none)
    (rendered : ∀ line ∈ lines, progress.render line = .ok (image line)) :
    takeLines context closing lines progress = (progress.emitAll (lines.map image), .next) := by
  induction lines generalizing progress with
  | nil => rw [takeLines_nil, List.map_nil, emitAll_nil]
  | cons line rest ih =>
    rw [List.forall_mem_cons] at unmarked rendered
    have later : takeLines context closing rest (progress.emit (image line)) =
        ((progress.emit (image line)).emitAll (rest.map image), .next) :=
      ih collecting calm unmarked.2 rendered.2
    rw [takeLines_cons, step_plain calm collecting unmarked.1 rendered.1, continueWith_next, later,
      emit_emitAll, List.map_cons]

/-- A snippet without markup is shown as it is, in as many lines as it has, and nothing is reported,
opened or stored. -/
theorem parse_unmarked {context : MarkupContext} {store : ReferenceStore} {lines : List Text}
    (unmarked : ∀ line ∈ lines, MarkupComment.scan line = none) :
    let parsed := (initial none store).parse ⟨context, none⟩ lines
    parsed.2 = none ∧
      Html.unescape parsed.1.text =
        Text.trimIndent (Text.joinLines (lines.map Text.trimRight)) ∧
      parsed.1.output.length = lines.length ∧ parsed.1.journal.warnings = [] ∧
      parsed.1.journal.errors = [] ∧ parsed.1.stack.regions = [] ∧ parsed.1.store = store := by
  have rendered (line : Text) :
      (initial none store).render line = .ok (Text.trimRight (Html.escape line)) := rfl
  have run : takeLines ⟨context, none⟩ true lines (initial none store) =
      ((initial none store).emitAll (lines.map fun line => Text.trimRight (Html.escape line)),
        .next) :=
    takeLines_plain _ (by simp [initial]) rfl unmarked fun line _ => rendered line
  intro parsed
  have ended : parsed = (((initial none store).emitAll
      (lines.map fun line => Text.trimRight (Html.escape line))).concluded ⟨context, none⟩
        lines.length, none) := by
    simp only [parsed]
    rw [parse_initial, run, outcome_of_failure?_none _ _ _ rfl]
  have output : parsed.1.output = (lines.map Text.trimRight).map Html.escape := by
    rw [ended, List.map_map]
    exact List.map_congr_left fun line _ => Html.trimRight_escape line
  refine ⟨by rw [ended], ?text, by simp [output], by rw [ended]; rfl, by rw [ended]; rfl,
    by rw [ended]; rfl, by rw [ended]; rfl⟩
  case text =>
    rw [text, output, ← Html.escape_joinLines, Html.trimIndent_escape, Html.unescape_escape]

/-- One of the lines holds a line feed, and others hold entities and a tag that is none. -/
theorem parse_unmarked_entities :
    let lines := ["\u3000  if a < b && c:".toList, "\t".toList, "   \"&lt;\" \n\t& d  ".toList,
      "    e // @highlighted".toList]
    (∀ line ∈ lines, MarkupComment.scan line = none) ∧
      let parsed := (initial none {}).parse {} lines
      parsed.1.text = ("  if a &lt; b &amp;&amp; c:\n\n  &quot;&amp;lt;&quot; \n&amp; d\n" ++
        "   e // @highlighted").toList ∧
      parsed.2 = none ∧
      Html.unescape parsed.1.text =
        Text.trimIndent (Text.joinLines (lines.map Text.trimRight)) ∧
      parsed.1.output.length = 4 ∧ parsed.1.journal.warnings = [] ∧
      parsed.1.journal.errors = [] ∧ parsed.1.stack.regions = [] ∧ parsed.1.store = {} := by
  intro lines
  have unmarked : ∀ line ∈ lines, MarkupComment.scan line = none := by decide +kernel
  refine ⟨unmarked, by decide +kernel, ?_⟩
  exact parse_unmarked unmarked

end Progress

end SnippetMarkup
