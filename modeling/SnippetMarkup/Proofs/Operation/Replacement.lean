import Mathlib
import SnippetMarkup.Proofs.Operation.Failure
import SnippetMarkup.Proofs.Regex.Matches

/-!
# Replacing matches

In a replacement, a dollar sign with all the digits behind it stands for the text of a group, and
every other character for itself.  The texts of groups are put in as they are.  A replacement for an
expression takes the place of every match in a line, and nothing else of the line is touched.
-/

namespace SnippetMarkup

open Unicode (isDigit digitValue?)

/-! ## Numbers in digits -/

namespace Unicode

/-- Digits denote a number by their values, the most significant one first. -/
def Denotes (digits : Text) (n : Nat) : Prop :=
  ∃ values : List Nat, digits.map digitValue? = values.map some ∧ n = Nat.ofDigits 10 values.reverse

theorem numeral_eq_ofDigits {digits : Text} {values : List Nat}
    (given : digits.map digitValue? = values.map some) :
    numeral digits = Nat.ofDigits 10 values.reverse := by
  have same : digits.map (fun c => (digitValue? c).getD 0) = values := by
    simpa [Function.comp_def] using congrArg (List.map (·.getD 0)) given
  rw [← same, Nat.ofDigits_eq_foldr, List.foldr_reverse, List.foldl_map, numeral]
  simp only [Nat.cast_id, Nat.add_comm]

theorem Denotes.numeral_eq {digits : Text} {n : Nat} (number : Denotes digits n) :
    numeral digits = n := by
  obtain ⟨values, given, rfl⟩ := number
  exact numeral_eq_ofDigits given

theorem denotes_numeral {digits : Text} (proper : ∀ c ∈ digits, isDigit c = true) :
    Denotes digits (numeral digits) := by
  have given : digits.map digitValue? = (digits.map fun c => (digitValue? c).getD 0).map some := by
    rw [List.map_map]
    refine List.map_congr_left fun c member => ?_
    obtain ⟨value, known⟩ := Option.isSome_iff_exists.1 (proper c member)
    simp [known]
  exact ⟨_, given, numeral_eq_ofDigits given⟩

end Unicode

open Unicode (Denotes)

/-! ## Parts of a replacement -/

namespace ReplacementPart

/-- How a replacement is read from left to right.  A dollar sign and all the digits behind it, of
which there is at least one, are a reference; every other character is literal. -/
inductive Reads : Text → List ReplacementPart → Prop
  | nothing : Reads [] []
  | reference {digits rest : Text} {parts : List ReplacementPart} (some : digits ≠ [])
    (proper : ∀ c ∈ digits, isDigit c = true) (maximal : ∀ c ∈ rest.head?, isDigit c = false)
    (others : Reads rest parts) : Reads ('$' :: (digits ++ rest)) (.group digits :: parts)
  | literal {c : Char} {rest : Text} {parts : List ReplacementPart}
    (plain : c = '$' → ∀ d ∈ rest.head?, isDigit d = false)
    (others : Reads rest parts) : Reads (c :: rest) (.literal c :: parts)

theorem readAll_reference {digits rest : Text} (some : digits ≠ [])
    (proper : ∀ c ∈ digits, isDigit c = true) (maximal : ∀ c ∈ rest.head?, isDigit c = false) :
    readAll ('$' :: (digits ++ rest)) = .group digits :: readAll rest := by
  obtain ⟨taken, left⟩ := Text.takeWhile_append_of_head proper maximal
  rw [readAll, taken, left, if_neg (by simpa using some)]

theorem readAll_literal {c : Char} {rest : Text}
    (plain : c = '$' → ∀ d ∈ rest.head?, isDigit d = false) :
    readAll (c :: rest) = .literal c :: readAll rest := by
  by_cases dollar : c = '$'
  · subst dollar
    have none : rest.takeWhile isDigit = [] :=
      (Text.takeWhile_append_of_stop (plain rfl) []).1
    rw [readAll, none, if_pos List.isEmpty_nil]
  · rw [readAll]
    exact fun same => absurd same dollar

theorem reads_readAll (text : Text) : Reads text (readAll text) := by
  fun_induction readAll text with
  | case1 => exact .nothing
  | case2 rest none ih =>
    refine .literal (fun _ c head => ?_) ih
    obtain ⟨others, rfl⟩ := List.head?_eq_some_iff.1 head
    by_contra digit
    simp [digit] at none
  | case3 rest some ih =>
    have reads := Reads.reference (List.isEmpty_eq_false_iff.1 (Bool.not_eq_true _ ▸ some))
      (fun _ => List.mem_takeWhile_imp) (fun c head => ?_) ih
    · rwa [List.takeWhile_append_dropWhile] at reads
    · have stops := List.head?_dropWhile_not isDigit rest
      rwa [Option.mem_def.1 head] at stops
  | case4 c rest plain ih => exact .literal (fun same => absurd same plain) ih

theorem reads_iff {text : Text} {parts : List ReplacementPart} :
    Reads text parts ↔ parts = readAll text := by
  constructor
  · intro reads
    induction reads with
    | nothing => rw [readAll]
    | reference some proper maximal _ ih => rw [readAll_reference some proper maximal, ih]
    | literal plain _ ih => rw [readAll_literal plain, ih]
  · rintro rfl
    exact reads_readAll text

/-- Every reference stands in the text that is read. -/
theorem Reads.of_mem_group {text digits : Text} {parts : List ReplacementPart}
    (reads : Reads text parts) (member : .group digits ∈ parts) :
    '$' :: digits <:+: text ∧ ∀ c ∈ digits, isDigit c = true := by
  induction reads with
  | nothing => simp at member
  | @reference own rest parts some proper maximal others ih =>
    rcases List.mem_cons.1 member with same | member
    · cases same
      exact ⟨(List.prefix_append ('$' :: digits) rest).isInfix, proper⟩
    · obtain ⟨inside, proper⟩ := ih member
      exact ⟨inside.trans (List.suffix_append ('$' :: own) rest).isInfix, proper⟩
  | @literal c rest parts plain others ih =>
    rcases List.mem_cons.1 member with same | member
    · cases same
    · obtain ⟨inside, proper⟩ := ih member
      exact ⟨inside.trans (List.suffix_cons c rest).isInfix, proper⟩

/-- What a part stands for in the place of a match of an expression with so many groups. -/
inductive StandsFor (groups : Nat) (found : Regex.Match) : ReplacementPart → Text → Prop
  | literal (c : Char) : StandsFor groups found (.literal c) [c]
  | whole {digits : Text} (number : Denotes digits 0) :
    StandsFor groups found (.group digits) found.whole
  /-- The group has a text, and nothing in it is read as a reference again. -/
  | group {digits text : Text} {index : Nat} (number : Denotes digits index)
    (positive : 0 < index) (known : index ≤ groups)
    (tookPart : found.groups.lookup index = some text) :
    StandsFor groups found (.group digits) text
  /-- There is no such group. -/
  | unknown {digits : Text} {index : Nat} (number : Denotes digits index)
    (beyond : groups < index) : StandsFor groups found (.group digits) []
  /-- The group took no part in the match. -/
  | idle {digits : Text} {index : Nat} (number : Denotes digits index) (positive : 0 < index)
    (apart : found.groups.lookup index = none) : StandsFor groups found (.group digits) []

/-- The text that is put in for a part. -/
def inserted (groups : Nat) (found : Regex.Match) : ReplacementPart → Text
  | literal c => [c]
  | group digits =>
    let index := Unicode.numeral digits
    if groups < index then [] else (found.group? index).getD []

variable {groups : Nat} {found : Regex.Match}

theorem inserted_group {digits : Text} {index : Nat} (number : Denotes digits index) :
    (group digits).inserted groups found =
      if groups < index then [] else (found.group? index).getD [] := by
  rw [inserted, number.numeral_eq]

theorem StandsFor.eq_inserted {part : ReplacementPart} {text : Text}
    (stands : part.StandsFor groups found text) : text = part.inserted groups found := by
  cases stands with
  | literal c => rfl
  | whole number => simp [inserted_group number, Regex.Match.group?]
  | group number positive known tookPart =>
    simp [inserted_group number, Regex.Match.group?, known, positive.ne', tookPart]
  | unknown number beyond => rw [inserted_group number, if_pos beyond]
  | idle number positive apart =>
    simp [inserted_group number, Regex.Match.group?, positive.ne', apart]

theorem standsFor_inserted {part : ReplacementPart}
    (proper : ∀ digits, part = .group digits → ∀ c ∈ digits, isDigit c = true) :
    part.StandsFor groups found (part.inserted groups found) := by
  cases part with
  | literal c => exact .literal c
  | group digits =>
    obtain ⟨index, number⟩ : ∃ index, Denotes digits index :=
      ⟨_, Unicode.denotes_numeral (proper digits rfl)⟩
    rw [inserted_group number]
    by_cases beyond : groups < index
    · rw [if_pos beyond]
      exact .unknown number beyond
    · rw [if_neg beyond, Regex.Match.group?]
      rcases Nat.eq_zero_or_pos index with rfl | positive
      · exact .whole number
      · rw [if_neg positive.ne']
        cases captured : found.groups.lookup index with
        | none => exact .idle number positive captured
        | some text => exact .group number positive (not_lt.1 beyond) captured

theorem standsFor_iff {part : ReplacementPart}
    (proper : ∀ digits, part = .group digits → ∀ c ∈ digits, isDigit c = true) {text : Text} :
    part.StandsFor groups found text ↔ text = part.inserted groups found :=
  ⟨StandsFor.eq_inserted, fun same => same ▸ standsFor_inserted proper⟩

theorem expand_eq {part : ReplacementPart}
    (short : ∀ digits, part = .group digits → digits.length ≤ Text.digitLimit) :
    part.expand groups found = .ok (part.inserted groups found) := by
  cases part with
  | literal c => rfl
  | group digits => rw [expand, if_neg (not_lt.2 (short digits rfl)), inserted]

end ReplacementPart

/-! ## Replacements -/

/-- Work that succeeds on each of some items succeeds on all of them in turn. -/
theorem mapM_of_forall_ok {ε α β : Type} {work : α → Except ε β} {result : α → β} {items : List α}
    (succeeds : ∀ item ∈ items, work item = .ok (result item)) :
    items.mapM work = .ok (items.map result) := by
  induction items with
  | nil => rfl
  | cons item rest ih =>
    rw [List.forall_mem_cons] at succeeds
    rw [List.mapM_cons, succeeds.1, ih succeeds.2]
    rfl

theorem forall₂_iff_eq_map {α β : Type} {relation : α → β → Prop} {result : α → β} {items : List α}
    (each : ∀ item ∈ items, ∀ value, relation item value ↔ value = result item)
    {values : List β} : List.Forall₂ relation items values ↔ values = items.map result := by
  induction items generalizing values with
  | nil => simp
  | cons item rest ih =>
    rw [List.forall_mem_cons] at each
    cases values with
    | nil => simp
    | cons value values => simp [List.forall₂_cons, each.1, ih each.2]

/-- No dollar sign of a replacement has too many digits behind it. -/
def ShortReferences (replacement : Text) : Prop :=
  ∀ digits, '$' :: digits <:+: replacement → (∀ c ∈ digits, isDigit c = true) →
    digits.length ≤ Text.digitLimit

section Replacements

variable {replacement : Text}

theorem expandReplacement_eq (short : ShortReferences replacement) (groups : Nat)
    (found : Regex.Match) :
    expandReplacement replacement groups found =
      .ok ((ReplacementPart.readAll replacement).flatMap (·.inserted groups found)) := by
  have expands : ∀ part ∈ ReplacementPart.readAll replacement,
      part.expand groups found = .ok (part.inserted groups found) := by
    intro part member
    refine ReplacementPart.expand_eq ?_
    rintro digits rfl
    obtain ⟨inside, proper⟩ := (ReplacementPart.reads_readAll replacement).of_mem_group member
    exact short digits inside proper
  rw [expandReplacement, mapM_of_forall_ok expands, List.flatMap]
  rfl

theorem replaceMatches_eq (short : ShortReferences replacement) (regex : Regex) (line : Text) :
    regex.replaceMatches replacement line =
      .ok (regex.substitute (fun found =>
        (ReplacementPart.readAll replacement).flatMap (·.inserted regex.groups found)) line) := by
  have replaced : ∀ piece ∈ regex.pieces line, replacePiece replacement regex.groups piece =
      .ok (piece.replacedBy fun found =>
        (ReplacementPart.readAll replacement).flatMap (·.inserted regex.groups found)) := by
    intro piece _
    cases piece with
    | plain outside => rfl
    | hit found => exact expandReplacement_eq short regex.groups found
  rw [Regex.replaceMatches, mapM_of_forall_ok replaced, Regex.substitute_eq, List.flatMap]
  rfl

end Replacements

/-! ## Replaced matches -/

namespace Operation

/-- A replacement is read in one way only, and what its parts stand for is put, as it is, in the
place of every match of an expression in a line; the text around the matches stays. -/
theorem apply_replace_expands {replacement : Text} (short : ShortReferences replacement) :
    ∃ (parts : List ReplacementPart) (image : Nat → Regex.Match → Text),
      (∀ others, ReplacementPart.Reads replacement others ↔ others = parts) ∧
      (∀ groups found, expandReplacement replacement groups found = .ok (image groups found) ∧
        ∃ texts, image groups found = texts.flatten ∧
          ∀ others, List.Forall₂ (ReplacementPart.StandsFor groups found) parts others ↔
            others = texts) ∧
      ∀ (regex : Regex) (line : Text), ∃ hits last,
        (∀ others rest, regex.Finds line others rest ↔ others = hits ∧ rest = last) ∧
        line = hits.flatMap (fun (outside, found) => outside ++ found.whole) ++ last ∧
        (Operation.replace { regex := some regex } replacement).apply line =
          .ok (hits.flatMap (fun (outside, found) => outside ++ image regex.groups found) ++
            last) := by
  let parts := ReplacementPart.readAll replacement
  have proper : ∀ part ∈ parts, ∀ digits, part = .group digits →
      ∀ c ∈ digits, isDigit c = true := by
    rintro _ member digits rfl
    exact ((ReplacementPart.reads_readAll replacement).of_mem_group member).2
  refine ⟨parts, fun groups found => parts.flatMap (·.inserted groups found),
    fun others => ReplacementPart.reads_iff, fun groups found => ?_, fun regex line => ?_⟩
  · refine ⟨expandReplacement_eq short groups found, parts.map (·.inserted groups found), rfl, ?_⟩
    exact fun _ => forall₂_iff_eq_map fun part member _ =>
      ReplacementPart.standsFor_iff (proper part member)
  · obtain ⟨hits, last, finds, substituted⟩ := regex.exists_finds line
    refine ⟨hits, last, finds, ?_, ?_⟩
    · rw [← substituted, regex.substitute_whole]
    · rw [apply, applyReplace_eq]
      exact (replaceMatches_eq short regex line).trans (congrArg Except.ok (substituted _))

/-- The text of the first group looks like a reference, the second group and a third one have no
text for the first match, and a number may be written in digits of another script. -/
theorem apply_replace_expands_verbatim :
    let regex : Regex := ⟨"(..)=|(;)".toList,
      .alt (.seq (.group 1 (.seq (.any false) (.any false))) (.char 61 .exact))
        (.group 2 (.char 59 .exact)), 2⟩
    let replacement := "<$1,$٢,$3,\\1,$$0,$x>".toList
    let line := "a $1=;".toList
    ShortReferences replacement ∧
      ∃ (image : Nat → Regex.Match → Text) (hits : List (Text × Regex.Match)) (last : Text),
        (∀ groups found, expandReplacement replacement groups found = .ok (image groups found)) ∧
        regex.Finds line hits last ∧
        hits.flatMap (fun (outside, found) => outside ++ found.whole) ++ last = line ∧
        hits.flatMap (fun (outside, found) => outside ++ image 2 found) ++ last =
          "a <$1,,,\\1,$$1=,$x><,;,,\\1,$;,$x>".toList := by
  intro regex replacement line
  have few : replacement.length ≤ Text.digitLimit := by decide
  have short : ShortReferences replacement := by
    intro digits inside _
    have bound : digits.length + 1 ≤ replacement.length := inside.length_le
    omega
  obtain ⟨_, image, -, expands, replaces⟩ := apply_replace_expands short
  obtain ⟨hits, last, finds, cut, applied⟩ := replaces regex line
  have pieces : regex.pieces line = [.plain ['a', ' '], .hit ⟨['$', '1', '='], [(1, ['$', '1'])]⟩,
      .plain [], .hit ⟨[';'], [(2, [';'])]⟩, .plain []] := by
    simp only [regex, line]
    cbv
  refine ⟨short, image, hits, last, fun groups found => (expands groups found).1,
    (finds hits last).2 ⟨rfl, rfl⟩, cut.symm, Except.ok.inj (applied.symm.trans ?_)⟩
  rw [apply, applyReplace_eq]
  change regex.replaceMatches replacement line = _
  rw [Regex.replaceMatches, pieces]
  decide +kernel

end Operation

end SnippetMarkup
