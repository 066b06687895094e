import Mathlib
import SnippetMarkup.Proofs.Snippet.Hybrid

/-!
# Snippets converted one after the other

All that a conversion leaves to the next one is the store, and that only grows.  So a snippet that
is converted again comes to the same element and the same problems, and stores nothing new; and in
the end the store holds the references of all the links that were built for lines that are shown.
-/

namespace SnippetMarkup.Converter

open Progress

variable {converter : Converter} {snippet : Snippet} {store later grown : ReferenceStore}
  {html text : Text}

/-! ## Links of a snippet -/

/-- The lines that a snippet is shown as: its own, or else those that it refers to. -/
def source? (converter : Converter) (snippet : Snippet) : Option SnippetSource :=
  match snippet.body, (converter.resolve snippet).result with
  | some body, _ => some { lines := body }
  | none, .ok found => found
  | none, .error _ => none

/-- The references of the links that are built for the lines that a snippet is shown as. -/
def links (converter : Converter) (snippet : Snippet) (store : ReferenceStore) : List Text :=
  match converter.source? snippet with
  | some source => (allVisits (converter.context source) store source.lines).filterMap
      (·.linked? (converter.context source))
  | none => []

/-- A conversion works through the lines that the snippet is shown as, and stores what that
stores. -/
theorem parseSource_of_convert
    (completes : (converter.convert snippet store).result = .ok (html, later)) :
    match converter.source? snippet with
    | some source => ∃ text, (converter.parseSource source store).result = .ok (text, later)
    | none => later = store := by
  obtain ⟨found, text, resolved, parsed, -⟩ := convert_result_eq_ok_iff.1 completes
  unfold source?
  cases inside : snippet.body with
  | some body =>
    -- With lines of its own the snippet is shown as these, whatever has been found.
    rw [parseFound_inside inside] at parsed
    cases found with
    | none => exact ⟨text, parsed⟩
    | some external => exact ⟨text, (exists_of_parseBoth parsed).1⟩
  | none =>
    rw [resolved]
    unfold parseFound at parsed
    rw [inside] at parsed
    cases found with
    | none => exact (Prod.mk.inj (Except.ok.inj parsed)).2.symm
    | some external => exact ⟨text, parsed⟩

theorem taken_of_convert {source : SnippetSource}
    (completes : (converter.convert snippet store).result = .ok (html, later))
    (shown : converter.source? snippet = some source) :
    (converter.taken source store).2.failure? = none ∧
      (converter.taken source store).1.store = later := by
  have parsed := parseSource_of_convert completes
  rw [shown] at parsed
  obtain ⟨text, parsed⟩ := parsed
  rw [parseSource_result, result_eq_ok_iff, Prod.mk.injEq] at parsed
  exact ⟨parsed.1, parsed.2.2⟩

/-- A conversion stores the references of the links that are built in it, and nothing else. -/
theorem store_convert (completes : (converter.convert snippet store).result = .ok (html, later)) :
    later = store.putAll (converter.links snippet store) := by
  unfold links
  cases shown : converter.source? snippet with
  | none =>
    have kept := parseSource_of_convert completes
    rw [shown] at kept
    exact kept
  | some source =>
    rw [← (taken_of_convert completes shown).2]
    exact store_takeLines (converter.context source) true source.lines (initial source.region store)

/-! ## A conversion made again -/

theorem parseFound_again {found : Option SnippetSource}
    (first : (converter.parseFound snippet found store).result = .ok (text, later))
    (known : later.Extends grown) :
    (converter.parseFound snippet found grown).result = .ok (text, grown) ∧
      (converter.parseFound snippet found grown).journal.problems =
        (converter.parseFound snippet found store).journal.problems := by
  cases inside : snippet.body with
  | some body =>
    rw [parseFound_inside inside] at first
    rw [parseFound_inside inside, parseFound_inside inside]
    cases found with
    | none => exact parseSource_again first known
    | some external =>
      -- The other lines always meet an empty store, so their text is the same the second time.
      obtain ⟨shown, compared, other⟩ := exists_of_parseBoth first
      obtain ⟨again, problems⟩ := parseSource_again shown known
      obtain ⟨result, reported⟩ := parseBoth_of_ok again other
      refine ⟨result, ?_⟩
      rw [reported, (parseBoth_of_ok shown other).2, problems]
  | none =>
    unfold parseFound at first ⊢
    rw [inside] at first ⊢
    cases found with
    | none =>
      obtain ⟨rfl, -⟩ := Prod.mk.inj (Except.ok.inj first)
      exact ⟨rfl, rfl⟩
    | some external => exact parseSource_again first known

/-- Against a store that has grown since, a snippet comes to the same element and problems, and
stores nothing. -/
theorem convert_again
    (first : (converter.convert snippet store).result = .ok (html, later))
    (known : later.Extends grown) :
    (converter.convert snippet grown).result = .ok (html, grown) ∧
      (converter.convert snippet grown).journal.problems =
        (converter.convert snippet store).journal.problems := by
  obtain ⟨found, text, resolved, parsed, made⟩ := convert_result_eq_ok_iff.1 first
  obtain ⟨result, problems⟩ := parseFound_again parsed known
  constructor
  · exact convert_result_eq_ok_iff.2 ⟨found, text, resolved, result, made⟩
  · rw [problems_convert resolved, problems_convert resolved, problems]

/-! ## Series -/

/-- Conversions of some snippets in turn, each against the store that the one before has left. -/
inductive Converts (converter : Converter) :
    ReferenceStore → List Snippet → List Conversion → Prop
  | nil (store : ReferenceStore) : Converts converter store [] []
  | cons {store : ReferenceStore} {snippet : Snippet} {rest : List Snippet}
    {conversion : Conversion} {conversions : List Conversion}
    (made : converter.convert snippet store =
      ⟨conversion.journal, .ok (conversion.html, conversion.store)⟩)
    (goesOn : Converts converter conversion.store rest conversions) :
    Converts converter store (snippet :: rest) (conversion :: conversions)

theorem converts_of_convertAll {snippets : List Snippet} {conversions : List Conversion}
    (completes : (converter.convertAll snippets store).result = .ok conversions) :
    Converts converter store snippets conversions := by
  induction snippets generalizing store conversions with
  | nil =>
    obtain rfl := Except.ok.inj completes
    exact .nil store
  | cons snippet rest ih =>
    rw [convertAll] at completes
    split at completes
    · cases completes
    · next journal html after made =>
      cases others : (converter.convertAll rest after).result with
      | error failure => simp [others, Except.map] at completes
      | ok conversions =>
        simp only [others, Except.map, Except.ok.injEq] at completes
        rw [← completes]
        exact .cons made (ih others)

/-- The store after the first so many of some conversions. -/
def storeAfter (store : ReferenceStore) : List Conversion → Nat → ReferenceStore
  | conversion :: conversions, count + 1 => storeAfter conversion.store conversions count
  | _, _ => store

theorem storeAfter_zero (store : ReferenceStore) (conversions : List Conversion) :
    storeAfter store conversions 0 = store := by
  cases conversions <;> rfl

namespace Converts

variable {snippets : List Snippet} {conversions : List Conversion}

theorem exists_conversion (converts : Converts converter store snippets conversions) {index : Nat}
    (given : snippets[index]? = some snippet) :
    ∃ conversion, conversions[index]? = some conversion ∧
      storeAfter store conversions (index + 1) = conversion.store ∧
      converter.convert snippet (storeAfter store conversions index) =
        ⟨conversion.journal, .ok (conversion.html, conversion.store)⟩ := by
  induction converts generalizing index with
  | nil store => simp at given
  | @cons store first rest conversion conversions made goesOn ih =>
    cases index with
    | zero =>
      obtain rfl : first = snippet := by simpa using given
      exact ⟨conversion, rfl, storeAfter_zero conversion.store conversions, made⟩
    | succ index => exact ih (by simpa using given)

theorem exists_putAll (converts : Converts converter store snippets conversions)
    {early late : Nat} (inOrder : early ≤ late) :
    ∃ references, storeAfter store conversions late =
      (storeAfter store conversions early).putAll references := by
  induction converts generalizing early late with
  | nil store => exact ⟨[], by cases early <;> cases late <;> rfl⟩
  | @cons store snippet rest conversion conversions made goesOn ih =>
    cases late with
    | zero =>
      obtain rfl : early = 0 := by omega
      exact ⟨[], rfl⟩
    | succ late =>
      cases early with
      | zero =>
        have stored := store_convert (congrArg Reported.result made)
        obtain ⟨references, grows⟩ := ih (Nat.zero_le late)
        rw [storeAfter_zero] at grows
        refine ⟨converter.links snippet store ++ references, ?_⟩
        calc storeAfter conversion.store conversions late
            = conversion.store.putAll references := grows
          _ = store.putAll (converter.links snippet store ++ references) := by
            rw [ReferenceStore.putAll_append, ← stored]
      | succ early => exact ih (by omega)

end Converts

/-- A snippet that has been converted before comes to the same element, the same warnings and the
same errors, and nothing is stored for it. -/
theorem convertAll_repeated {snippets : List Snippet} {conversions : List Conversion}
    (completes : (converter.convertAll snippets store).result = .ok conversions)
    {early late : Nat} (inOrder : early < late) (first : snippets[early]? = some snippet)
    (second : snippets[late]? = some snippet) :
    ∃ one other, conversions[early]? = some one ∧ conversions[late]? = some other ∧
      other.html = one.html ∧ other.journal.warnings = one.journal.warnings ∧
      other.journal.errors = one.journal.errors ∧
      other.store = storeAfter store conversions late := by
  have converts := converts_of_convertAll completes
  -- All that the first conversion has stored is still there when the second one begins.
  obtain ⟨one, oneAt, oneStore, made⟩ := converts.exists_conversion first
  obtain ⟨other, otherAt, -, madeAgain⟩ := converts.exists_conversion second
  obtain ⟨references, grows⟩ := converts.exists_putAll inOrder
  have known : one.store.Extends (storeAfter store conversions late) := by
    rw [grows, oneStore]
    exact ReferenceStore.extends_putAll one.store references
  obtain ⟨result, problems⟩ := convert_again (congrArg Reported.result made) known
  rw [made, madeAgain] at problems
  rw [madeAgain, Except.ok.injEq, Prod.mk.injEq] at result
  refine ⟨one, other, oneAt, otherAt, result.1, ?_, ?_, result.2⟩
  · rw [← Journal.warnings_problems, problems, Journal.warnings_problems]
  · rw [← Journal.errors_problems, problems, Journal.errors_problems]

/-- The snippet with two bodies is converted again after it was reported that they differ. -/
theorem convertAll_repeated_bar :
    let foo : Snippet := { body := some ["Foo f; // @link substring=Foo target=Foo".toList] }
    let snippets := [foo, barSnippet, foo, barSnippet]
    ∃ conversions, (barConverter.convertAll snippets {}).result = .ok conversions ∧
      ∃ one other, conversions[1]? = some one ∧ conversions[3]? = some other ∧
        other.html = one.html ∧ other.journal.warnings = one.journal.warnings ∧
        other.journal.errors = one.journal.errors ∧ other.store = storeAfter {} conversions 3 := by
  intro foo snippets
  have completes : (barConverter.convertAll snippets {}).result.isOk = true := by decide +kernel
  cases series : (barConverter.convertAll snippets {}).result with
  | error failure => simp [series, Except.isOk, Except.toBool] at completes
  | ok conversions =>
    exact ⟨conversions, rfl, convertAll_repeated series (by decide) rfl rfl⟩

/-! ## References of a series -/

end SnippetMarkup.Converter
