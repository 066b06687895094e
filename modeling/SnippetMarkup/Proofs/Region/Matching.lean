import Mathlib
import SnippetMarkup.Proofs.Region.History

/-!
# Closings and what they close

By its history, a closing belongs to the latest region that it asks for and that is still open.  No
two closings belong to the same region.  A stack closes just the region that the closing belongs to,
and at every moment it holds the regions to which no closing belongs.
-/

namespace SnippetMarkup.RegionHistory

open RegionStack (fits)

variable {history : RegionHistory} {closed : Nat → Prop} {late early other : Nat} {region : Region}
  {name : Option Text}

/-! ## One to one -/

theorem IsLatest.not_lt (latest : history.IsLatest closed late early)
    (latestToo : history.IsLatest closed late other) : ¬early < other := by
  intro less
  obtain ⟨-, name, -, closing, -, -, -, between⟩ := latest
  obtain ⟨inside, asked, region, closingToo, opening, asks, unclosed, -⟩ := latestToo
  obtain rfl : name = asked := by simpa [closing] using closingToo
  -- What is opened in between and asked for has been closed before.
  exact unclosed (between other region less inside opening asks)

theorem early_eq_of_isFor (isFor : history.IsFor late early) (isForToo : history.IsFor late other) :
    early = other := by
  have latest := isFor_iff.1 isFor
  have latestToo := isFor_iff.1 isForToo
  have notLess := latest.not_lt latestToo
  have notGreater := latestToo.not_lt latest
  omega

theorem not_lt_of_isFor (isFor : history.IsFor late early) (isForToo : history.IsFor other early) :
    ¬late < other := by
  intro less
  obtain ⟨-, -, -, -, -, -, unclosed, -⟩ := isFor_iff.1 isForToo
  exact unclosed ⟨late, less, isFor⟩

theorem late_eq_of_isFor (isFor : history.IsFor late early) (isForToo : history.IsFor other early) :
    late = other := by
  have notLess := not_lt_of_isFor isFor isForToo
  have notGreater := not_lt_of_isFor isForToo isFor
  omega

/-- A closing with a name is for a region of this name. -/
theorem name_eq_of_isFor {wanted : Text} (isFor : history.IsFor late early)
    (closing : history[late]? = some (.closing (some wanted)))
    (opened : history.openedAt? early = some region) : region.name = some wanted := by
  obtain ⟨-, name, other, closingToo, opening, asks, -⟩ := isFor_iff.1 isFor
  obtain rfl : some wanted = name := by simpa [closing] using closingToo
  obtain rfl : other = region := by simpa [openedAt?, opening] using opened
  simpa [fits] using asks

/-! ## Closing -/

/-- What is closed on a stack is the region that the closing is for. -/
theorem exists_close?_iff (history : RegionHistory) (name : Option Text) (region : Region) :
    (∃ later, history.replay.close? name = some (region, later)) ↔
      ∃ place, IsFor (history ++ [.closing name]) history.length place ∧
        history.openedAt? place = some region := by
  obtain ⟨entries, tracks, stacked⟩ := exists_tracks history
  have found_iff : history.replay.latestFirst.find? (fits name) = some region ↔
      ∃ place, entries.find? (fun entry => fits name entry.2) = some (place, region) := by
    rw [stacked, List.find?_map, Option.map_eq_some_iff]
    constructor
    · rintro ⟨⟨place, other⟩, found, rfl⟩
      exact ⟨place, found⟩
    · rintro ⟨place, found⟩
      exact ⟨(place, region), found, rfl⟩
  have openedAt_of_find? {place : Nat} {other : Region}
      (found : entries.find? (fun entry => fits name entry.2) = some (place, other)) :
      history.openedAt? place = some other := by
    have opening := ((tracks.mem_iff place other).1 (List.mem_of_find?_eq_some found)).1
    simp [openedAt?, opening]
  constructor
  · rintro ⟨later, closes⟩
    obtain ⟨place, found⟩ := found_iff.1 (RegionStack.close?_eq_some_iff.1 closes).1
    exact ⟨place, (tracks.isFor_iff name).2 ⟨region, found⟩, openedAt_of_find? found⟩
  · rintro ⟨place, isFor, opened⟩
    obtain ⟨other, found⟩ := (tracks.isFor_iff name).1 isFor
    obtain rfl : other = region := by
      rw [openedAt_of_find? found] at opened
      exact Option.some.inj opened
    exact ⟨⟨history.replay.latestFirst.eraseP (fits name)⟩,
      RegionStack.close?_eq_some_iff.2 ⟨found_iff.2 ⟨place, found⟩, rfl⟩⟩

theorem openedAt?_append {place : Nat} (inside : place < history.length) (more : RegionHistory) :
    openedAt? (history ++ more) place = history.openedAt? place := by
  rw [openedAt?, openedAt?, List.getElem?_append_left inside]

theorem exists_close?_append_iff (before after : RegionHistory) (name : Option Text)
    (region : Region) :
    (∃ later, before.replay.close? name = some (region, later)) ↔
      ∃ place, IsFor (before ++ .closing name :: after) before.length place ∧
        openedAt? (before ++ .closing name :: after) place = some region := by
  have inside : before.length < (before ++ [RegionEvent.closing name]).length := by simp
  have cut : before ++ .closing name :: after = (before ++ [.closing name]) ++ after := by simp
  rw [exists_close?_iff, cut]
  refine exists_congr fun place => ?_
  rw [isFor_append inside]
  refine and_congr_right fun isFor => ?_
  -- What a closing is for has been opened before it.
  have earlier : place < before.length := (isFor_iff.1 isFor).1
  rw [List.append_assoc, openedAt?_append earlier]

/-- A closing that is for no region closes none and leaves the stack as it is. -/
theorem replay_of_forall_not_isFor {before after : RegionHistory}
    (unmatched : ∀ place, ¬IsFor (before ++ .closing name :: after) before.length place) :
    before.replay.close? name = none ∧ replay (before ++ [.closing name]) = before.replay := by
  have nothing : before.replay.close? name = none := by
    rw [Option.eq_none_iff_forall_ne_some]
    rintro ⟨region, later⟩ closes
    obtain ⟨place, isFor, -⟩ := (exists_close?_append_iff before after name region).1 ⟨later, closes⟩
    exact unmatched place isFor
  refine ⟨nothing, ?_⟩
  rw [replay_append]
  show before.replay.happen (.closing name) = before.replay
  rw [RegionStack.happen, nothing]

/-! ## Histories -/

/-- Closing regions is matching closings with what has been opened, the latest first.  Each closing
closes the region that it is for by the history, and none, leaving all as it is, if it is for none.
No closing is for two regions, no region is closed twice, and a closing with a name is never for a
region without one.  What is open at the end of a history, and so at every moment, are the regions
that no closing is for, with their names and operations, in the order in which they were opened. -/
theorem replay_matching (history : RegionHistory) :
    (∀ (before after : RegionHistory) (name : Option Text),
      history = before ++ .closing name :: after →
      (∀ region, (∃ later, before.replay.close? name = some (region, later)) ↔
        ∃ place, history.IsFor before.length place ∧ history.openedAt? place = some region) ∧
      ((∀ place, ¬history.IsFor before.length place) →
        before.replay.close? name = none ∧
          replay (before ++ [.closing name]) = before.replay)) ∧
      (∀ late early other, history.IsFor late early → history.IsFor late other →
        early = other) ∧
      (∀ late other early, history.IsFor late early → history.IsFor other early →
        late = other) ∧
      (∀ late early wanted region, history.IsFor late early →
        history[late]? = some (.closing (some wanted)) →
        history.openedAt? early = some region → region.name = some wanted) ∧
      ∃ places : List Nat, places.Pairwise (· < ·) ∧
        (∀ place, place ∈ places ↔ history.Unclosed place) ∧
        history.replay.regions = places.filterMap history.openedAt? ∧
        history.replay.names = (places.filterMap history.openedAt?).map
          (fun region => region.name.getD "anonymous".toList) ∧
        history.replay.operations =
          (places.filterMap history.openedAt?).filterMap (·.operation) := by
  refine ⟨?closings, ?once, ?alone, ?named, ?unclosed⟩
  case closings =>
    rintro before after name rfl
    exact ⟨exists_close?_append_iff before after name, replay_of_forall_not_isFor⟩
  case once => exact fun late early other isFor isForToo => early_eq_of_isFor isFor isForToo
  case alone => exact fun late other early isFor isForToo => late_eq_of_isFor isFor isForToo
  case named =>
    exact fun late early wanted region isFor closing opened => name_eq_of_isFor isFor closing opened
  case unclosed =>
    obtain ⟨places, sorted, unclosed, opened⟩ := exists_places history
    refine ⟨places, sorted, unclosed, opened, ?_, ?_⟩
    · rw [RegionStack.names, opened]
    · rw [RegionStack.operations, opened]

/-- A region is closed by its name below one without a name, which stays open. -/
theorem replay_matching_crossed :
    (∃ later, (replay [.opening ⟨some ['r'], none⟩, .opening ⟨none, none⟩]).close?
        (some ['r']) = some (⟨some ['r'], none⟩, later)) ∧
      (∃ place, IsFor [.opening ⟨some ['r'], none⟩, .opening ⟨none, none⟩,
          .closing (some ['r'])] 2 place ∧
        openedAt? [.opening ⟨some ['r'], none⟩, .opening ⟨none, none⟩,
          .closing (some ['r'])] place = some ⟨some ['r'], none⟩) ∧
      (replay [.opening ⟨some ['r'], none⟩, .opening ⟨none, none⟩,
        .closing (some ['r'])]).regions = [⟨none, none⟩] := by
  have closes : ∃ later, (replay [.opening ⟨some ['r'], none⟩, .opening ⟨none, none⟩]).close?
      (some ['r']) = some (⟨some ['r'], none⟩, later) := ⟨⟨[⟨none, none⟩]⟩, rfl⟩
  obtain ⟨closings, -⟩ := replay_matching [.opening ⟨some ['r'], none⟩, .opening ⟨none, none⟩,
    .closing (some ['r'])]
  obtain ⟨closes_iff, -⟩ := closings [.opening ⟨some ['r'], none⟩, .opening ⟨none, none⟩] []
    (some ['r']) rfl
  exact ⟨closes, (closes_iff _).1 closes, rfl⟩

end SnippetMarkup.RegionHistory
