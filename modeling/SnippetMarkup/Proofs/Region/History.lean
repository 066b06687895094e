import Mathlib
import SnippetMarkup.Proofs.Region.Stack

/-!
# The history of regions

Which region a closing is for can be told from what has happened before it: it is the one that was
opened last of all that the closing asks for and that have not been closed before.  What has been
opened and not been closed is what is on the stack, in the order in which it was opened.
-/

namespace SnippetMarkup

open RegionStack (fits)

inductive RegionEvent where
  | opening (region : Region)
  | closing (name : Option Text)

/-- What has happened to the regions of a snippet, the oldest first. -/
abbrev RegionHistory := List RegionEvent

namespace RegionHistory

/-! ## Closings and the regions that they are for -/

/-- Whether the closing at a place asks for the region that is opened at an earlier one, that region
has not been `closed`, and all of those that it asks for in between have been. -/
def IsLatest (history : RegionHistory) (closed : Nat → Prop) (late early : Nat) : Prop :=
  early < late ∧ ∃ name region, history[late]? = some (.closing name) ∧
    history[early]? = some (.opening region) ∧ fits name region = true ∧ ¬closed early ∧
    ∀ between other, early < between → between < late →
      history[between]? = some (.opening other) → fits name other = true → closed between

/-- Whether the closing at the one place is for the region that is opened at the other. -/
def IsFor (history : RegionHistory) (late early : Nat) : Prop :=
  history.IsLatest (fun place => ∃ before : Fin late, IsFor history before place) late early
termination_by late

/-- Whether a region is opened at a place and not closed by any closing. -/
def Unclosed (history : RegionHistory) (place : Nat) : Prop :=
  (∃ region, history[place]? = some (.opening region)) ∧ ∀ late, ¬history.IsFor late place

/-- The region that is opened at a place. -/
def openedAt? (history : RegionHistory) (place : Nat) : Option Region :=
  match history[place]? with
  | some (.opening region) => some region
  | _ => none

variable {history : RegionHistory} {event : RegionEvent} {late early place : Nat}

theorem isFor_iff :
    history.IsFor late early ↔
      history.IsLatest (fun place => ∃ before < late, history.IsFor before place) late early := by
  have closed : (fun place => ∃ before : Fin late, history.IsFor before place) =
      fun place => ∃ before < late, history.IsFor before place := by
    funext place
    exact propext ⟨fun ⟨before, isFor⟩ => ⟨before, before.isLt, isFor⟩,
      fun ⟨before, earlier, isFor⟩ => ⟨⟨before, earlier⟩, isFor⟩⟩
  rw [IsFor, closed]

theorem lt_length_of_isFor (isFor : history.IsFor late early) : late < history.length := by
  obtain ⟨-, name, region, closing, -⟩ := isFor_iff.1 isFor
  exact (List.getElem?_eq_some_iff.1 closing).1

/-- What happens later does not change what a closing is for. -/
theorem isFor_append (inside : late < history.length) (more : RegionHistory) :
    IsFor (history ++ more) late early ↔ history.IsFor late early := by
  induction late using Nat.strong_induction_on generalizing early with
  | _ late ih =>
    have closed : (fun place => ∃ before < late, IsFor (history ++ more) before place) =
        fun place => ∃ before < late, history.IsFor before place := by
      funext place
      exact propext (exists_congr fun before => and_congr_right fun earlier =>
        ih before earlier (earlier.trans inside))
    have same (place : Nat) (upTo : place ≤ late) : (history ++ more)[place]? = history[place]? :=
      List.getElem?_append_left (upTo.trans_lt inside)
    rw [isFor_iff, isFor_iff, closed, IsLatest, IsLatest]
    refine and_congr_right fun earlier => exists_congr fun name => exists_congr fun region => ?_
    rw [same late le_rfl, same early earlier.le]
    refine and_congr_right' (and_congr_right' (and_congr_right' (and_congr_right' ?_)))
    refine forall_congr' fun between => forall_congr' fun other => forall_congr' fun _ =>
      forall_congr' fun inBetween => ?_
    rw [same between inBetween.le]

theorem getElem?_append_event {other : RegionEvent} :
    (history ++ [event])[place]? = some other ↔
      history[place]? = some other ∨ place = history.length ∧ event = other := by
  rcases Nat.lt_trichotomy place history.length with inside | rfl | outside
  · rw [List.getElem?_append_left inside]
    simp [inside.ne]
  · simp
  · rw [List.getElem?_eq_none (by simp; omega), List.getElem?_eq_none outside.le]
    simp [outside.ne']

/-- What happens last can close what has not been closed before. -/
theorem isFor_length_iff :
    IsFor (history ++ [event]) history.length early ↔
      IsLatest (history ++ [event]) (fun place => ∃ before, history.IsFor before place)
        history.length early := by
  have closed : (fun place => ∃ before < history.length, IsFor (history ++ [event]) before place) =
      fun place => ∃ before, history.IsFor before place := by
    funext place
    refine propext ⟨?_, ?_⟩
    · rintro ⟨before, inside, isFor⟩
      exact ⟨before, (isFor_append inside [event]).1 isFor⟩
    · rintro ⟨before, isFor⟩
      have inside := lt_length_of_isFor isFor
      exact ⟨before, inside, (isFor_append inside [event]).2 isFor⟩
  rw [isFor_iff, closed]

theorem forall_not_isFor_append :
    (∀ late, ¬IsFor (history ++ [event]) late place) ↔
      (∀ late, ¬history.IsFor late place) ∧ ¬IsFor (history ++ [event]) history.length place := by
  constructor
  · intro never
    refine ⟨fun late isFor => never late ?_, never _⟩
    exact (isFor_append (lt_length_of_isFor isFor) [event]).2 isFor
  · rintro ⟨never, last⟩ late isFor
    have inside := lt_length_of_isFor isFor
    rw [List.length_append, List.length_singleton] at inside
    rcases Nat.lt_succ_iff_lt_or_eq.1 inside with earlier | rfl
    · exact never late ((isFor_append earlier [event]).1 isFor)
    · exact last isFor

/-! ## What is open -/

/-- Regions with the places where they are opened, the latest first: all those that are not closed
in a history. -/
structure Tracks (history : RegionHistory) (entries : List (Nat × Region)) : Prop where
  sorted : entries.Pairwise fun later earlier => earlier.1 < later.1
  mem_iff : ∀ place region, (place, region) ∈ entries ↔
    history[place]? = some (.opening region) ∧ ∀ late, ¬history.IsFor late place

section Tracks

variable {entries : List (Nat × Region)}

/-- The first entry of a kind is at the latest place of all that are of the kind. -/
theorem eq_or_lt_of_find? (sorted : entries.Pairwise fun later earlier => earlier.1 < later.1)
    {kind : Nat × Region → Bool} {entry other : Nat × Region}
    (first : entries.find? kind = some entry) (member : other ∈ entries)
    (alike : kind other = true) : other = entry ∨ other.1 < entry.1 := by
  obtain ⟨-, before, after, cut, unlike⟩ := List.find?_eq_some_iff_append.1 first
  rw [cut] at member sorted
  rcases List.mem_append.1 member with early | late
  · simpa [alike] using unlike other early
  · rcases List.mem_cons.1 late with same | later
    · exact .inl same
    · exact .inr ((List.pairwise_cons.1 (List.pairwise_append.1 sorted).2.1).1 other later)

/-- The first entry of a kind is the one that is taken out. -/
theorem mem_eraseP_iff (sorted : entries.Pairwise fun later earlier => earlier.1 < later.1)
    {kind : Nat × Region → Bool} {region : Region} :
    (place, region) ∈ entries.eraseP kind ↔
      (place, region) ∈ entries ∧ ¬∃ other, entries.find? kind = some (place, other) := by
  cases found : entries.find? kind with
  | none =>
    rw [List.eraseP_of_forall_not fun entry member =>
      List.find?_eq_none.1 found entry member]
    simp
  | some entry =>
    obtain ⟨alike, before, after, rfl, unlike⟩ := List.find?_eq_some_iff_append.1 found
    rw [List.eraseP_append_right _ fun other member => by simpa using unlike other member,
      List.eraseP_cons_of_pos alike]
    obtain ⟨-, behind, above⟩ := List.pairwise_append.1 sorted
    have below := (List.pairwise_cons.1 behind).1
    constructor
    · intro member
      rcases List.mem_append.1 member with early | late
      · refine ⟨List.mem_append_left _ early, ?_⟩
        rintro ⟨other, same⟩
        have less := above _ early _ List.mem_cons_self
        simp [Option.some.inj same] at less
      · refine ⟨List.mem_append_right _ (List.mem_cons_of_mem _ late), ?_⟩
        rintro ⟨other, same⟩
        have less := below _ late
        simp [Option.some.inj same] at less
    · rintro ⟨member, different⟩
      rcases List.mem_append.1 member with early | late
      · exact List.mem_append_left _ early
      · rcases List.mem_cons.1 late with same | later
        · exact (different ⟨region, by rw [same]⟩).elim
        · exact List.mem_append_right _ later

theorem Tracks.lt_length (tracks : Tracks history entries) {region : Region}
    (member : (place, region) ∈ entries) : place < history.length :=
  (List.getElem?_eq_some_iff.1 ((tracks.mem_iff place region).1 member).1).1

theorem Tracks.opening (tracks : Tracks history entries) (region : Region) :
    Tracks (history ++ [.opening region]) ((history.length, region) :: entries) where
  sorted := List.pairwise_cons.2 ⟨fun _ member => tracks.lt_length member, tracks.sorted⟩
  mem_iff place other := by
    -- An opening closes nothing, and what is opened last has not been closed before.
    have never : ¬IsFor (history ++ [.opening region]) history.length place := by
      intro isFor
      obtain ⟨-, name, other, closing, -⟩ := RegionHistory.isFor_iff.1 isFor
      simp at closing
    have fresh (late : Nat) : ¬history.IsFor late history.length := by
      intro isFor
      have before := (RegionHistory.isFor_iff.1 isFor).1
      have inside := lt_length_of_isFor isFor
      omega
    rw [List.mem_cons, tracks.mem_iff, forall_not_isFor_append, getElem?_append_event]
    constructor
    · rintro (same | ⟨opened, unclosed⟩)
      · obtain ⟨rfl, rfl⟩ := Prod.mk.inj same
        exact ⟨.inr ⟨rfl, rfl⟩, fresh, never⟩
      · exact ⟨.inl opened, unclosed, never⟩
    · rintro ⟨opened | ⟨rfl, same⟩, unclosed, -⟩
      · exact .inr ⟨opened, unclosed⟩
      · exact .inl (by rw [RegionEvent.opening.inj same])

/-- The last closing is for the first of the open regions that it asks for. -/
theorem Tracks.isFor_iff (tracks : Tracks history entries) (name : Option Text) :
    IsFor (history ++ [.closing name]) history.length place ↔
      ∃ region, entries.find? (fun entry => fits name entry.2) = some (place, region) := by
  have opened_iff (place : Nat) (region : Region) :
      (history ++ [.closing name])[place]? = some (.opening region) ↔
        history[place]? = some (.opening region) := by
    simp [getElem?_append_event]
  rw [isFor_length_iff]
  constructor
  · rintro ⟨earlier, asked, region, closing, opened, asks, unclosed, between⟩
    obtain rfl : name = asked := by simpa using closing
    rw [opened_iff] at opened
    have member : (place, region) ∈ entries :=
      (tracks.mem_iff place region).2 ⟨opened, not_exists.1 unclosed⟩
    obtain ⟨⟨first, other⟩, found⟩ : ∃ entry,
        entries.find? (fun entry => fits name entry.2) = some entry :=
      Option.isSome_iff_exists.1 (List.find?_isSome.2 ⟨_, member, asks⟩)
    rcases eq_or_lt_of_find? tracks.sorted found member asks with same | later
    · exact ⟨region, by rw [found, same]⟩
    · -- The region that is found has been opened in between, and is open.
      have firstMember := List.mem_of_find?_eq_some found
      have firstAsks := List.find?_some found
      obtain ⟨firstOpened, firstUnclosed⟩ := (tracks.mem_iff first other).1 firstMember
      obtain ⟨late, isFor⟩ := between first other later (tracks.lt_length firstMember)
        ((opened_iff first other).2 firstOpened) firstAsks
      exact (firstUnclosed late isFor).elim
  · rintro ⟨region, found⟩
    have member := List.mem_of_find?_eq_some found
    have asks := List.find?_some found
    obtain ⟨opened, unclosed⟩ := (tracks.mem_iff place region).1 member
    refine ⟨tracks.lt_length member, name, region, by simp, (opened_iff place region).2 opened,
      asks, not_exists.2 unclosed, ?_⟩
    intro between other after _ betweenOpened betweenAsks
    by_contra unclosedToo
    have betweenMember : (between, other) ∈ entries :=
      (tracks.mem_iff between other).2 ⟨(opened_iff between other).1 betweenOpened,
        not_exists.1 unclosedToo⟩
    rcases eq_or_lt_of_find? tracks.sorted found betweenMember betweenAsks with same | earlier
    · exact after.ne (congrArg Prod.fst same).symm
    · exact after.not_gt earlier

theorem Tracks.closing (tracks : Tracks history entries) (name : Option Text) :
    Tracks (history ++ [.closing name]) (entries.eraseP fun entry => fits name entry.2) where
  sorted := tracks.sorted.sublist List.eraseP_sublist
  mem_iff place region := by
    rw [mem_eraseP_iff tracks.sorted, tracks.mem_iff, forall_not_isFor_append, tracks.isFor_iff,
      and_assoc]
    simp [getElem?_append_event]

end Tracks

end RegionHistory

/-! ## The stack -/

namespace RegionStack

def happen (stack : RegionStack) : RegionEvent → RegionStack
  | .opening region => stack.push region
  | .closing name =>
    match stack.close? name with
    | some (_, later) => later
    | none => stack

/-- A stack after all that has happened. -/
def happenAll (stack : RegionStack) (events : RegionHistory) : RegionStack :=
  events.foldl happen stack

theorem latestFirst_happen_closing (stack : RegionStack) (name : Option Text) :
    (stack.happen (.closing name)).latestFirst = stack.latestFirst.eraseP (fits name) := by
  rw [happen]
  split
  · next closed => exact (close?_eq_some_iff.1 closed).2
  · next nothing =>
    rw [close?, takeFirst?_eq, Option.map_map, Option.map_eq_none_iff] at nothing
    exact (List.eraseP_of_forall_not (List.find?_eq_none.1 nothing)).symm

end RegionStack

namespace RegionHistory

/-- The regions that are open after a history. -/
def replay (history : RegionHistory) : RegionStack := RegionStack.happenAll {} history

theorem replay_append (history more : RegionHistory) :
    replay (history ++ more) = history.replay.happenAll more :=
  List.foldl_append

/-- The stack holds the regions that are not closed, the latest on top. -/
theorem exists_tracks (history : RegionHistory) :
    ∃ entries, Tracks history entries ∧ history.replay.latestFirst = entries.map (·.2) := by
  induction history using List.reverseRecOn with
  | nil => exact ⟨[], ⟨.nil, by simp⟩, rfl⟩
  | append_singleton history event ih =>
    obtain ⟨entries, tracks, stacked⟩ := ih
    rw [replay_append]
    change ∃ entries, Tracks _ entries ∧ ((replay history).happen event).latestFirst = _
    cases event with
    | opening region =>
      refine ⟨_, tracks.opening region, ?_⟩
      rw [List.map_cons, ← stacked]
      rfl
    | closing name =>
      refine ⟨_, tracks.closing name, ?_⟩
      rw [RegionStack.latestFirst_happen_closing, stacked, List.eraseP_map]
      rfl

/-- The open regions are those that are not closed, in the order in which they were opened. -/
theorem exists_places (history : RegionHistory) :
    ∃ places : List Nat, places.Pairwise (· < ·) ∧
      (∀ place, place ∈ places ↔ history.Unclosed place) ∧
      history.replay.regions = places.filterMap history.openedAt? := by
  obtain ⟨entries, tracks, stacked⟩ := exists_tracks history
  refine ⟨(entries.map (·.1)).reverse, ?sorted, fun place => ?unclosed, ?regions⟩
  case sorted =>
    rw [List.pairwise_reverse, List.pairwise_map]
    exact tracks.sorted
  case unclosed =>
    rw [List.mem_reverse, List.mem_map, Unclosed, ← exists_and_right]
    constructor
    · rintro ⟨⟨_, region⟩, member, rfl⟩
      exact ⟨region, (tracks.mem_iff _ region).1 member⟩
    · rintro ⟨region, opened⟩
      exact ⟨(place, region), (tracks.mem_iff place region).2 opened, rfl⟩
  case regions =>
    rw [RegionStack.regions, stacked, List.filterMap_reverse, List.filterMap_map]
    congr 1
    rw [← List.filterMap_eq_map]
    refine List.filterMap_congr fun entry member => ?_
    have opened := ((tracks.mem_iff entry.1 entry.2).1 member).1
    simp [openedAt?, opened]

end RegionHistory

end SnippetMarkup
