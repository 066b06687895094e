import Mathlib
import SnippetMarkup.Proofs.Operation.Marking

/-!
# Matches in a text

The matches of an expression in a text follow one another: each of them is the first that starts
where the one before it ends or later, and an empty one does not start where an empty one has just
been.  So they are determined by what the expression matches at each place, and they cut the text
into pieces, of which the matches can be replaced.
-/

namespace SnippetMarkup.Regex

/-! ## Matches at a place -/

/-- How an expression matches from a place on.  With `advance`, it does not match up to that place
only. -/
def Node.matchAt? (node : Node) (text : Array Char) (place : Nat) (inside : place ≤ text.size)
    (advance : Bool) :
    Option { b : Later (⟨place, inside, []⟩ : Spot text) // advance = true → place < b.1.place } :=
  node.run ⟨place, inside, []⟩ fun b =>
    if beyond : advance = true → place < b.1.place then some ⟨b, beyond⟩ else none

/-- An expression matches a text from a place up to a spot.  Of the spots that it can reach there,
this is the first one that counts: with `advance`, the place itself does not. -/
def Node.MatchesAt (node : Node) (text : Array Char) (place : Nat) (advance : Bool)
    (stop : Spot text) : Prop :=
  ∃ inside b, node.matchAt? text place inside advance = some b ∧ b.1.1 = stop

/-! ## Matches one after the other -/

/-- What a match from a place up to a spot holds. -/
def Spot.matchFrom {text : Array Char} (stop : Spot text) (start : Nat) : Match :=
  ⟨stretch text start stop.place,
    stop.captures.map fun (index, first, last) => (index, stretch text first last)⟩

/-- The matches of an expression in a text from a place on, each with what stands in front of it,
and what is left behind the last.  Each is the first that starts at or after the end of the one
before it.  With `advance`, the first of them is not empty if it starts right at the place. -/
inductive Node.Finds (node : Node) (text : Array Char) :
    Nat → Bool → List (Text × Match) → Text → Prop
  | nothing {place : Nat} {advance : Bool}
    (none : ∀ start stop, place ≤ start →
      ¬node.MatchesAt text start (advance && start == place) stop) :
    node.Finds text place advance [] (stretch text place text.size)
  | hit {place start : Nat} {advance : Bool} {stop : Spot text} {hits : List (Text × Match)}
    {last : Text} (behind : place ≤ start)
    (matched : node.MatchesAt text start (advance && start == place) stop)
    (first : ∀ earlier other, place ≤ earlier → earlier < start →
      ¬node.MatchesAt text earlier (advance && earlier == place) other)
    -- An empty match may follow a longer one at once, but not another empty one.
    (others : node.Finds text stop.place (stop.place == start) hits last) :
    node.Finds text place advance ((stretch text place start, stop.matchFrom start) :: hits) last

/-! ## The search for a match -/

section Search

variable {node : Node} {text : Array Char} {place : Nat} {advance : Bool}

theorem Node.MatchesAt.unique {stop other : Spot text}
    (one : node.MatchesAt text place advance stop) (two : node.MatchesAt text place advance other) :
    stop = other := by
  obtain ⟨bound, b, matched, rfl⟩ := one
  obtain ⟨_, c, matchedToo, rfl⟩ := two
  rw [Option.some.inj (matched.symm.trans matchedToo)]

/-- A search tries its place first, and then those behind it. -/
theorem Node.search_eq (inside : place ≤ text.size) :
    node.search text place inside advance =
      match node.matchAt? text place inside advance with
      | some b => some ⟨place, b.1.1, Nat.le_refl _, b.1.2, b.2⟩
      | none =>
        if h : place < text.size then
          (node.search text (place + 1) h false).map fun found =>
            ⟨found.start, found.stop, Nat.le_of_succ_le found.from_le, found.start_le,
              fun _ => Nat.le_trans found.from_le found.start_le⟩
        else none := by
  rw [search, matchAt?]
  split
  · next matched => rw [matched]
  · next missed => rw [missed]

theorem Node.not_matchesAt_of_missed {inside : place ≤ text.size}
    (missed : node.matchAt? text place inside advance = none) (stop : Spot text) :
    ¬node.MatchesAt text place (advance && place == place) stop := by
  rw [beq_self_eq_true, Bool.and_true]
  rintro ⟨_, b, matched, -⟩
  cases missed.symm.trans matched

theorem Node.matchesAt_behind {start : Nat} (later : place < start) {stop : Spot text} :
    node.MatchesAt text start (advance && start == place) stop ↔
      node.MatchesAt text start (false && start == place + 1) stop := by
  rw [beq_eq_false_iff_ne.2 later.ne', Bool.and_false, Bool.false_and]

theorem Node.not_matchesAt_of_search {place : Nat} {advance : Bool} (inside : place ≤ text.size)
    (nothing : node.search text place inside advance = none) {start : Nat} {stop : Spot text}
    (behind : place ≤ start) :
    ¬node.MatchesAt text start (advance && start == place) stop := by
  rw [search_eq] at nothing
  split at nothing
  · cases nothing
  · next missed =>
    rcases Nat.eq_or_lt_of_le behind with rfl | later
    · exact not_matchesAt_of_missed missed stop
    · intro matched
      have bound : start ≤ text.size := Exists.fst matched
      rw [dif_pos (later.trans_le bound), Option.map_eq_none_iff] at nothing
      exact not_matchesAt_of_search (later.trans_le bound) nothing later
        ((matchesAt_behind later).1 matched)
termination_by text.size - place

theorem Node.matchesAt_of_search {place : Nat} {advance : Bool} (inside : place ≤ text.size)
    {found : Found text place advance}
    (hit : node.search text place inside advance = some found) :
    node.MatchesAt text found.start (advance && found.start == place) found.stop ∧
      ∀ earlier other, place ≤ earlier → earlier < found.start →
        ¬node.MatchesAt text earlier (advance && earlier == place) other := by
  rw [search_eq] at hit
  split at hit
  · next b matched =>
    obtain rfl := Option.some.inj hit
    refine ⟨?_, fun earlier other behind before => absurd behind (not_le.2 before)⟩
    rw [beq_self_eq_true, Bool.and_true]
    exact ⟨inside, b, matched, rfl⟩
  · next missed =>
    split at hit
    · next bound =>
      obtain ⟨further, searched, rfl⟩ := Option.map_eq_some_iff.1 hit
      obtain ⟨matched, first⟩ := matchesAt_of_search bound searched
      refine ⟨(matchesAt_behind further.from_le).2 matched, fun earlier other behind before => ?_⟩
      rcases Nat.eq_or_lt_of_le behind with rfl | later
      · exact not_matchesAt_of_missed missed other
      · rw [matchesAt_behind later]
        exact first earlier other later before
    · cases hit
termination_by text.size - place

/-! ## Pieces -/

/-- The pieces that some matches, with what stands in front of each of them, cut a text into. -/
def piecesOf (hits : List (Text × Match)) (last : Text) : List Piece :=
  hits.flatMap (fun (outside, found) => [.plain outside, .hit found]) ++ [.plain last]

theorem Node.exists_finds (inside : place ≤ text.size) :
    ∃ hits last, node.Finds text place advance hits last ∧
      node.piecesFrom text place inside advance = piecesOf hits last := by
  fun_induction Node.piecesFrom node text place inside advance with
  | case1 place inside advance nothing =>
    exact ⟨[], _, .nothing fun _ _ => not_matchesAt_of_search inside nothing, rfl⟩
  | case2 place inside advance found hit ih =>
    obtain ⟨hits, last, others, cut⟩ := ih
    obtain ⟨matched, first⟩ := matchesAt_of_search inside hit
    exact ⟨_, last, .hit found.from_le matched first others, congrArg _ (congrArg _ cut)⟩

theorem Node.Finds.unique {hits others : List (Text × Match)} {last rest : Text}
    (one : node.Finds text place advance hits last)
    (two : node.Finds text place advance others rest) : others = hits ∧ rest = last := by
  induction one generalizing others rest with
  | nothing none =>
    cases two with
    | nothing _ => exact ⟨rfl, rfl⟩
    | hit behind matched _ _ => exact absurd matched (none _ _ behind)
  | @hit place start advance stop hits last behind matched first _ ih =>
    cases two with
    | nothing none => exact absurd matched (none _ _ behind)
    | @hit _ second _ other _ _ behindToo matchedToo firstToo othersToo =>
      -- Neither of the two matches starts before the other.
      have same : second = start := by
        rcases Nat.lt_trichotomy second start with before | same | before
        · exact absurd matchedToo (first second other behindToo before)
        · exact same
        · exact absurd matched (firstToo start stop behind before)
      subst same
      obtain rfl := matched.unique matchedToo
      obtain ⟨rfl, rfl⟩ := ih othersToo
      exact ⟨rfl, rfl⟩

end Search

/-- A piece of a text, with another text in the place of a match. -/
def Piece.replacedBy (image : Match → Text) : Piece → Text
  | plain outside => outside
  | hit found => image found

theorem substitute_eq (regex : Regex) (image : Match → Text) (text : Text) :
    regex.substitute image text = (regex.pieces text).flatMap (·.replacedBy image) := rfl

variable (regex : Regex)

/-- The matches of an expression in a line, from left to right. -/
def Finds (line : Text) (hits : List (Text × Match)) (last : Text) : Prop :=
  regex.node.Finds line.toArray 0 false hits last

theorem flatMap_piecesOf (image : Match → Text) (hits : List (Text × Match)) (last : Text) :
    (piecesOf hits last).flatMap (·.replacedBy image) =
      hits.flatMap (fun (outside, found) => outside ++ image found) ++ last := by
  simp [piecesOf, List.flatMap_assoc, Piece.replacedBy]

theorem exists_finds (line : Text) :
    ∃ hits last, (∀ others rest, regex.Finds line others rest ↔ others = hits ∧ rest = last) ∧
      ∀ image, regex.substitute image line =
        hits.flatMap (fun (outside, found) => outside ++ image found) ++ last := by
  obtain ⟨hits, last, finds, cut⟩ :
      ∃ hits last, regex.Finds line hits last ∧ regex.pieces line = piecesOf hits last :=
    Node.exists_finds (Nat.zero_le _)
  refine ⟨hits, last, fun others rest => ⟨finds.unique, ?_⟩, fun image => ?_⟩
  · rintro ⟨rfl, rfl⟩
    exact finds
  · rw [substitute_eq, cut, flatMap_piecesOf]

/-- If every match is left as it is, so is the line. -/
theorem substitute_whole (line : Text) : regex.substitute Match.whole line = line := by
  have same : (fun cut : Html.Cut => cut.wrap id) = Html.Cut.text := by
    funext cut
    cases cut <;> rfl
  calc regex.substitute Match.whole line = (regex.cuts line).flatMap (·.wrap id) :=
        regex.substitute_eq_cuts id line
    _ = line := by rw [same, flatMap_cuts]

end SnippetMarkup.Regex
