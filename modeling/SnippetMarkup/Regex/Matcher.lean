import SnippetMarkup.Regex.Parser

/-!
# Matching

An expression is matched by trying its possibilities in order.  What has to match after it is
given as a continuation, and a possibility counts only if the continuation succeeds with it.
Every place that a continuation is given lies at or after the place where the expression began,
and that bounds the loops.
-/

namespace SnippetMarkup.Regex

/-! ## Places with captures -/

/-- The texts of groups, as their starts and ends, the latest first. -/
abbrev Captures := List (Nat × Nat × Nat)

/-- A place in a text, and the groups that took part on the way to it. -/
structure Spot (text : Array Char) where
  place : Nat
  inside : place ≤ text.size
  captures : Captures

abbrev Later {text : Array Char} (a : Spot text) := { b : Spot text // a.place ≤ b.place }

namespace Later

variable {text : Array Char}

def refl (a : Spot text) : Later a := ⟨a, Nat.le_refl _⟩

/-- What is not before a later spot is not before the earlier one. -/
def trans {a : Spot text} (b : Later a) (c : Later b.1) : Later a :=
  ⟨c.1, Nat.le_trans b.2 c.2⟩

/-- A spot with the captures of another. -/
def withCaptures (a : Spot text) (captures : Captures) : Later a :=
  ⟨{ a with captures := captures }, Nat.le_refl _⟩

end Later

/-- What matches from a spot on: the first result of the continuation for the spots that the
matcher can reach. -/
abbrev Matcher (text : Array Char) :=
  {R : Type} → (a : Spot text) → (Later a → Option R) → Option R

/-! ## Repetitions -/

/-- What is left of a text shrinks from one repetition to the next; if it does not, the next
repetition starts where the one before it started, which happens only once. -/
theorem repetition_shrinks {size here there : Nat} {last : Option Nat} (order : here ≤ there)
    (bound : there ≤ size) (fresh : last ≠ some here) :
    Prod.Lex (· < ·) (· < ·) (size - there, if some here = some there then 0 else 1)
      (size - here, if last = some here then 0 else 1) := by
  rcases Nat.eq_or_lt_of_le order with same | before
  · rw [← same, if_pos rfl, if_neg fresh]
    exact Prod.Lex.right _ Nat.zero_lt_one
  · exact Prod.Lex.left _ _ (by omega)

/-- Repetitions of a matcher, most or fewest first, from a spot on that was reached from an
`origin`.  After the required ones, a repetition that would start where the one before it started
is not tried. -/
def repetitions {text : Array Char} (body : Matcher text) (greedy : Bool) {R : Type}
    {origin : Spot text} (next : Later origin → Option R) (least : Nat) (most : Option Nat)
    (last : Option Nat) (a : Later origin) : Option R :=
  match least with
  | least + 1 =>
    body a.1 fun b =>
      repetitions body greedy next least (most.map (· - 1)) last (a.trans b)
  | 0 =>
    if most = some 0 then next a
    else if _repeated : last = some a.1.place then next a
    else
      let more (_ : Unit) : Option R :=
        body a.1 fun b =>
          repetitions body greedy next 0 (most.map (· - 1)) (some a.1.place) (a.trans b)
      if greedy then (more ()).orElse fun _ => next a
      else (next a).orElse more
termination_by (least, text.size - a.1.place, if last = some a.1.place then 0 else 1)
decreasing_by
  · exact Prod.Lex.left _ _ (Nat.lt_succ_self _)
  · exact Prod.Lex.right _ (repetition_shrinks b.2 b.1.inside _repeated)

/-- As many repetitions of a matcher as possible, each of them keeping to its first match. -/
def allRepetitions {text : Array Char} (body : Matcher text) (least : Nat) (most : Option Nat)
    (last : Option Nat) (a : Spot text) : Option (Later a) :=
  match least with
  | least + 1 =>
    match body a some with
    | none => none
    | some b => (allRepetitions body least (most.map (· - 1)) last b.1).map b.trans
  | 0 =>
    if most = some 0 then some (.refl a)
    else if _repeated : last = some a.place then some (.refl a)
    else
      match body a some with
      -- No further repetition matches, and none of those before is given back.
      | none => some (.refl a)
      | some b => (allRepetitions body 0 (most.map (· - 1)) (some a.place) b.1).map b.trans
termination_by (least, text.size - a.place, if last = some a.place then 0 else 1)
decreasing_by
  · exact Prod.Lex.left _ _ (Nat.lt_succ_self _)
  · exact Prod.Lex.right _ (repetition_shrinks b.2 b.1.inside _repeated)

/-! ## Places -/

/-- Whether a place of a text has a property that only the characters around it decide. -/
def Anchor.holds (anchor : Anchor) (text : Array Char) (place : Nat) : Bool :=
  let before := if place = 0 then none else text[place - 1]?
  let after := text[place]?
  match anchor with
  | textStart => place == 0
  | lineStart => place == 0 || before == some '\n'
  | textEnd => place == text.size || (place + 1 == text.size && after == some '\n')
  | lineEnd => place == text.size || after == some '\n'
  | veryEnd => place == text.size
  | wordEdge ascii negated =>
    let isWord (c : Option Char) := c.any (CharClass.word.contains ascii)
    !text.isEmpty && ((isWord before != isWord after) != negated)

/-! ## Expressions -/

/-- Matches one character that satisfies a condition. -/
def oneChar {text : Array Char} (p : Char → Bool) {R : Type} (a : Spot text)
    (next : Later a → Option R) : Option R :=
  if h : a.place < text.size then
    if p text[a.place] then next ⟨⟨a.place + 1, h, a.captures⟩, Nat.le_succ _⟩ else none
  else none

/-- Whether two stretches of a text are equal. -/
def sameStretch (text : Array Char) (folding : Folding) (first second length : Nat) : Bool :=
  (List.range length).all fun i =>
    text[first + i]?.map folding.lower == text[second + i]?.map folding.lower

def Node.run {text : Array Char} : Node → Matcher text
  | .empty, _, a, next => next (.refl a)
  | .fail, _, _, _ => none
  | .char code folding, _, a, next =>
    oneChar (fun c => (folding.equals c.toNat).contains code) a next
  | .set negated items folding, _, a, next =>
    oneChar (fun c => items.any (·.covers folding c) != negated) a next
  | .any lineFeed, _, a, next => oneChar (fun c => lineFeed || c != '\n') a next
  | .place anchor, _, a, next => if anchor.holds text a.place then next (.refl a) else none
  | .seq first second, _, a, next =>
    first.run a fun b => second.run b.1 fun c => next (b.trans c)
  | .alt first second, _, a, next => (first.run a next).orElse fun _ => second.run a next
  | .repeated least most greed body, _, a, next =>
    match greed with
    | .greedy => repetitions body.run true next least most none (.refl a)
    | .reluctant => repetitions body.run false next least most none (.refl a)
    | .possessive => (allRepetitions body.run least most none a).bind next
  | .bracket body, _, a, next => body.run a next
  | .group index body, _, a, next =>
    body.run a fun b =>
      next (b.trans (.withCaptures b.1 ((index, a.place, b.1.place) :: b.1.captures)))
  | .atomic body, _, a, next => (body.run a some).bind next
  | .ahead negated body, _, a, next =>
    match body.run a some with
    | some b => if negated then none else next (.withCaptures a b.1.captures)
    | none => if negated then next (.refl a) else none
  | .behind negated width body, _, a, next =>
    let origin : Spot text :=
      ⟨a.place - width, Nat.le_trans (Nat.sub_le _ _) a.inside, a.captures⟩
    -- The body has a fixed width, so it ends where it was started from.
    let found := if width ≤ a.place then body.run origin some else none
    match found with
    | some b => if negated then none else next (.withCaptures a b.1.captures)
    | none => if negated then next (.refl a) else none
  | .again index folding, _, a, next =>
    -- A group that took no part has no text that could stand here again.
    match a.captures.lookup index with
    | none => none
    | some (start, stop) =>
      let length := stop - start
      if h : a.place + length ≤ text.size then
        if sameStretch text folding start a.place length then
          next ⟨⟨a.place + length, h, a.captures⟩, Nat.le_add_right _ _⟩
        else none
      else none
  | .choice index yes no, _, a, next =>
    if (a.captures.lookup index).isSome then yes.run a next else no.run a next

/-! ## Searching a text -/

/-- A match that starts at or after a place.  With `advance`, it does not end at that place. -/
structure Found (text : Array Char) (origin : Nat) (advance : Bool) where
  start : Nat
  stop : Spot text
  from_le : origin ≤ start
  start_le : start ≤ stop.place
  beyond : advance = true → origin < stop.place

/-- The first match from a place on. -/
def Node.search (node : Node) (text : Array Char) (place : Nat) (inside : place ≤ text.size)
    (advance : Bool) : Option (Found text place advance) :=
  let here : Spot text := ⟨place, inside, []⟩
  let accepted (b : Later here) : Option { b : Later here // advance = true → place < b.1.place } :=
    if beyond : advance = true → place < b.1.place then some ⟨b, beyond⟩ else none
  match node.run here accepted with
  | some b => some ⟨place, b.1.1, Nat.le_refl _, b.1.2, b.2⟩
  | none =>
    if h : place < text.size then
      (node.search text (place + 1) h false).map fun found =>
        ⟨found.start, found.stop, Nat.le_of_succ_le found.from_le, found.start_le,
          fun _ => Nat.le_trans found.from_le found.start_le⟩
    else none
termination_by text.size - place

/-- What a match holds: the whole text of it, and the texts of the groups that took part. -/
structure Match where
  whole : Text
  groups : List (Nat × Text)
  deriving DecidableEq, Repr

/-- The text of a group, and the whole text for number zero, if it took part. -/
def Match.group? (found : Match) (index : Nat) : Option Text :=
  if index = 0 then some found.whole else found.groups.lookup index

/-- The characters of a text between two places. -/
def stretch (text : Array Char) (start stop : Nat) : Text := (text.extract start stop).toList

/-- A piece of a text that was searched. -/
inductive Piece where
  | plain (text : Text)
  | hit (found : Match)
  deriving DecidableEq, Repr

def Piece.text : Piece → Text
  | plain text => text
  | hit found => found.whole

def Found.toMatch {text : Array Char} {origin : Nat} {advance : Bool}
    (found : Found text origin advance) : Match :=
  ⟨stretch text found.start found.stop.place,
    found.stop.captures.map fun (index, start, stop) => (index, stretch text start stop)⟩

/-- The pieces of a text from a place on. -/
def Node.piecesFrom (node : Node) (text : Array Char) (place : Nat) (inside : place ≤ text.size)
    (advance : Bool) : List Piece :=
  match node.search text place inside advance with
  | none => [.plain (stretch text place text.size)]
  | some hit =>
    .plain (stretch text place hit.start) :: .hit hit.toMatch ::
      node.piecesFrom text hit.stop.place hit.stop.inside (hit.stop.place == hit.start)
termination_by (text.size - place, if advance then 0 else 1)
decreasing_by
  have lower := hit.from_le
  have upper := hit.start_le
  have bound := hit.stop.inside
  rcases Nat.eq_or_lt_of_le (Nat.le_trans lower upper) with same | before
  · have calm : advance = false := by
      cases held : advance
      · rfl
      · exact absurd (hit.beyond held) (by omega)
    have empty : (hit.stop.place == hit.start) = true := by rw [beq_iff_eq]; omega
    have left : text.size - hit.stop.place = text.size - place := by omega
    rw [empty, left]
    refine Prod.Lex.right _ ?_
    simp only [calm, if_pos, Bool.false_eq_true, if_false, Nat.zero_lt_one]
  · exact Prod.Lex.left _ _ (by omega)

end SnippetMarkup.Regex

namespace SnippetMarkup

/-- The pieces of a text: its matches from left to right, and what stands around them.  A match
may be empty, but not where an empty match has just been. -/
def Regex.pieces (regex : Regex) (text : Text) : List Regex.Piece :=
  regex.node.piecesFrom text.toArray 0 (Nat.zero_le _) false

def Regex.substitute (regex : Regex) (replace : Regex.Match → Text) (text : Text) : Text :=
  (regex.pieces text).flatMap fun
    | .plain outside => outside
    | .hit found => replace found

end SnippetMarkup
