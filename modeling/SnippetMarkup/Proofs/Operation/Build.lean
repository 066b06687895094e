import Mathlib
import SnippetMarkup.Operation.Build
import SnippetMarkup.Proofs.Reference.Store
import SnippetMarkup.Proofs.Report.Journal

/-!
# What tags make

The store decides nothing but the ids of links, and the place where lines come from nothing but
what is reported.  A tag either fails, or makes the same operation whatever the store holds, or
makes a link with the id that the store has for its reference.
-/

namespace SnippetMarkup

/-! ## Reports about a line -/

/-- Notes, and the warnings about the markup of a single line. -/
def Entry.IsOfLine : Entry Problem → Prop
  | .note .. => True
  | .warning (.unclosedRegions _) => False
  | .warning .unresolvedSnippet => False
  | .warning (.bodiesDiffer _) => False
  | .warning _ => True
  | .error _ => False

def MarkupContext.movedTo (context : MarkupContext) (origin : Text) : MarkupContext :=
  { context with origin := origin }

@[simp] theorem MarkupContext.movedTo_targets (context : MarkupContext) (origin : Text) :
    (context.movedTo origin).targets = context.targets := rfl

@[simp] theorem MarkupContext.movedTo_characters (context : MarkupContext) (origin : Text) :
    (context.movedTo origin).characters = context.characters := rfl

/-- The reference that the target of a tag stands for. -/
def MarkupContext.reference? (context : MarkupContext) (attributes : Attributes) : Option Text :=
  (attributes.value? .target).bind fun target =>
    context.targets.bind fun targets => targets.resolve? target

namespace Operation

def IsLink : Operation → Prop
  | link .. => True
  | _ => False

/-- What a tag can make of a store, wherever its line comes from. -/
inductive Makes (context : MarkupContext) (tag : Tag) (attributes : Attributes) : Prop
  /-- The pattern of the tag cannot be compiled at all. -/
  | fails (failure : MarkupFailure)
    (made : ∀ origin store,
      build (context.movedTo origin) tag attributes store = .error failure)
  /-- The operation, or the problem, does not depend on the store, and is no link. -/
  | plain (operation : Option Operation) (journal : Text → Journal Problem)
    (ofLine : ∀ origin, ∀ entry ∈ journal origin, entry.IsOfLine)
    (alike : ∀ origin other, (journal origin).problems = (journal other).problems)
    (unlinked : ∀ made ∈ operation, ¬made.IsLink)
    (made : ∀ origin store,
      build (context.movedTo origin) tag attributes store =
        .ok ⟨operation, store, journal origin⟩)
  /-- The link has the id that its reference has in the store. -/
  | linked (scope : Scope) (target reference : Text) (own : tag = .link)
    (limits : Scope.ofAttributes context.characters attributes = .ok (.ok scope))
    (resolved : context.reference? attributes = some reference)
    (made : ∀ origin store,
      build (context.movedTo origin) tag attributes store =
        .ok ⟨some (.link scope context.linkAttribute (store.put reference).1),
          (store.put reference).2, [.note 3 (linkedNote target (store.put reference).1)]⟩)

theorem Makes.of_refused {context : MarkupContext} {tag : Tag} {attributes : Attributes}
    (problem : Problem) (ofLine : (Entry.warning problem).IsOfLine)
    (made : ∀ origin store,
      build (context.movedTo origin) tag attributes store = .ok (.refused store problem)) :
    Makes context tag attributes :=
  .plain none (fun _ => [.warning problem]) (by simpa using ofLine) (fun _ _ => rfl) (by simp) made

theorem problem_ofAttributes {characters : Regex.CharacterNames} {attributes : Attributes}
    {problem : Problem}
    (refused : Scope.ofAttributes characters attributes = .ok (.error problem)) :
    (Entry.warning problem).IsOfLine := by
  unfold Scope.ofAttributes at refused
  split at refused
  · simp at refused
  · split at refused <;> simp only [Except.ok.injEq, Except.error.injEq, reduceCtorEq] at refused
    subst refused
    trivial

variable {context : MarkupContext} {attributes : Attributes}

def withScope (characters : Regex.CharacterNames) (attributes : Attributes)
    (store : ReferenceStore) (next : Scope → Except MarkupFailure Built) :
    Except MarkupFailure Built := do
  match ← Scope.ofAttributes characters attributes with
  | .error problem => return .refused store problem
  | .ok scope => next scope

theorem withScope_eq (characters : Regex.CharacterNames) (attributes : Attributes)
    (store : ReferenceStore) (next : Scope → Except MarkupFailure Built) :
    withScope characters attributes store next =
      match Scope.ofAttributes characters attributes with
      | .error failure => .error failure
      | .ok (.error problem) => .ok (.refused store problem)
      | .ok (.ok scope) => next scope := by
  unfold withScope
  rcases Scope.ofAttributes characters attributes with failure | problem | scope <;> rfl

/-- Only a tag whose scope can be read has to be looked at. -/
theorem Makes.of_withScope {tag : Tag}
    {next : Text → Scope → ReferenceStore → Except MarkupFailure Built}
    (reads : ∀ origin store, build (context.movedTo origin) tag attributes store =
      withScope context.characters attributes store (next origin · store))
    (makes : ∀ scope, Scope.ofAttributes context.characters attributes = .ok (.ok scope) →
      (∀ origin store,
      build (context.movedTo origin) tag attributes store = next origin scope store) →
        Makes context tag attributes) :
    Makes context tag attributes := by
  rcases limits : Scope.ofAttributes context.characters attributes with failure | problem | scope
  · exact .fails failure fun origin store => by rw [reads, withScope, limits]; rfl
  · exact .of_refused problem (problem_ofAttributes limits) fun origin store => by
      rw [reads, withScope, limits]; rfl
  · exact makes scope limits fun origin store => by rw [reads, withScope, limits]; rfl

variable (context attributes)

/-- The name of the style that a highlight tag asks for. -/
def styleName (attributes : Attributes) : Text :=
  match attributes.value? .type with
  | some written => Unicode.lower written
  | none => "bold".toList

theorem build_highlight (store : ReferenceStore) :
    build context .highlight attributes store =
      match Style.ofName? (styleName attributes) with
      | none => .ok (.refused store (.unknownStyle (styleName attributes)))
      | some style => withScope context.characters attributes store fun scope =>
        .ok ⟨some (.highlight scope style), store, []⟩ := rfl

theorem makes_highlight : Makes context .highlight attributes := by
  cases known : Style.ofName? (styleName attributes) with
  | none =>
    exact .of_refused (.unknownStyle (styleName attributes)) trivial fun origin store => by
      rw [build_highlight, known]
  | some style =>
    refine .of_withScope (fun origin store => by
      rw [build_highlight, known, MarkupContext.movedTo_characters]) fun scope _ made => ?_
    exact .plain (some (.highlight scope style)) (fun _ => []) (by simp) (fun _ _ => rfl)
      (by simp [IsLink]) made

theorem build_replace (store : ReferenceStore) :
    build context .replace attributes store =
      match attributes.value? .replacement with
      | none => .ok (.refused store .missingReplacement)
      | some replacement => withScope context.characters attributes store fun scope =>
        .ok ⟨some (.replace scope replacement), store, []⟩ := rfl

theorem makes_replace : Makes context .replace attributes := by
  cases given : attributes.value? .replacement with
  | none =>
    exact .of_refused .missingReplacement trivial fun origin store => by
      rw [build_replace, given]
  | some replacement =>
    refine .of_withScope (fun origin store => by
      rw [build_replace, given, MarkupContext.movedTo_characters]) fun scope _ made => ?_
    exact .plain (some (.replace scope replacement)) (fun _ => []) (by simp) (fun _ _ => rfl)
      (by simp [IsLink]) made

/-- What a link tag with a target makes if its scope can be read. -/
def linkTo (context : MarkupContext) (target : Text) (scope : Scope) (store : ReferenceStore) :
    Built :=
  match context.targets with
  | none => .refused store (.unresolvedTarget target)
  | some targets =>
    match targets.resolve? target with
    | none =>
      ⟨none, store, [.note 3 (Targets.notFoundNote target context.origin),
        .warning (.unresolvedTarget target)]⟩
    | some reference =>
      ⟨some (.link scope context.linkAttribute (store.put reference).1), (store.put reference).2,
        [.note 3 (linkedNote target (store.put reference).1)]⟩

theorem build_link (store : ReferenceStore) :
    build context .link attributes store =
      match attributes.value? .target with
      | none => .ok (.refused store .missingTarget)
      | some target => withScope context.characters attributes store fun scope =>
        .ok (linkTo context target scope store) := by
  rw [build, buildLink]
  cases attributes.value? .target with
  | none => rfl
  | some target =>
    dsimp only
    rw [withScope]
    rcases Scope.ofAttributes context.characters attributes with failure | problem | scope
    · rfl
    · rfl
    · unfold linkTo
      cases context.targets with
      | none => rfl
      | some targets =>
        simp only [bind, Except.bind]
        cases targets.resolve? target <;> rfl

theorem makes_link : Makes context .link attributes := by
  cases given : attributes.value? .target with
  | none =>
    exact .of_refused .missingTarget trivial fun origin store => by rw [build_link, given]
  | some target =>
    refine .of_withScope (fun origin store => by
      rw [build_link, given, MarkupContext.movedTo_characters]) fun scope limits made => ?_
    cases known : context.targets with
    | none =>
      exact .of_refused (.unresolvedTarget target) trivial fun origin store => by
        simp only [made, linkTo, MarkupContext.movedTo_targets, known]
    | some targets =>
      cases resolved : targets.resolve? target with
      | none =>
        refine .plain none (fun origin => [.note 3 (Targets.notFoundNote target origin),
          .warning (.unresolvedTarget target)]) (by simp [Entry.IsOfLine]) (fun _ _ => rfl)
          (by simp) fun origin store => ?_
        simp only [made, linkTo, MarkupContext.movedTo_targets, known, resolved]
        rfl
      | some reference =>
        have linked : context.reference? attributes = some reference := by
          simp [MarkupContext.reference?, given, known, resolved]
        refine .linked scope target reference rfl limits linked fun origin store => ?_
        simp only [made, linkTo, MarkupContext.movedTo_targets, known, resolved]
        rfl

/-- A tag makes the same of every store, apart from the id of a link. -/
theorem makes (tag : Tag) : Makes context tag attributes := by
  cases tag with
  | start => exact .plain none (fun _ => []) (by simp) (fun _ _ => rfl) (by simp) fun _ _ => rfl
  | finish => exact .plain none (fun _ => []) (by simp) (fun _ _ => rfl) (by simp) fun _ _ => rfl
  | highlight => exact makes_highlight context attributes
  | replace => exact makes_replace context attributes
  | link => exact makes_link context attributes

/-- A tag that is met again makes the same again, and of the store that it has left it leaves all
as it is. -/
theorem build_again {context : MarkupContext} {tag : Tag} {attributes : Attributes}
    {store : ReferenceStore} {built : Built}
    (made : build context tag attributes store = .ok built) :
    build context tag attributes built.store = .ok built := by
  have here : context.movedTo context.origin = context := rfl
  rw [← here] at made ⊢
  cases makes context attributes tag with
  | fails failure fails => simp [fails] at made
  | plain operation journal ofLine alike unlinked plain =>
    rw [plain, Except.ok.injEq] at made
    subst made
    exact plain _ _
  | linked scope target reference own limits resolved linked =>
    rw [linked, Except.ok.injEq] at made
    subst made
    rw [linked, ReferenceStore.put_of_idOf? (ReferenceStore.idOf?_put store reference)]

/-- What a tag makes does not depend on its region, or on what it does not accept. -/
theorem build_congr {context : MarkupContext} {tag : Tag} {first second : Attributes}
    {store : ReferenceStore}
    (same : ∀ name ∈ tag.accepted, name ≠ .region → first.value? name = second.value? name) :
    build context tag first store = build context tag second store := by
  have limits (accepts : .substring ∈ tag.accepted ∧ .regex ∈ tag.accepted) :
      Scope.ofAttributes context.characters first =
        Scope.ofAttributes context.characters second := by
    rw [Scope.ofAttributes, Scope.ofAttributes, same .substring accepts.1 (by decide),
      same .regex accepts.2 (by decide)]
  cases tag with
  | start => rfl
  | finish => rfl
  | highlight =>
    rw [build_highlight, build_highlight, styleName, styleName, same .type (by decide) (by decide)]
    simp only [withScope_eq, limits (by decide)]
  | replace =>
    rw [build_replace, build_replace, same .replacement (by decide) (by decide)]
    simp only [withScope_eq, limits (by decide)]
  | link =>
    rw [build_link, build_link, same .target (by decide) (by decide)]
    simp only [withScope_eq, limits (by decide)]

theorem ofLine_of_build {context : MarkupContext} {tag : Tag} {attributes : Attributes}
    {store : ReferenceStore} {built : Built}
    (made : build context tag attributes store = .ok built) :
    ∀ entry ∈ built.journal, entry.IsOfLine := by
  have here : context.movedTo context.origin = context := rfl
  rw [← here] at made
  cases makes context attributes tag with
  | fails failure fails => simp [fails] at made
  | plain operation journal ofLine alike unlinked plain =>
    rw [plain, Except.ok.injEq] at made
    exact made ▸ ofLine context.origin
  | linked scope target reference own limits resolved linked =>
    rw [linked, Except.ok.injEq] at made
    simp [← made, Entry.IsOfLine]

end Operation

end SnippetMarkup
