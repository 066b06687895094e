import Mathlib
import SnippetMarkup.Yaml.Value

/-!
# What values are shown as

A number with too many digits is not shown, and neither is a collection that would show it.  A
collection inside of itself is not shown again, so collections are never further inside of each other
than there are collections.  That many steps into them are enough for all that is shown.
-/

namespace SnippetMarkup.Yaml

/-! ## Scalars -/

namespace Scalar

/-- A number with more digits than are shown. -/
def IsLong (scalar : Scalar) : Prop :=
  ∃ value, scalar = .int value ∧ Text.digitLimit < (Text.ofNat value.natAbs).length

variable {scalar : Scalar}

theorem shown?_eq_none_iff : scalar.shown? = none ↔ scalar.IsLong := by
  cases scalar with
  | bool value => cases value <;> simp [shown?, IsLong]
  | int value => simp [shown?, IsLong]
  | null | float | text | bytes | moment => simp [shown?, IsLong]

theorem toText?_eq_none_iff : scalar.toText? = none ↔ scalar.IsLong := by
  cases scalar with
  | text | moment => simp [toText?, IsLong]
  | null | bool | int | float | bytes => rw [toText?, shown?_eq_none_iff] <;> simp

end Scalar

/-! ## Collections -/

theorem mapM_eq_none_iff {α β : Type} {act : α → Option β} {items : List α} :
    items.mapM act = none ↔ ∃ item ∈ items, act item = none := by
  induction items with
  | nil => simp
  | cons item items ih =>
    rw [List.mapM_cons, List.exists_mem_cons_iff, ← ih]
    cases act item with
    | none => simp
    | some shown => cases items.mapM act <;> simp

theorem bind_eq_none_iff {α β γ : Type} {first : Option α} {second : Option β}
    (join : α → β → γ) :
    (do return join (← first) (← second)) = none ↔ first = none ∨ second = none := by
  cases first with
  | none => simp
  | some => cases second <;> simp

theorem exists_mem_flatMap_iff {α β : Type} {first second : α → β} {items : List α}
    {holds : β → Prop} :
    (∃ part ∈ items.flatMap fun item => [first item, second item], holds part) ↔
      ∃ item ∈ items, holds (first item) ∨ holds (second item) := by
  simp only [List.mem_flatMap, List.mem_pair]
  constructor
  · rintro ⟨_, ⟨item, member, rfl | rfl⟩, here⟩
    · exact ⟨item, member, .inl here⟩
    · exact ⟨item, member, .inr here⟩
  · rintro ⟨item, member, here | here⟩
    · exact ⟨_, ⟨item, member, .inl rfl⟩, here⟩
    · exact ⟨_, ⟨item, member, .inr rfl⟩, here⟩

namespace Contents

/-- What a collection shows, keys included. -/
def parts : Contents → List Value
  | list items => items
  | map entries => entries.flatMap fun (key, item) => [.scalar key, item]
  | pairs items => items.flatMap fun (first, second) => [first, second]
  | set items => items.map .scalar

/-- A collection is shown if all of its parts are. -/
theorem render?_eq_none_iff {contents : Contents} {show? : Value → Option Text}
    (scalars : ∀ scalar, show? (.scalar scalar) = scalar.shown?) :
    contents.render? show? = none ↔ ∃ part ∈ contents.parts, show? part = none := by
  cases contents with
  | list items => rw [render?, Option.map_eq_none_iff, mapM_eq_none_iff, parts]
  | map entries =>
    rw [render?, Option.map_eq_none_iff, mapM_eq_none_iff, parts, exists_mem_flatMap_iff]
    simp only [bind_eq_none_iff, scalars]
  | pairs items =>
    rw [render?, Option.map_eq_none_iff, mapM_eq_none_iff, parts, exists_mem_flatMap_iff]
    simp only [bind_eq_none_iff]
  | set items =>
    cases items with
    | nil => simp [render?, parts]
    | cons item items =>
      rw [render?, Option.map_eq_none_iff, mapM_eq_none_iff, parts]
      · simp only [List.mem_map, exists_exists_and_eq_and, scalars]
      · simp

end Contents

/-! ## Values -/

namespace Value

variable {collections : Collections} {inside : List Nat} {value : Value}

/-- A value shows a number with too many digits where it is inside of the collections with the given
numbers. -/
inductive ShowsLong (collections : Collections) : List Nat → Value → Prop
  | scalar {inside : List Nat} {scalar : Scalar} (long : scalar.IsLong) :
      ShowsLong collections inside (.scalar scalar)
  | collection {inside : List Nat} {id : Nat} {contents : Contents} {part : Value}
      (found : collections.lookup id = some contents) (outside : id ∉ inside)
      (member : part ∈ contents.parts) (shows : ShowsLong collections (id :: inside) part) :
      ShowsLong collections inside (.collection id)

theorem showsLong_scalar_iff {scalar : Scalar} :
    ShowsLong collections inside (.scalar scalar) ↔ scalar.IsLong :=
  ⟨fun | .scalar long => long, .scalar⟩

theorem showsLong_collection_iff {id : Nat} :
    ShowsLong collections inside (.collection id) ↔
      id ∉ inside ∧ ∃ contents, collections.lookup id = some contents ∧
        ∃ part ∈ contents.parts, ShowsLong collections (id :: inside) part := by
  constructor
  · rintro (_ | ⟨found, outside, member, shows⟩)
    exact ⟨outside, _, found, _, member, shows⟩
  · rintro ⟨outside, contents, found, part, member, shows⟩
    exact .collection found outside member shows

theorem shown?_scalar (depth : Nat) (scalar : Scalar) :
    shown? collections inside depth (.scalar scalar) = scalar.shown? := by
  cases depth <;> rfl

/-- A value is shown if it shows no number with too many digits.  The steps that are left and the
collections around the value are more than there are collections, so steps never run out. -/
theorem shown?_eq_none_iff {depth : Nat} (nodup : inside.Nodup)
    (known : inside ⊆ collections.map (·.1))
    (enough : collections.length < inside.length + depth) :
    shown? collections inside depth value = none ↔ ShowsLong collections inside value := by
  induction depth generalizing inside value with
  | zero =>
    have few := nodup.length_le_of_subset known
    rw [List.length_map] at few
    omega
  | succ depth ih =>
    cases value with
    | scalar scalar =>
      rw [shown?_scalar, Scalar.shown?_eq_none_iff, showsLong_scalar_iff]
    | collection id =>
      rw [shown?, showsLong_collection_iff]
      cases found : collections.lookup id with
      | none => simp
      | some contents =>
        by_cases around : id ∈ inside
        · simp [around]
        -- The collection is one more around its parts, and was not around before.
        have member : id ∈ collections.map (·.1) := by
          obtain ⟨before, after, rfl, -⟩ := List.lookup_eq_some_iff.1 found
          simp
        have parts (part : Value) : shown? collections (id :: inside) depth part = none ↔
            ShowsLong collections (id :: inside) part :=
          ih (nodup.cons around) (List.cons_subset.2 ⟨member, known⟩)
            (by rw [List.length_cons]; omega)
        simp only [List.contains_iff_mem, around, if_false]
        rw [Contents.render?_eq_none_iff (shown?_scalar depth)]
        simp [parts]

/-- Every value can be shown on its own but those that show a number with too many digits. -/
theorem toText?_eq_none_iff :
    value.toText? collections = none ↔ value.ShowsLong collections [] := by
  cases value with
  | scalar scalar =>
    rw [toText?, Scalar.toText?_eq_none_iff, showsLong_scalar_iff]
  | collection id =>
    exact shown?_eq_none_iff List.nodup_nil (List.nil_subset _) (by simp)

end Value

end SnippetMarkup.Yaml
