import Mathlib
import SnippetMarkup.Reference.Store

/-!
# Stores that grow

A reference that is stored keeps its id.  Two stores agree if the references that both of them
hold have the same ids in both; stores that do not agree never do so again.  A store that was empty
once holds each reference that has been stored in it once, in the order in which they were first
stored, and leads from the id that a reference got back to the reference.
-/

namespace SnippetMarkup.ReferenceStore

variable {store first second third : ReferenceStore} {reference other id : Text}

theorem idOf?_put (store : ReferenceStore) (reference : Text) :
    (store.put reference).2.idOf? reference = some (store.put reference).1 := by
  unfold put
  cases found : store.idOf? reference with
  | some id => exact found
  | none =>
    simp only [idOf?, Option.map_eq_none_iff] at found
    simp [idOf?, List.find?_append, found]

theorem put_of_idOf? (stored : store.idOf? reference = some id) :
    store.put reference = (id, store) := by
  rw [put, stored]

/-- The references of one store are in another with the same ids. -/
def Extends (first second : ReferenceStore) : Prop :=
  ∀ reference id, first.idOf? reference = some id → second.idOf? reference = some id

theorem Extends.refl (store : ReferenceStore) : Extends store store := fun _ _ stored => stored

theorem Extends.trans (early : Extends first second) (late : Extends second third) :
    Extends first third :=
  fun reference id stored => late reference id (early reference id stored)

theorem extends_put (store : ReferenceStore) (reference : Text) :
    Extends store (store.put reference).2 := by
  intro known id stored
  unfold put
  cases found : store.idOf? reference with
  | some _ => exact stored
  | none =>
    obtain ⟨entry, hit, named⟩ := Option.map_eq_some_iff.1 stored
    simp [idOf?, List.find?_append, hit, named]

/-- A reference that both stores hold has the same id in both. -/
def Agree (first second : ReferenceStore) : Prop :=
  ∀ reference id other, first.idOf? reference = some id → second.idOf? reference = some other →
    id = other

/-- Stores agree if those that grow from them do. -/
theorem Agree.of_extends {grown grownToo : ReferenceStore} (agree : Agree grown grownToo)
    (early : Extends first grown) (earlyToo : Extends second grownToo) : Agree first second :=
  fun reference id other stored storedToo =>
    agree reference id other (early reference id stored) (earlyToo reference other storedToo)

/-- Stores that agree after a reference has been stored in both gave it the same id. -/
theorem Agree.put_eq (agree : Agree (first.put reference).2 (second.put reference).2) :
    (first.put reference).1 = (second.put reference).1 :=
  agree reference _ _ (idOf?_put first reference) (idOf?_put second reference)

/-! ## Storing some references -/

/-- The store after some references have been stored in turn. -/
def putAll (store : ReferenceStore) (references : List Text) : ReferenceStore :=
  references.foldl (fun store reference => (store.put reference).2) store

theorem putAll_append (store : ReferenceStore) (early late : List Text) :
    store.putAll (early ++ late) = (store.putAll early).putAll late :=
  List.foldl_append

theorem putAll_keeps {motive : ReferenceStore → Prop}
    (puts : ∀ store reference, motive store → motive (store.put reference).2)
    (references : List Text) (holds : motive store) : motive (store.putAll references) := by
  induction references generalizing store with
  | nil => exact holds
  | cons reference rest ih => exact ih (puts store reference holds)

theorem extends_putAll (store : ReferenceStore) (references : List Text) :
    Extends store (store.putAll references) :=
  putAll_keeps (fun grown reference grows => grows.trans (extends_put grown reference)) references
    (.refl store)

theorem idOf?_eq_none_iff : store.idOf? reference = none ↔ reference ∉ store.references := by
  simp [idOf?, references]

theorem references_put (store : ReferenceStore) (reference : Text) :
    (store.put reference).2.references =
      if reference ∈ store.references then store.references
      else store.references ++ [reference] := by
  unfold put
  cases found : store.idOf? reference with
  | some id =>
    have held : reference ∈ store.references := by
      by_contra missing
      simp [idOf?_eq_none_iff.2 missing] at found
    rw [if_pos held]
  | none =>
    rw [if_neg (idOf?_eq_none_iff.1 found)]
    simp [references]

/-- The ids count the entries, the oldest first. -/
def Numbered (store : ReferenceStore) : Prop :=
  store.entries.map (·.id) =
    (List.range store.size).map fun number => store.idPrefix ++ Text.ofNat number

theorem numbered_empty (idPrefix : Text) : Numbered { idPrefix := idPrefix } := rfl

theorem Numbered.put (numbered : store.Numbered) (reference : Text) :
    (store.put reference).2.Numbered := by
  unfold ReferenceStore.put
  cases store.idOf? reference with
  | some id => exact numbered
  | none =>
    simp only [Numbered, size, nextId, List.map_append, List.length_append, List.length_singleton,
      List.range_succ] at numbered ⊢
    rw [numbered]
    rfl

theorem Numbered.putAll (numbered : store.Numbered) (references : List Text) :
    (store.putAll references).Numbered :=
  putAll_keeps (fun _ reference holds => holds.put reference) references numbered

theorem ofNat_injective : Function.Injective Text.ofNat := by
  intro first second same
  rw [← Nat.ofDigitChars_ten_toDigits (n := first), ← Nat.ofDigitChars_ten_toDigits (n := second)]
  exact congrArg (Nat.ofDigitChars 10 · 0) same

theorem Numbered.nodup (numbered : store.Numbered) : (store.entries.map (·.id)).Nodup := by
  rw [numbered]
  refine List.Nodup.map (fun first second same => ?_) List.nodup_range
  exact ofNat_injective (List.append_cancel_left same)

/-- What an entry holds is found by its key if no other entry has the same. -/
theorem map_find?_eq_some_iff {entries : List StoredReference} {key value : StoredReference → Text}
    (distinct : (entries.map key).Nodup) {wanted found : Text} :
    (entries.find? (fun entry => key entry == wanted)).map value = some found ↔
      ∃ entry ∈ entries, key entry = wanted ∧ value entry = found := by
  rw [Option.map_eq_some_iff]
  constructor
  · rintro ⟨entry, hit, same⟩
    exact ⟨entry, List.mem_of_find?_eq_some hit, by simpa using List.find?_some hit, same⟩
  · rintro ⟨entry, member, rfl, same⟩
    obtain ⟨hit, found⟩ : ∃ hit, entries.find? (fun other => key other == key entry) = some hit :=
      Option.isSome_iff_exists.1 (List.find?_isSome.2 ⟨entry, member, by simp⟩)
    obtain rfl : hit = entry :=
      List.inj_on_of_nodup_map distinct (List.mem_of_find?_eq_some found) member
        (by simpa using List.find?_some found)
    exact ⟨hit, found, same⟩

theorem mem_entries_of_idOf? (stored : store.idOf? reference = some id) :
    ⟨id, reference⟩ ∈ store.entries := by
  obtain ⟨entry, found, rfl⟩ := Option.map_eq_some_iff.1 stored
  have named : entry.reference = reference := by simpa using List.find?_some found
  exact named ▸ List.mem_of_find?_eq_some found

theorem Numbered.get?_eq_some_iff_mem (numbered : store.Numbered) :
    store.get? id = some reference ↔ ⟨id, reference⟩ ∈ store.entries := by
  rw [get?, map_find?_eq_some_iff numbered.nodup]
  constructor
  · rintro ⟨⟨_, _⟩, member, rfl, rfl⟩
    exact member
  · exact fun member => ⟨_, member, rfl, rfl⟩

/-- No id has a line feed in it, nor has what the ids to come begin with. -/
def OneLine (store : ReferenceStore) : Prop :=
  '\n' ∉ store.idPrefix ∧ ∀ entry ∈ store.entries, '\n' ∉ entry.id

instance : DecidablePred OneLine := fun _ => inferInstanceAs (Decidable (_ ∧ _))

theorem lineFeed_notMem_ofNat (number : Nat) : '\n' ∉ Text.ofNat number := fun member =>
  absurd (Nat.isDigit_of_mem_toDigits (by decide) (by decide) member) (by decide)

theorem OneLine.nextId (oneLine : store.OneLine) : '\n' ∉ store.nextId := by
  rw [ReferenceStore.nextId, List.mem_append, not_or]
  exact ⟨oneLine.1, lineFeed_notMem_ofNat store.size⟩

theorem OneLine.put (oneLine : store.OneLine) (reference : Text) :
    '\n' ∉ (store.put reference).1 ∧ (store.put reference).2.OneLine := by
  unfold ReferenceStore.put
  cases stored : store.idOf? reference with
  | some id =>
    obtain ⟨entry, hit, rfl⟩ := Option.map_eq_some_iff.1 stored
    exact ⟨oneLine.2 entry (List.mem_of_find?_eq_some hit), oneLine⟩
  | none =>
    refine ⟨oneLine.nextId, oneLine.1, ?_⟩
    simpa [or_imp, forall_and] using And.intro oneLine.2 oneLine.nextId

theorem OneLine.putAll (oneLine : store.OneLine) (references : List Text) :
    (store.putAll references).OneLine :=
  putAll_keeps (fun _ reference holds => (holds.put reference).2) references oneLine

end SnippetMarkup.ReferenceStore
