import Mathlib
import SnippetMarkup.Proofs.Reference.Store

/-!
# Stores under calls

References are stored and asked for by their ids in any order.  Whatever the calls are, references
and ids belong together one to one: the ids are the numbers of the references behind the common
beginning, a reference gets the same id whenever it is stored, and an id leads to the reference for
which it has been given out before.
-/

namespace SnippetMarkup

/-- What can be asked of a store. -/
inductive StoreCall where
  /-- Stores a reference, which is answered with its id. -/
  | put (reference : Text)
  /-- Asks for the reference with an id. -/
  | get (id : Text)

namespace ReferenceStore

variable {store : ReferenceStore} {reference id : Text} {entry : StoredReference}

/-! ## Calls -/

/-- What a store answers to a call, and the store after it. -/
def answer (store : ReferenceStore) : StoreCall → Option Text × ReferenceStore
  | .put reference => (some (store.put reference).1, (store.put reference).2)
  | .get id => (store.get? id, store)

/-- The store after some calls. -/
def afterCalls (store : ReferenceStore) (calls : List StoreCall) : ReferenceStore :=
  calls.foldl (fun store call => (store.answer call).2) store

/-- Some calls in turn, each with what is answered to it. -/
def log (store : ReferenceStore) : List StoreCall → List (StoreCall × Option Text)
  | [] => []
  | call :: rest => (call, (store.answer call).1) :: log (store.answer call).2 rest

theorem afterCalls_cons (store : ReferenceStore) (call : StoreCall) (rest : List StoreCall) :
    store.afterCalls (call :: rest) = (store.answer call).2.afterCalls rest := rfl

theorem afterCalls_append (store : ReferenceStore) (calls more : List StoreCall) :
    store.afterCalls (calls ++ more) = (store.afterCalls calls).afterCalls more :=
  List.foldl_append

theorem afterCalls_keeps {motive : ReferenceStore → Prop}
    (puts : ∀ store reference, motive store → motive (store.put reference).2)
    (calls : List StoreCall) (holds : motive store) : motive (store.afterCalls calls) := by
  induction calls generalizing store with
  | nil => exact holds
  | cons call rest ih =>
    rw [afterCalls_cons]
    cases call with
    | put reference => exact ih (puts store reference holds)
    | get id => exact ih holds

/-- What stands in a log is answered by the store after the calls before. -/
theorem of_log_eq_append {calls : List StoreCall} {early late : List (StoreCall × Option Text)}
    {call : StoreCall} {answer : Option Text}
    (logged : store.log calls = early ++ (call, answer) :: late) :
    ∃ before, early = store.log before ∧ answer = ((store.afterCalls before).answer call).1 := by
  induction early generalizing store calls with
  | nil =>
    cases calls with
    | nil => cases logged
    | cons first rest =>
      rw [log, List.nil_append] at logged
      obtain ⟨rfl, rfl⟩ := Prod.mk.inj (List.cons.inj logged).1
      exact ⟨[], rfl, rfl⟩
  | cons first early ih =>
    cases calls with
    | nil => cases logged
    | cons call rest =>
      rw [log, List.cons_append] at logged
      obtain ⟨rfl, later⟩ := List.cons.inj logged
      obtain ⟨before, rfl, rfl⟩ := ih later
      exact ⟨call :: before, rfl, rfl⟩

/-! ## Entries -/

theorem mem_entries_put :
    entry ∈ (store.put reference).2.entries ↔
      entry ∈ store.entries ∨ entry = ⟨(store.put reference).1, reference⟩ := by
  cases stored : store.idOf? reference with
  | some id =>
    rw [put_of_idOf? stored]
    constructor
    · exact .inl
    · rintro (member | rfl)
      · exact member
      · exact mem_entries_of_idOf? stored
  | none => simp [put, stored]

/-- The entries of a store are those that it had, and what has been put into it. -/
theorem mem_entries_afterCalls {calls : List StoreCall} :
    entry ∈ (store.afterCalls calls).entries ↔
      entry ∈ store.entries ∨ (.put entry.reference, some entry.id) ∈ store.log calls := by
  induction calls generalizing store with
  | nil => simp [afterCalls, log]
  | cons call rest ih =>
    rw [afterCalls_cons, ih, log, List.mem_cons]
    cases call with
    | get id => simp [answer]
    | put reference =>
      have same : entry = ⟨(store.put reference).1, reference⟩ ↔
          (StoreCall.put entry.reference, some entry.id) =
            (StoreCall.put reference, some (store.put reference).1) := by
        obtain ⟨id, other⟩ := entry
        simp [and_comm]
      show entry ∈ (store.put reference).2.entries ∨ _ ↔ _
      rw [mem_entries_put, same, or_assoc]
      rfl

/-- The ids of a numbered store tell where in the store a reference is. -/
theorem Numbered.mem_entries_iff (numbered : store.Numbered) :
    ⟨id, reference⟩ ∈ store.entries ↔
      ∃ number, id = store.idPrefix ++ Text.ofNat number ∧
        store.references[number]? = some reference := by
  have id_of {number : Nat} {entry : StoredReference}
      (there : store.entries[number]? = some entry) :
      entry.id = store.idPrefix ++ Text.ofNat number := by
    have ids := congrArg (fun ids => ids[number]?) numbered
    have inside : number < store.size := (List.getElem?_eq_some_iff.1 there).1
    simpa [there, inside] using ids
  constructor
  · intro member
    obtain ⟨number, there⟩ := List.mem_iff_getElem?.1 member
    exact ⟨number, id_of there, by simp [references, there]⟩
  · rintro ⟨number, rfl, there⟩
    rw [references, List.getElem?_map, Option.map_eq_some_iff] at there
    obtain ⟨entry, there, rfl⟩ := there
    rw [← id_of there]
    exact List.mem_of_getElem? there

theorem idOf?_eq_some_iff_mem (distinct : store.references.Nodup) :
    store.idOf? reference = some id ↔ ⟨id, reference⟩ ∈ store.entries := by
  constructor
  · exact mem_entries_of_idOf?
  · exact fun member => (map_find?_eq_some_iff distinct).2 ⟨_, member, rfl, rfl⟩

/-! ## New stores -/

theorem nodup_references_put (distinct : store.references.Nodup) (reference : Text) :
    (store.put reference).2.references.Nodup := by
  rw [references_put]
  split
  · exact distinct
  · next fresh =>
    rw [← List.concat_eq_append]
    exact distinct.concat fresh

/-- References are stored behind those that are there. -/
theorem references_prefix_put (store : ReferenceStore) (reference : Text) :
    store.references <+: (store.put reference).2.references := by
  rw [references_put]
  split
  · exact List.prefix_rfl
  · exact List.prefix_append _ _

theorem references_prefix_afterCalls (store : ReferenceStore) (calls : List StoreCall) :
    store.references <+: (store.afterCalls calls).references :=
  afterCalls_keeps (motive := fun later => store.references <+: later.references)
    (fun later reference behind => behind.trans (references_prefix_put later reference)) calls
    List.prefix_rfl

theorem idPrefix_put (store : ReferenceStore) (reference : Text) :
    (store.put reference).2.idPrefix = store.idPrefix := by
  unfold put
  cases store.idOf? reference <;> rfl

theorem idPrefix_afterCalls (store : ReferenceStore) (calls : List StoreCall) :
    (store.afterCalls calls).idPrefix = store.idPrefix :=
  afterCalls_keeps (motive := fun later => later.idPrefix = store.idPrefix)
    (fun later reference same => (idPrefix_put later reference).trans same) calls rfl

theorem numbered_afterCalls (idPrefix : Text) (calls : List StoreCall) :
    (afterCalls { idPrefix } calls).Numbered :=
  afterCalls_keeps (fun _ reference numbered => numbered.put reference) calls
    (numbered_empty idPrefix)

theorem nodup_references_afterCalls (idPrefix : Text) (calls : List StoreCall) :
    (afterCalls { idPrefix } calls).references.Nodup :=
  afterCalls_keeps (motive := fun later => later.references.Nodup)
    (fun _ reference distinct => nodup_references_put distinct reference) calls List.nodup_nil

/-- A new store holds what has been put into it, under the ids that have been answered. -/
theorem mem_entries_new {idPrefix : Text} {calls : List StoreCall} :
    ⟨id, reference⟩ ∈ (afterCalls { idPrefix } calls).entries ↔
      (.put reference, some id) ∈ log { idPrefix } calls := by
  rw [mem_entries_afterCalls]
  simp

theorem exists_id_of_mem_log {calls : List StoreCall} {answer : Option Text}
    (logged : (.put reference, answer) ∈ store.log calls) : ∃ id, answer = some id := by
  obtain ⟨early, late, cut⟩ := List.append_of_mem logged
  obtain ⟨before, -, rfl⟩ := of_log_eq_append cut
  exact ⟨_, rfl⟩

/-- References and ids belong together one to one, whatever has been asked of a store that was new.
The references are held once each, in the order in which they were stored, and the id of each is its
number behind the common beginning.  A reference gets the same id whenever it is stored, different
references get different ids, and an id leads to the reference for which it was answered before, or
to none if it never was. -/
theorem afterCalls_bijective (idPrefix : Text) (calls : List StoreCall) :
    (afterCalls { idPrefix } calls).references.Nodup ∧
      (∀ more, (afterCalls { idPrefix } calls).references <+:
        (afterCalls { idPrefix } (calls ++ more)).references) ∧
      (∀ reference id, (afterCalls { idPrefix } calls).idOf? reference = some id ↔
        (afterCalls { idPrefix } calls).get? id = some reference) ∧
      (∀ id reference, (afterCalls { idPrefix } calls).get? id = some reference ↔
        ∃ number, id = idPrefix ++ Text.ofNat number ∧
          (afterCalls { idPrefix } calls).references[number]? = some reference) ∧
      (∀ reference answer, (.put reference, answer) ∈ log { idPrefix } calls →
        ∃ id, answer = some id) ∧
      (∀ first second firstId secondId, (.put first, some firstId) ∈ log { idPrefix } calls →
        (.put second, some secondId) ∈ log { idPrefix } calls →
        (firstId = secondId ↔ first = second)) ∧
      ∀ early late id answer, log { idPrefix } calls = early ++ (.get id, answer) :: late →
        ∀ reference, answer = some reference ↔ (.put reference, some id) ∈ early := by
  have numbered := numbered_afterCalls idPrefix calls
  have distinct := nodup_references_afterCalls idPrefix calls
  refine ⟨distinct, ?grows, ?inverse, ?counted, ?answered, ?same, ?found⟩
  case grows =>
    intro more
    rw [afterCalls_append]
    exact references_prefix_afterCalls _ more
  case inverse =>
    intro reference id
    rw [idOf?_eq_some_iff_mem distinct, numbered.get?_eq_some_iff_mem]
  case counted =>
    intro id reference
    rw [numbered.get?_eq_some_iff_mem, numbered.mem_entries_iff, idPrefix_afterCalls]
  case answered =>
    intro reference answer logged
    exact exists_id_of_mem_log logged
  case same =>
    intro first second firstId secondId logged loggedToo
    rw [← mem_entries_new] at logged loggedToo
    constructor
    · rintro rfl
      -- Both are what the id leads to.
      have found := numbered.get?_eq_some_iff_mem.2 logged
      rw [numbered.get?_eq_some_iff_mem.2 loggedToo] at found
      exact (Option.some.inj found).symm
    · rintro rfl
      have stored := (idOf?_eq_some_iff_mem distinct).2 logged
      rw [(idOf?_eq_some_iff_mem distinct).2 loggedToo] at stored
      exact (Option.some.inj stored).symm
  case found =>
    intro early late id answer logged reference
    obtain ⟨before, rfl, rfl⟩ := of_log_eq_append logged
    show (afterCalls _ before).get? id = some reference ↔ _
    rw [(numbered_afterCalls idPrefix before).get?_eq_some_iff_mem, mem_entries_new]

/-- A reference that is stored again between two others, and an id that is asked for. -/
theorem afterCalls_bijective_again :
    log { idPrefix := ['i'] } [.put ['a'], .put ['b'], .put ['a'], .get ['i', '1']] =
        [(.put ['a'], some ['i', '0']), (.put ['b'], some ['i', '1']),
          (.put ['a'], some ['i', '0']), (.get ['i', '1'], some ['b'])] ∧
      (['i', '0'] = ['i', '1'] ↔ ['a'] = ['b']) ∧
      (some ['b'] = some ['b'] ↔
        (.put ['b'], some ['i', '1']) ∈ [(.put ['a'], some ['i', '0']),
          (.put ['b'], some ['i', '1']), (StoreCall.put ['a'], some ['i', '0'])]) := by
  have logged : log { idPrefix := ['i'] } [.put ['a'], .put ['b'], .put ['a'], .get ['i', '1']] =
      [(.put ['a'], some ['i', '0']), (.put ['b'], some ['i', '1']),
        (.put ['a'], some ['i', '0']), (.get ['i', '1'], some ['b'])] := rfl
  obtain ⟨-, -, -, -, -, same, found⟩ :=
    afterCalls_bijective ['i'] [.put ['a'], .put ['b'], .put ['a'], .get ['i', '1']]
  refine ⟨logged, same _ _ _ _ ?_ ?_, found _ [] _ _ logged _⟩
  · rw [logged]
    exact List.mem_cons_self
  · rw [logged]
    exact List.mem_cons_of_mem _ List.mem_cons_self

end ReferenceStore

end SnippetMarkup
