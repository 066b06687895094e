import Mathlib
import SnippetMarkup.Proofs.Lookup
import SnippetMarkup.Proofs.Reference.Calls

/-!
# Stores as tables

A store can also be kept as the list of its references, with a table from references to their ids
and one from ids to their references beside it.  Tables that are called like a store from the start
on answer what the store answers, and hold its entries after every call.  So the list and the two
tables stay in step.
-/

namespace SnippetMarkup

/-- References in the order in which they are stored, and a table for each direction. -/
structure StoreTables where
  idPrefix : Text := ['r', 'e', 'f', '-']
  references : List Text := []
  ids : TextTable := []
  byId : TextTable := []

namespace StoreTables

/-! ## Calls -/

def put (tables : StoreTables) (reference : Text) : Text × StoreTables :=
  match tables.ids.lookup reference with
  | some id => (id, tables)
  | none =>
    let id := tables.idPrefix ++ Text.ofNat tables.references.length
    (id, { tables with
      references := tables.references ++ [reference]
      ids := tables.ids.put reference id
      byId := tables.byId.put id reference })

def get? (tables : StoreTables) (id : Text) : Option Text := tables.byId.lookup id

/-- What is answered to a call, and the tables after it. -/
def answer (tables : StoreTables) : StoreCall → Option Text × StoreTables
  | .put reference => (some (tables.put reference).1, (tables.put reference).2)
  | .get id => (tables.get? id, tables)

def afterCalls (tables : StoreTables) (calls : List StoreCall) : StoreTables :=
  calls.foldl (fun tables call => (tables.answer call).2) tables

/-- Some calls in turn, each with what is answered to it. -/
def log (tables : StoreTables) : List StoreCall → List (StoreCall × Option Text)
  | [] => []
  | call :: rest => (call, (tables.answer call).1) :: log (tables.answer call).2 rest

/-! ## The tables of a store -/

/-- The entries of a store as tables. -/
def ofStore (store : ReferenceStore) : StoreTables where
  idPrefix := store.idPrefix
  references := store.references
  ids := store.entries.map fun entry => (entry.reference, entry.id)
  byId := store.entries.map fun entry => (entry.id, entry.reference)

variable {store : ReferenceStore} {reference : Text}

theorem lookup_map (key value : StoredReference → Text) (entries : List StoredReference)
    (wanted : Text) :
    (entries.map fun entry => (key entry, value entry)).lookup wanted =
      (entries.find? fun entry => key entry == wanted).map value := by
  induction entries with
  | nil => rfl
  | cons entry rest ih =>
    rw [List.map_cons, lookup_cons_eq_ite, List.find?_cons, ih]
    by_cases here : wanted = key entry
    · simp [here]
    · simp [here, beq_false_of_ne (Ne.symm here)]

theorem lookup_ids (store : ReferenceStore) (reference : Text) :
    (ofStore store).ids.lookup reference = store.idOf? reference :=
  lookup_map (·.reference) (·.id) store.entries reference

theorem lookup_byId (store : ReferenceStore) (id : Text) :
    (ofStore store).byId.lookup id = store.get? id :=
  lookup_map (·.id) (·.reference) store.entries id

end StoreTables

/-- The next id leads to nothing yet. -/
theorem ReferenceStore.Numbered.get?_nextId {store : ReferenceStore} (numbered : store.Numbered) :
    store.get? store.nextId = none := by
  rw [Option.eq_none_iff_forall_ne_some]
  intro reference found
  obtain ⟨number, same, there⟩ :=
    numbered.mem_entries_iff.1 (numbered.get?_eq_some_iff_mem.1 found)
  obtain rfl : store.size = number := ofNat_injective (List.append_cancel_left same)
  simp [references, size] at there

namespace StoreTables

variable {store : ReferenceStore} {reference : Text}

theorem put_ofStore (numbered : store.Numbered) (reference : Text) :
    (ofStore store).put reference =
      ((store.put reference).1, ofStore (store.put reference).2) := by
  rw [put, lookup_ids, ReferenceStore.put]
  cases stored : store.idOf? reference with
  | some id => rfl
  | none =>
    have count : (ofStore store).references.length = store.size := List.length_map _
    -- Neither table has the new key, so that both grow at their ends like the list.
    have fresh : (ofStore store).ids.lookup reference = none := (lookup_ids _ _).trans stored
    have unused : (ofStore store).byId.lookup store.nextId = none :=
      (lookup_byId _ _).trans numbered.get?_nextId
    have id : (ofStore store).idPrefix ++ Text.ofNat store.size = store.nextId := rfl
    dsimp only
    rw [count, id, TextTable.put_of_lookup_eq_none fresh, TextTable.put_of_lookup_eq_none unused]
    simp [ofStore, ReferenceStore.references]

theorem answer_ofStore (numbered : store.Numbered) (call : StoreCall) :
    (ofStore store).answer call = ((store.answer call).1, ofStore (store.answer call).2) := by
  cases call with
  | put reference => rw [answer, put_ofStore numbered, ReferenceStore.answer]
  | get id => rw [answer, get?, lookup_byId, ReferenceStore.answer]

theorem numbered_answer (numbered : store.Numbered) (call : StoreCall) :
    (store.answer call).2.Numbered := by
  cases call with
  | put reference => exact numbered.put reference
  | get id => exact numbered

theorem afterCalls_ofStore (numbered : store.Numbered) (calls : List StoreCall) :
    (ofStore store).afterCalls calls = ofStore (store.afterCalls calls) := by
  induction calls generalizing store with
  | nil => rfl
  | cons call rest ih =>
    rw [afterCalls, List.foldl_cons, answer_ofStore numbered, ReferenceStore.afterCalls_cons]
    exact ih (numbered_answer numbered call)

theorem log_ofStore (numbered : store.Numbered) (calls : List StoreCall) :
    (ofStore store).log calls = store.log calls := by
  induction calls generalizing store with
  | nil => rfl
  | cons call rest ih =>
    rw [log, answer_ofStore numbered, ReferenceStore.log, ih (numbered_answer numbered call)]

/-! ## New tables -/

/-- Whatever is asked of new tables, they answer what a new store answers, and are its entries. -/
theorem new_eq_ofStore (idPrefix : Text) (calls : List StoreCall) :
    log { idPrefix } calls = ReferenceStore.log { idPrefix } calls ∧
      afterCalls { idPrefix } calls = ofStore (ReferenceStore.afterCalls { idPrefix } calls) :=
  ⟨log_ofStore (ReferenceStore.numbered_empty idPrefix) calls,
    afterCalls_ofStore (ReferenceStore.numbered_empty idPrefix) calls⟩

/-- Whatever has been asked of new tables, the references are in the list once each, one table has
them in the same order behind their numbers, and the other one is the same table turned round. -/
theorem new_inStep (idPrefix : Text) (calls : List StoreCall) :
    let tables := afterCalls { idPrefix } calls
    tables.references.Nodup ∧
      tables.byId.map (·.1) = (List.range tables.references.length).map
        (fun number => idPrefix ++ Text.ofNat number) ∧
      tables.byId.map (·.2) = tables.references ∧
      tables.ids = tables.byId.map Prod.swap := by
  intro tables
  have same : tables = ofStore (ReferenceStore.afterCalls { idPrefix } calls) :=
    (new_eq_ofStore idPrefix calls).2
  have numbered := ReferenceStore.numbered_afterCalls idPrefix calls
  rw [same]
  refine ⟨ReferenceStore.nodup_references_afterCalls idPrefix calls, ?_, ?_, ?_⟩
  · rw [ReferenceStore.Numbered, ReferenceStore.idPrefix_afterCalls] at numbered
    simpa [ofStore, ReferenceStore.references, ReferenceStore.size, Function.comp_def]
      using numbered
  · simp [ofStore, ReferenceStore.references]
  · simp [ofStore]

end StoreTables

end SnippetMarkup
