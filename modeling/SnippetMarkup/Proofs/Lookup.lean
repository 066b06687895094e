import Mathlib
import SnippetMarkup.Text.Table

/-!
# Entries that replace others

An entry that is put behind all entries with another key is the one that is found under its key,
and under every other key nothing changes.  So it is with a text that is put into a table, which has
each key once.
-/

namespace SnippetMarkup

variable {α β : Type} [DecidableEq α] [BEq α] [LawfulBEq α] {key : α}

theorem lookup_cons_eq_ite (entries : List (α × β)) (value : β) (name : α) :
    ((key, value) :: entries).lookup name =
      if name = key then some value else entries.lookup name := by
  rw [List.lookup_cons]
  by_cases same : name = key
  · simp [same]
  · simp [same, beq_false_of_ne same]

theorem lookup_filter_append {keep : α × β → Bool}
    (others : ∀ entry, keep entry = true ↔ entry.1 ≠ key) (entries : List (α × β)) (value : β)
    (name : α) :
    (entries.filter keep ++ [(key, value)]).lookup name =
      if name = key then some value else entries.lookup name := by
  induction entries with
  | nil => exact lookup_cons_eq_ite [] value name
  | cons entry rest ih =>
    obtain ⟨other, found⟩ := entry
    by_cases replaced : other = key
    · -- The entry is left out, and nothing else is looked for under its key.
      have left : ¬keep (other, found) = true := fun kept => (others _).1 kept replaced
      rw [List.filter_cons_of_neg left, ih, lookup_cons_eq_ite, replaced]
      split <;> rfl
    · have kept : keep (other, found) = true := (others _).2 replaced
      rw [List.filter_cons_of_pos kept, List.cons_append, lookup_cons_eq_ite, lookup_cons_eq_ite,
        ih]
      split
      · next here => rw [if_neg (here ▸ replaced)]
      · rfl

/-! ## Tables of texts -/

namespace TextTable

variable {table : TextTable} {key value : Text}

theorem lookup_replaced (table : TextTable) (key value name : Text) :
    (table.map fun entry => if entry.1 = key then (key, value) else entry).lookup name =
      if name = key then (table.lookup key).map fun _ => value else table.lookup name := by
  induction table with
  | nil => simp
  | cons entry table ih =>
    obtain ⟨other, old⟩ := entry
    rw [List.map_cons, lookup_cons_eq_ite, lookup_cons_eq_ite]
    by_cases here : other = key
    · subst here
      rw [if_pos rfl, lookup_cons_eq_ite, ih, if_pos rfl]
      split <;> rfl
    · rw [if_neg here, lookup_cons_eq_ite, ih, if_neg (Ne.symm here)]
      by_cases named : name = other
      · rw [if_pos named, if_neg (named ▸ here), if_pos named]
      · rw [if_neg named, if_neg named]

theorem put_of_lookup_eq_none (absent : table.lookup key = none) :
    table.put key value = table ++ [(key, value)] := by
  rw [put, absent, Option.isSome_none, if_neg Bool.false_ne_true]

/-- The text that is given to a key is the one that it has from then on. -/
theorem lookup_put (table : TextTable) (key value name : Text) :
    (table.put key value).lookup name = if name = key then some value else table.lookup name := by
  cases found : table.lookup key with
  | some old =>
    rw [put, found, Option.isSome_some, if_pos rfl, lookup_replaced, found]
    rfl
  | none =>
    rw [put_of_lookup_eq_none found, List.lookup_append, lookup_cons_eq_ite, List.lookup_nil]
    by_cases named : name = key
    · rw [named, found, if_pos rfl]
      rfl
    · rw [if_neg named, if_neg named, Option.or_none]

theorem lookup_eq_none_iff_notMem : table.lookup key = none ↔ key ∉ table.map (·.1) := by
  rw [List.lookup_eq_none_iff]
  constructor
  · intro absent member
    obtain ⟨entry, inside, rfl⟩ := List.mem_map.1 member
    simpa using absent entry inside
  · intro absent entry inside
    simpa using fun same : key = entry.1 => absent (same ▸ List.mem_map_of_mem inside)

theorem nodup_put (nodup : (table.map (·.1)).Nodup) (key value : Text) :
    ((table.put key value).map (·.1)).Nodup := by
  cases found : table.lookup key with
  | some old =>
    have same : (table.put key value).map (·.1) = table.map (·.1) := by
      rw [put, found, Option.isSome_some, if_pos rfl, List.map_map]
      refine List.map_congr_left fun entry _ => ?_
      by_cases here : entry.1 = key
      · simp [here]
      · simp [here]
    rwa [same]
  | none =>
    rw [put_of_lookup_eq_none found, List.map_append]
    refine nodup.append (List.nodup_singleton _) ?_
    rw [List.map_singleton, List.disjoint_singleton]
    exact lookup_eq_none_iff_notMem.1 found

end TextTable

end SnippetMarkup
