import RdfDataset.Proofs.Index.Listing

/-!
# Runs of indexes kept in step

Keys are inserted one after the other into indexes that start empty, one for each of some orders.
The answer to an insertion is that of the last index, while all questions are answered by the first
one; they agree because every index has all keys at every moment. Which orders are kept, and how
many, can only be seen from the order in which the keys are listed.
-/

set_option autoImplicit false

namespace RdfDataset.Index.Synced

/-- What is left of empty indexes of these orders after some insertions. -/
def after (orders : List Order) (calls : List Key) : Synced :=
  calls.foldl (fun synced key => (synced.insert key).2) (empty orders)

theorem after_concat (orders : List Order) (calls : List Key) (key : Key) :
    after orders (calls ++ [key]) = ((after orders calls).insert key).2 := by
  rw [after, List.foldl_append]
  rfl

theorem after_holds (orders : List Order) (calls : List Key) :
    (after orders calls).Holds orders calls.toFinset ∧
      (after orders calls).Names calls.toFinset := by
  induction calls using List.reverseRecOn with
  | nil => exact ⟨holds_empty orders, names_empty orders⟩
  | append_singleton calls key ih =>
      have more : (calls ++ [key]).toFinset = Insert.insert key calls.toFinset := by
        ext other
        simp
      rw [after_concat, more]
      exact ⟨ih.1.insert key, ih.2.insert key⟩

/-! ## Answers -/

section Answers

variable {synced other : Synced} {first : Order} {rest : List Order} {held : Finset Key}

theorem insert_answer (synced : Synced) (key : Key) :
    (synced.insert key).1 = ((synced.indexes.getLast?).map fun index =>
      !index.contains (index.order.row key)).getD false := by
  rw [insert, insertInto, List.getLast?_map, Option.map_map]
  rfl

/-- The last index knows a key exactly if the first one does. -/
theorem Holds.insert_answer (holds : synced.Holds (first :: rest) held) (key : Key) :
    (synced.insert key).1 = !synced.contains key := by
  cases last : synced.indexes.getLast? with
  | none =>
      have orders := holds.orders_eq
      rw [List.getLast?_eq_none_iff.mp last] at orders
      cases orders
  | some index =>
      have here := holds.each index (List.mem_of_getLast? last)
      have same : index.contains (index.order.row key) = synced.contains key := by
        rw [Bool.eq_iff_iff, here.contains_iff, holds.contains_iff]
      rw [Synced.insert_answer, last, ← same]
      rfl

theorem Holds.size_insert (holds : synced.Holds (first :: rest) held) (key : Key) :
    (synced.insert key).2.size = synced.size + if (synced.insert key).1 then 1 else 0 := by
  rw [(holds.insert key).size_eq, holds.size_eq, holds.insert_answer key]
  by_cases known : key ∈ held
  · have contained := (holds.contains_iff key).mpr known
    rw [Finset.insert_eq_of_mem known, contained]
    rfl
  · have missing : synced.contains key = false := by
      rw [Bool.eq_false_iff]
      exact fun contained => known ((holds.contains_iff key).mp contained)
    rw [Finset.card_insert_of_notMem known, missing]
    rfl

theorem Holds.nodup_keys (holds : synced.Holds (first :: rest) held) : synced.keys.Nodup := by
  obtain ⟨index, primary, _, _⟩ := holds.primary
  rw [keys, primary]
  exact index.nodup_keys

end Answers

/-! ## What a run shows -/

/-- Every index has exactly the keys that have been inserted, and all answers come from them. -/
structure Shows (synced : Synced) (first : Order) (rest : List Order) (calls : List Key) :
    Prop where
  orders_eq : synced.indexes.map Sorted.order = first :: rest
  each : ∀ index ∈ synced.indexes, ∀ key, key ∈ index.keys ↔ key ∈ calls
  contains_iff : ∀ key, synced.contains key = true ↔ key ∈ calls
  size_eq : synced.size = calls.toFinset.card
  mem_keys : ∀ key, key ∈ synced.keys ↔ key ∈ calls
  ascending : synced.keys.Pairwise fun a b => (first.row a).ids < (first.row b).ids
  graphs : ∀ id, id ∈ synced.namedGraphs ↔
    id ≠ ObjectId.defaultGraph ∧ ∃ key ∈ calls, key.graph = id
  graphs_ascending : synced.namedGraphs.Pairwise (· < ·)

theorem after_shows (first : Order) (rest : List Order) (calls : List Key) :
    (after (first :: rest) calls).Shows first rest calls := by
  obtain ⟨holds, names⟩ := after_holds (first :: rest) calls
  constructor
  · exact holds.orders_eq
  · intro index member key
    rw [(holds.each index member).mem_keys, List.mem_toFinset]
  · intro key
    rw [holds.contains_iff, List.mem_toFinset]
  · exact holds.size_eq
  · intro key
    rw [holds.mem_keys, List.mem_toFinset]
  · exact holds.keys_ascending
  · intro id
    rw [names.mem_namedGraphs]
    simp only [List.mem_toFinset]
  · exact namedGraphs_ascending _

/-- Two collections of indexes cannot be told apart but by the order of their keys. -/
structure Alike (synced other : Synced) : Prop where
  insert : ∀ key, (synced.insert key).1 = (other.insert key).1
  contains : ∀ key, synced.contains key = other.contains key
  size : synced.size = other.size
  isEmpty : synced.isEmpty = other.isEmpty
  namedGraphs : synced.namedGraphs = other.namedGraphs
  keys : synced.keys.Perm other.keys

theorem after_alike (first first' : Order) (rest rest' : List Order) (calls : List Key) :
    (after (first :: rest) calls).Alike (after (first' :: rest') calls) := by
  obtain ⟨holds, names⟩ := after_holds (first :: rest) calls
  obtain ⟨holds', names'⟩ := after_holds (first' :: rest') calls
  have contains : ∀ key, (after (first :: rest) calls).contains key =
      (after (first' :: rest') calls).contains key := by
    intro key
    rw [Bool.eq_iff_iff, holds.contains_iff, holds'.contains_iff]
  have size : (after (first :: rest) calls).size = (after (first' :: rest') calls).size :=
    holds.size_eq.trans holds'.size_eq.symm
  have graphs : (after (first :: rest) calls).graphs = (after (first' :: rest') calls).graphs := by
    apply Std.ExtTreeSet.ext_mem
    intro id
    rw [names id, names' id]
  refine ⟨?_, contains, size, ?_, ?_, ?_⟩
  · intro key
    rw [holds.insert_answer, holds'.insert_answer, contains]
  · rw [isEmpty, isEmpty, size]
  · rw [namedGraphs, namedGraphs, graphs]
  · refine (List.perm_ext_iff_of_nodup holds.nodup_keys holds'.nodup_keys).mpr ?_
    intro key
    rw [holds.mem_keys, holds'.mem_keys]

/-- At every moment of a run all indexes have the keys inserted so far. An insertion tells whether
the key was missing just before, and other orders tell the same. -/
theorem after_synced (first : Order) (rest : List Order) (calls : List Key) :
    (after (first :: rest) calls).Shows first rest calls ∧
      (∀ key, ((after (first :: rest) calls).insert key).2 =
          after (first :: rest) (calls ++ [key]) ∧
        ((after (first :: rest) calls).insert key).1 =
          !(after (first :: rest) calls).contains key ∧
        ((after (first :: rest) calls).insert key).2.size =
          (after (first :: rest) calls).size +
            if ((after (first :: rest) calls).insert key).1 then 1 else 0) ∧
      ∀ first' rest', (after (first :: rest) calls).Alike (after (first' :: rest') calls) := by
  obtain ⟨holds, _⟩ := after_holds (first :: rest) calls
  refine ⟨after_shows first rest calls, ?_, ?_⟩
  · intro key
    exact ⟨(after_concat _ calls key).symm, holds.insert_answer key, holds.size_insert key⟩
  · intro first' rest'
    exact after_alike first first' rest rest' calls

/-- Two orders list the same keys differently. -/
example :
    (after [.gspo, .gpos] [⟨1, 3, 1, 0⟩, ⟨2, 2, 1, 0⟩]).keys = [⟨1, 3, 1, 0⟩, ⟨2, 2, 1, 0⟩] ∧
      (after [.gpos] [⟨1, 3, 1, 0⟩, ⟨2, 2, 1, 0⟩]).keys = [⟨2, 2, 1, 0⟩, ⟨1, 3, 1, 0⟩] := by
  decide +kernel

end RdfDataset.Index.Synced
