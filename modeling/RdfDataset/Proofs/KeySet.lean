import Mathlib.Data.Finset.Card
import RdfDataset.KeySet

/-!
# Key sets are sets of keys

`Holds` relates an index, several indexes kept in step, and the key set of a dataset to the finite
set of the keys that they have been given. Insertion adds one key to that set, and what they are
asked afterwards they answer from it.
-/

set_option autoImplicit false

namespace RdfDataset

namespace Index

/-! ## One index -/

/-- The rows of the index are those of the keys. -/
def Sorted.Holds (index : Sorted) (held : Finset Key) : Prop :=
  ∀ key, index.order.row key ∈ index.rows ↔ key ∈ held

namespace Sorted

variable {index : Sorted} {held : Finset Key}

theorem holds_empty (order : Order) : (Sorted.empty order).Holds ∅ := by
  intro key
  constructor
  · intro member
    exact absurd member Std.ExtTreeSet.not_mem_empty
  · intro member
    cases member

theorem mem_insert {new row : Row} :
    row ∈ (index.insert new).2.rows ↔ new = row ∨ row ∈ index.rows := by
  have inserted : row ∈ index.rows.insert new ↔ _ := Std.ExtTreeSet.mem_insert
  rw [Std.compare_eq_iff_eq] at inserted
  exact inserted

theorem mem_insertKey {key : Key} {row : Row} :
    row ∈ (index.insertKey key).2.rows ↔ index.order.row key = row ∨ row ∈ index.rows :=
  mem_insert

theorem Holds.insertKey (holds : index.Holds held) (key : Key) :
    (index.insertKey key).2.Holds (Insert.insert key held) := by
  intro other
  have same : index.order.row key = index.order.row other ↔ other = key := by
    constructor
    · intro equal
      have rows := congrArg index.order.key equal
      rw [Order.key_row, Order.key_row] at rows
      exact rows.symm
    · rintro rfl
      rfl
  rw [Finset.mem_insert, ← holds other, ← same]
  exact mem_insertKey

theorem Holds.contains_iff (holds : index.Holds held) (key : Key) :
    index.contains (index.order.row key) = true ↔ key ∈ held := by
  rw [contains, Std.ExtTreeSet.contains_iff_mem]
  exact holds key

theorem mem_toList {row : Row} : row ∈ index.toList ↔ row ∈ index.rows :=
  Std.ExtTreeSet.mem_toList

theorem mem_keys {key : Key} : key ∈ index.keys ↔ index.order.row key ∈ index.rows := by
  rw [keys, List.mem_map]
  constructor
  · rintro ⟨row, member, rfl⟩
    rw [Order.row_key]
    exact mem_toList.mp member
  · intro member
    exact ⟨index.order.row key, mem_toList.mpr member, index.order.key_row key⟩

theorem Holds.mem_keys (holds : index.Holds held) {key : Key} : key ∈ index.keys ↔ key ∈ held :=
  Sorted.mem_keys.trans (holds key)

theorem nodup_toList (index : Sorted) : index.toList.Nodup := by
  refine index.rows.distinct_toList.imp ?_
  rintro row other apart rfl
  exact apart Std.ReflOrd.compare_self

theorem size_eq_length (index : Sorted) : index.size = index.toList.length := by
  rw [toList, Std.ExtTreeSet.length_toList]
  rfl

theorem nodup_keys (index : Sorted) : index.keys.Nodup := by
  refine index.nodup_toList.map ?_
  intro row other same
  have rows := congrArg index.order.row same
  rw [Order.row_key, Order.row_key] at rows
  exact rows

theorem Holds.size_eq (holds : index.Holds held) : index.size = held.card := by
  have length : index.size = index.keys.length := by
    rw [keys, List.length_map, size_eq_length]
  have same : index.keys.toFinset = held := by
    ext key
    rw [List.mem_toFinset, holds.mem_keys]
  rw [length, ← same, List.toFinset_card_of_nodup index.nodup_keys]

end Sorted

/-! ## Indexes kept in step -/

namespace Synced

variable {synced : Synced} {orders : List Order} {held : Finset Key}

/-- There is one index for each of the orders, and each of them holds the keys. -/
structure Holds (synced : Synced) (orders : List Order) (held : Finset Key) : Prop where
  orders_eq : synced.indexes.map Sorted.order = orders
  each : ∀ index ∈ synced.indexes, index.Holds held

theorem holds_empty (orders : List Order) : (Synced.empty orders).Holds orders ∅ := by
  constructor
  · rw [Synced.empty, List.map_map]
    exact List.map_id orders
  · intro index member
    obtain ⟨order, _, rfl⟩ := List.mem_map.mp member
    exact Sorted.holds_empty order

theorem indexes_insert (synced : Synced) (key : Key) :
    (synced.insert key).2.indexes = synced.indexes.map fun index => (index.insertKey key).2 := by
  rw [Synced.insert, insertInto, List.map_map]
  rfl

theorem mem_graphs_insert {key : Key} {id : ObjectId} : id ∈ (synced.insert key).2.graphs ↔
    id ∈ synced.graphs ∨ id ≠ ObjectId.defaultGraph ∧ key.graph = id := by
  rw [Synced.insert]
  by_cases plain : key.isInDefaultGraph = true
  · have zero : key.graph = ObjectId.defaultGraph := beq_iff_eq.mp plain
    rw [if_pos plain, or_iff_left]
    rintro ⟨nonzero, rfl⟩
    exact nonzero zero
  · have nonzero : key.graph ≠ ObjectId.defaultGraph := fun zero => plain (beq_iff_eq.mpr zero)
    rw [if_neg plain, Std.ExtTreeSet.mem_insert, Std.compare_eq_iff_eq, or_comm]
    refine or_congr Iff.rfl ⟨?_, And.right⟩
    rintro rfl
    exact ⟨nonzero, rfl⟩

theorem Holds.insert (holds : synced.Holds orders held) (key : Key) :
    (synced.insert key).2.Holds orders (Insert.insert key held) := by
  constructor
  · rw [indexes_insert, List.map_map, ← holds.orders_eq]
    rfl
  · intro index member
    rw [indexes_insert] at member
    obtain ⟨before, inside, rfl⟩ := List.mem_map.mp member
    exact (holds.each before inside).insertKey key

/-! What is asked is answered by the first index. -/

section Answers

variable {first : Order} {rest : List Order}

theorem Holds.primary (holds : synced.Holds (first :: rest) held) :
    ∃ index, synced.primary? = some index ∧ index.order = first ∧ index.Holds held := by
  have orders := holds.orders_eq
  cases split : synced.indexes with
  | nil => simp [split] at orders
  | cons index more =>
      rw [split, List.map_cons] at orders
      refine ⟨index, ?_, (List.cons.inj orders).1, holds.each index (by simp [split])⟩
      rw [primary?, split]
      rfl

theorem Holds.mem_keys (holds : synced.Holds (first :: rest) held) {key : Key} :
    key ∈ synced.keys ↔ key ∈ held := by
  obtain ⟨index, primary, _, here⟩ := holds.primary
  rw [keys, primary]
  exact here.mem_keys

theorem Holds.size_eq (holds : synced.Holds (first :: rest) held) : synced.size = held.card := by
  obtain ⟨index, primary, _, here⟩ := holds.primary
  rw [size, primary]
  exact here.size_eq

theorem Holds.contains_iff (holds : synced.Holds (first :: rest) held) (key : Key) :
    synced.contains key = true ↔ key ∈ held := by
  obtain ⟨index, primary, _, here⟩ := holds.primary
  rw [contains, primary]
  exact here.contains_iff key

end Answers

end Synced

end Index

/-! ## The key set of a dataset -/

namespace KeySet

variable {keys : KeySet} {held : Finset Key}

/-- All three indexes hold the keys. -/
def Holds (keys : KeySet) (held : Finset Key) : Prop :=
  keys.indexes.Holds [.gspo, .gpos, .gosp] held

theorem holds_empty : empty.Holds ∅ := Index.Synced.holds_empty _

theorem Holds.index (holds : keys.Holds held) {key : Key} (placed : misplaced? key = none) :
    (keys.index key).1 = .ok () ∧ (keys.index key).2.Holds (insert key held) := by
  rw [KeySet.index, placed]
  exact ⟨rfl, Index.Synced.Holds.insert holds key⟩

theorem Holds.mem_toList (holds : keys.Holds held) {key : Key} :
    key ∈ keys.toList ↔ key ∈ held :=
  Index.Synced.Holds.mem_keys holds

theorem Holds.size_eq (holds : keys.Holds held) : keys.size = held.card :=
  Index.Synced.Holds.size_eq holds

theorem Holds.contains_iff (holds : keys.Holds held) (key : Key) :
    keys.contains key = true ↔ key ∈ held :=
  Index.Synced.Holds.contains_iff holds key

end KeySet

end RdfDataset
