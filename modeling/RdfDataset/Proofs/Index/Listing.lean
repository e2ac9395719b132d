import RdfDataset.Proofs.KeySet

/-!
# What indexes list

An index lists its rows, and its keys by their ids in the order of the index, strictly ascending
from left to right. The named graphs of indexes kept in step are listed in the same way; they are
the graphs of the keys, apart from the default graph. Nothing but the set of keys matters: indexes
of the same orders with the same keys are equal, and so are their named graphs.
-/

set_option autoImplicit false

namespace RdfDataset.Index

open Std

/-! ## Rows -/

theorem Row.compare_eq_lt_iff (a b : Row) : compare a b = .lt ↔ a.ids < b.ids := by
  have parts : compare a b = (compare a.first b.first).then ((compare a.second b.second).then
      ((compare a.third b.third).then (compare a.fourth b.fourth))) := rfl
  have last : [a.fourth] < [b.fourth] ↔ a.fourth < b.fourth := by
    rw [List.cons_lt_cons_iff, or_iff_left fun equal => List.not_lt_nil [] equal.2]
  rw [parts, Ordering.then_eq_lt, Ordering.then_eq_lt, Ordering.then_eq_lt, Row.ids, Row.ids,
    List.cons_lt_cons_iff, List.cons_lt_cons_iff, List.cons_lt_cons_iff, last]
  simp only [compare_eq_lt, Std.compare_eq_iff_eq]

/-! ## One index -/

namespace Sorted

variable {index other : Sorted} {held : Finset Key}

theorem toList_ascending (index : Sorted) :
    index.toList.Pairwise fun a b => a.ids < b.ids :=
  index.rows.ordered_toList.imp fun {a b} less => (Row.compare_eq_lt_iff a b).mp less

theorem keys_ascending (index : Sorted) :
    index.keys.Pairwise fun a b => (index.order.row a).ids < (index.order.row b).ids := by
  rw [keys, List.pairwise_map]
  simp only [Order.row_key]
  exact index.toList_ascending

theorem Holds.eq (holds : index.Holds held) (holds' : other.Holds held)
    (same : index.order = other.order) : index = other := by
  obtain ⟨order, rows⟩ := index
  obtain ⟨order', rows'⟩ := other
  cases same
  congr
  apply ExtTreeSet.ext_mem
  intro row
  have here := holds (order.key row)
  have there := holds' (order.key row)
  simp only [Order.row_key] at here there
  rw [here, there]

end Sorted

/-! ## Indexes kept in step -/

namespace Synced

variable {synced other : Synced} {orders : List Order} {held : Finset Key}

/-- The graphs that have been named are those of the keys, the default graph left out. -/
def Names (synced : Synced) (held : Finset Key) : Prop :=
  ∀ id, id ∈ synced.graphs ↔ id ≠ ObjectId.defaultGraph ∧ ∃ key ∈ held, key.graph = id

theorem names_empty (orders : List Order) : (Synced.empty orders).Names ∅ := by
  intro id
  constructor
  · intro member
    exact absurd member ExtTreeSet.not_mem_empty
  · rintro ⟨_, key, member, _⟩
    cases member

theorem Names.insert (names : synced.Names held) (key : Key) :
    (synced.insert key).2.Names (Insert.insert key held) := by
  intro id
  rw [mem_graphs_insert, names id, ← and_or_left, Finset.exists_mem_insert, or_comm]

theorem namedGraphs_ascending (synced : Synced) : synced.namedGraphs.Pairwise (· < ·) :=
  synced.graphs.ordered_toList.imp fun less => compare_eq_lt.mp less

theorem Names.mem_namedGraphs (names : synced.Names held) {id : ObjectId} :
    id ∈ synced.namedGraphs ↔ id ≠ ObjectId.defaultGraph ∧ ∃ key ∈ held, key.graph = id := by
  rw [namedGraphs, ExtTreeSet.mem_toList]
  exact names id

theorem Holds.keys_ascending {first : Order} {rest : List Order}
    (holds : synced.Holds (first :: rest) held) :
    synced.keys.Pairwise fun a b => (first.row a).ids < (first.row b).ids := by
  obtain ⟨index, primary, order, _⟩ := holds.primary
  have listed := index.keys_ascending
  rw [order] at listed
  rw [keys, primary]
  exact listed

theorem Holds.eq (holds : synced.Holds orders held) (holds' : other.Holds orders held)
    (names : synced.Names held) (names' : other.Names held) : synced = other := by
  have indexes : synced.indexes = other.indexes := by
    apply List.ext_getElem
    · have orders := holds.orders_eq.trans holds'.orders_eq.symm
      have lengths := congrArg List.length orders
      rw [List.length_map, List.length_map] at lengths
      exact lengths
    · intro k inside inside'
      refine Sorted.Holds.eq (holds.each _ (List.getElem_mem inside))
        (holds'.each _ (List.getElem_mem inside')) ?_
      have orders := holds.orders_eq.trans holds'.orders_eq.symm
      have here := congrArg (fun orders => orders[k]?) orders
      simpa [inside, inside'] using here
  have graphs : synced.graphs = other.graphs := by
    apply ExtTreeSet.ext_mem
    intro id
    rw [names id, names' id]
  obtain ⟨_, _⟩ := synced
  obtain ⟨_, _⟩ := other
  cases indexes
  cases graphs
  rfl

end Synced

end RdfDataset.Index
