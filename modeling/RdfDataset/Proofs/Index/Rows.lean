import RdfDataset.Proofs.Index.Listing

/-!
# An index as a sorted set of rows

The order of an index only moves the ids of a key to other places: the row of a key and the key of a
row undo each other, and for each order it is plain which id goes where. Rows
are inserted as they stand or as the rows of keys. Whichever way they come in, the index is the set
of these rows, lists them ascending from left to right, and tells of a new one that it is new; its
keys are listed in the lexicographic order of their components as the index arranges them.
-/

set_option autoImplicit false

namespace RdfDataset.Index

/-! ## Rows and keys -/

namespace Order

/-- The components of a key as the index arranges them. -/
def parts (order : Order) : List Component :=
  let (first, second, third, fourth) := order.components
  [first, second, third, fourth]

/-- The ids of a key, component by component. -/
def fields (order : Order) (key : Key) : List ObjectId := order.parts.map fun part => part.read key

/-- Where the components of a key stand in a row, order by order. -/
def unarranged (order : Order) (row : Row) : Key :=
  match order with
  | gspo => ⟨row.second, row.third, row.fourth, row.first⟩
  | gpos => ⟨row.fourth, row.second, row.third, row.first⟩
  | gosp => ⟨row.third, row.fourth, row.second, row.first⟩

theorem ids_row (order : Order) (key : Key) : (order.row key).ids = order.fields key := by
  cases order <;> rfl

theorem key_eq_unarranged (order : Order) (row : Row) : order.key row = order.unarranged row := by
  cases order <;> rfl

end Order

/-! ## Insertions -/

/-- What is inserted into an index: a row as it stands, or the row of a key. -/
inductive Addition where
  | row (row : Row)
  | key (key : Key)

/-- The row that an addition brings to an index of some order. -/
def Addition.rowIn (order : Order) : Addition → Row
  | .row given => given
  | .key given => order.row given

namespace Sorted

def add (index : Sorted) : Addition → Bool × Sorted
  | .row given => index.insert given
  | .key given => index.insertKey given

/-- What has become of an empty index after some additions. -/
def after (order : Order) (additions : List Addition) : Sorted :=
  additions.foldl (fun index addition => (index.add addition).2) (empty order)

theorem add_eq_insert (index : Sorted) (addition : Addition) :
    index.add addition = index.insert (addition.rowIn index.order) := by
  cases addition <;> rfl

theorem after_concat (order : Order) (additions : List Addition) (addition : Addition) :
    after order (additions ++ [addition]) = ((after order additions).add addition).2 := by
  simp [after]

theorem order_after (order : Order) (additions : List Addition) :
    (after order additions).order = order := by
  induction additions using List.reverseRecOn with
  | nil => rfl
  | append_singleton additions addition ih =>
      rw [after_concat, add_eq_insert]
      exact ih

theorem mem_after (order : Order) (additions : List Addition) (row : Row) :
    row ∈ (after order additions).rows ↔ row ∈ additions.map (Addition.rowIn order) := by
  induction additions using List.reverseRecOn with
  | nil =>
      constructor
      · intro member
        exact absurd member Std.ExtTreeSet.not_mem_empty
      · intro member
        cases member
  | append_singleton additions addition ih =>
      rw [after_concat, add_eq_insert, mem_insert, ih, order_after, List.map_append,
        List.mem_append, List.map_singleton, List.mem_singleton, or_comm, eq_comm]

/-! ## What an index shows -/

/-- All answers come from the rows that have been inserted. -/
structure Lists (index : Sorted) (order : Order) (rows : List Row) : Prop where
  order_eq : index.order = order
  mem_toList : ∀ row, row ∈ index.toList ↔ row ∈ rows
  ascending : index.toList.Pairwise fun a b => a.ids < b.ids
  contains_iff : ∀ row, index.contains row = true ↔ row ∈ rows
  size_eq : index.size = index.toList.length ∧ index.size = rows.toFinset.card
  isEmpty_iff : index.isEmpty = true ↔ rows = []
  keys_eq : index.keys = index.toList.map order.key
  nodup_keys : index.keys.Nodup
  keys_ascending : index.keys.Pairwise fun a b => order.fields a < order.fields b
  contains_row_iff : ∀ key, index.contains (order.row key) = true ↔ key ∈ index.keys

theorem lists_of_mem {index : Sorted} {rows : List Row}
    (holds : ∀ row, row ∈ index.rows ↔ row ∈ rows) : index.Lists index.order rows := by
  have listed : ∀ row, row ∈ index.toList ↔ row ∈ rows := fun row => mem_toList.trans (holds row)
  have size : index.size = rows.toFinset.card := by
    have same : index.toList.toFinset = rows.toFinset := by
      ext row
      simp [listed row]
    rw [← same, List.toFinset_card_of_nodup index.nodup_toList, size_eq_length]
  constructor
  · rfl
  · exact listed
  · exact index.toList_ascending
  · intro row
    rw [contains, Std.ExtTreeSet.contains_iff_mem]
    exact holds row
  · exact ⟨index.size_eq_length, size⟩
  · rw [isEmpty, size, beq_iff_eq, Finset.card_eq_zero, List.toFinset_eq_empty_iff]
  · rfl
  · exact index.nodup_keys
  · simp only [← Order.ids_row]
    exact index.keys_ascending
  · intro key
    rw [contains, Std.ExtTreeSet.contains_iff_mem]
    exact mem_keys.symm

/-- An index is the sorted set of the rows that have been inserted, as they stand or for a key, and
the answer to an insertion tells whether the row is new. Nothing is lost in the arrangement of the
ids: rows and keys correspond to each other, and every id is found where its order puts it. -/
theorem after_lists_rows (order : Order) (additions : List Addition) :
    (∀ key, order.key (order.row key) = key) ∧ (∀ row, order.row (order.key row) = row) ∧
      (∀ row, order.key row = order.unarranged row) ∧
      (after order additions).Lists order (additions.map (Addition.rowIn order)) ∧
      ∀ addition, ((after order additions).add addition).2 = after order (additions ++ [addition]) ∧
        (((after order additions).add addition).1 = true ↔
          addition.rowIn order ∉ additions.map (Addition.rowIn order)) := by
  have lists := lists_of_mem (mem_after order additions)
  rw [order_after] at lists
  refine ⟨order.key_row, order.row_key, order.key_eq_unarranged, lists, ?_⟩
  intro addition
  refine ⟨(after_concat order additions addition).symm, ?_⟩
  rw [add_eq_insert, order_after, insert, Bool.not_eq_true', ← Bool.not_eq_true,
    lists.contains_iff]

/-- A row and the key that it belongs to are the same insertion. -/
example :
    (after .gpos [.key ⟨4, 1, 7, 0⟩, .row ⟨0, 1, 4, 4⟩, .row ⟨0, 1, 7, 4⟩]).keys =
      [⟨4, 1, 4, 0⟩, ⟨4, 1, 7, 0⟩] := by
  decide +kernel

end Sorted

end RdfDataset.Index
