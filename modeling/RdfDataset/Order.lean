import Std.Data.ExtTreeSet

/-!
# Orders used by the indexes

Sorted containers need a comparison that is transitive and that calls only equal values equal. The
comparisons of this project are lexicographic; this module holds the sort that answers with an
ascending list and the step from "equal in every field" to "equal".
-/

set_option autoImplicit false

namespace RdfDataset

open Std

/-- The elements of `xs` from the least to the greatest; equal elements keep their places. -/
def ascending {α : Type} [Ord α] (xs : List α) : List α :=
  xs.mergeSort fun a b => (compare a b).isLE

/-- A lexicographic comparison answers "equal" only if both of its parts do. -/
theorem compareLex_eq_eq {α : Type} {f g : α → α → Ordering} {a b : α}
    (h : compareLex f g a b = .eq) : f a b = .eq ∧ g a b = .eq := by
  unfold compareLex at h
  cases hf : f a b <;> simp [hf, Ordering.then] at h
  exact ⟨rfl, h⟩

end RdfDataset
