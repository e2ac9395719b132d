import Mathlib.Logic.Equiv.Defs
import RdfDataset.Proofs.Lexicon

/-!
# Lexicons of the same entries

Entries that are registered in different orders get different numbers. If two lexicons list the same
entries in the end, a permutation of the ids takes the numbers of one to those of the other; it
leaves alone what is not in use, and the entries that both lists start with.
-/

set_option autoImplicit false

namespace RdfDataset.Lexicon

variable {entries entries' : List Entry} {lexicon lexicon' : Lexicon} {entry : Entry}

/-! ## Several registrations -/

/-- The entries after several more registrations. -/
def extendAll (entries more : List Entry) : List Entry := more.foldl extend entries

theorem extendAll_cons (entries : List Entry) (first : Entry) (rest : List Entry) :
    extendAll entries (first :: rest) = extendAll (extend entries first) rest :=
  rfl

theorem extendAll_append (entries more others : List Entry) :
    extendAll entries (more ++ others) = extendAll (extendAll entries more) others :=
  List.foldl_append

theorem prefix_extendAll (entries more : List Entry) : entries <+: extendAll entries more := by
  induction more generalizing entries with
  | nil => exact List.prefix_refl entries
  | cons first rest ih => exact (prefix_extend entries first).trans (ih (extend entries first))

theorem mem_extendAll {more : List Entry} :
    entry ∈ extendAll entries more ↔ entry ∈ entries ∨ entry ∈ more := by
  induction more generalizing entries with
  | nil => simp [extendAll]
  | cons first rest ih =>
      rw [extendAll_cons, ih, mem_extend, List.mem_cons, or_assoc]

theorem nodup_extendAll (nodup : entries.Nodup) (more : List Entry) :
    (extendAll entries more).Nodup := by
  induction more generalizing entries with
  | nil => exact nodup
  | cons first rest ih => exact ih (nodup_extend nodup first)

theorem length_extend_le (entries : List Entry) (entry : Entry) :
    (extend entries entry).length ≤ entries.length + 1 := by
  unfold extend
  split <;> simp

theorem length_extendAll_le (entries more : List Entry) :
    (extendAll entries more).length ≤ entries.length + more.length := by
  induction more generalizing entries with
  | nil => simp [extendAll]
  | cons first rest ih =>
      have step := length_extend_le entries first
      have later := ih (extend entries first)
      rw [extendAll_cons, List.length_cons]
      omega

theorem perm_extendAll (nodup : entries.Nodup) {more others : List Entry}
    (same : more.Perm others) : (extendAll entries more).Perm (extendAll entries others) := by
  rw [List.perm_ext_iff_of_nodup (nodup_extendAll nodup more) (nodup_extendAll nodup others)]
  intro entry
  rw [mem_extendAll, mem_extendAll, same.mem_iff]

/-! ## From one lexicon to another -/

/-- The id that the other lexicon has for the entry of an id. -/
def renumber (lexicon lexicon' : Lexicon) (id : ObjectId) : ObjectId :=
  match lexicon.entry? id with
  | some entry => (lexicon'.id? entry).getD id
  | none => id

theorem renumber_unused {id : ObjectId} (unused : lexicon.entry? id = none) :
    lexicon.renumber lexicon' id = id := by
  rw [renumber, unused]

namespace Lists

theorem renumber_place (lists : lexicon.Lists entries) (lists' : lexicon'.Lists entries')
    (known : entry ∈ entries) (known' : entry ∈ entries') :
    lexicon.renumber lexicon' (place entries entry) = place entries' entry := by
  rw [renumber, lists.entry?_place known]
  simp only [lists'.counts.id?_of_mem known', Option.getD_some]

theorem entry?_eq_none_iff (lists : lexicon.Lists entries) (id : ObjectId) :
    lexicon.entry? id = none ↔ id = 0 ∨ entries.length < id.toNat := by
  rw [lists.entry_eq]
  by_cases zero : id = 0
  · simp [zero]
  · have positive : id.toNat ≠ 0 := fun none => zero (UInt32.toNat_inj.mp none)
    rw [if_neg zero, List.getElem?_eq_none_iff, or_iff_right zero]
    omega

theorem renumber_renumber (lists : lexicon.Lists entries) (lists' : lexicon'.Lists entries')
    (same : entries.Perm entries') (id : ObjectId) :
    lexicon'.renumber lexicon (lexicon.renumber lexicon' id) = id := by
  cases found : lexicon.entry? id with
  | none =>
      have unused : lexicon'.entry? id = none := by
        rw [lists.entry?_eq_none_iff, same.length_eq] at found
        exact (lists'.entry?_eq_none_iff id).mpr found
      rw [renumber_unused found, renumber_unused unused]
  | some entry =>
      have given := lists.entry?_eq_some_iff.mp found
      obtain ⟨known, rfl⟩ := lists.counts.id?_eq_some_iff.mp given
      have known' := same.mem_iff.mp known
      rw [lists.renumber_place lists' known known', lists'.renumber_place lists known' known]

/-- The permutation of ids that takes the numbers of one lexicon to those of the other. -/
def renumbering (lists : lexicon.Lists entries) (lists' : lexicon'.Lists entries')
    (same : entries.Perm entries') : Equiv.Perm ObjectId where
  toFun := lexicon.renumber lexicon'
  invFun := lexicon'.renumber lexicon
  left_inv := lists.renumber_renumber lists' same
  right_inv := lists'.renumber_renumber lists same.symm

theorem id?_renumber (lists : lexicon.Lists entries) (lists' : lexicon'.Lists entries')
    (same : entries.Perm entries') (entry : Entry) :
    lexicon'.id? entry = (lexicon.id? entry).map (lexicon.renumber lexicon') := by
  rw [lists.id_eq, lists'.id_eq]
  by_cases known : entry ∈ entries
  · have known' := same.mem_iff.mp known
    rw [if_pos known, if_pos known', Option.map_some, lists.renumber_place lists' known known']
  · have unknown : entry ∉ entries' := fun member => known (same.mem_iff.mpr member)
    rw [if_neg known, if_neg unknown]
    rfl

end Lists

end RdfDataset.Lexicon
