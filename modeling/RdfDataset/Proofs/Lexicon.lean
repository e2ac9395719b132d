import Mathlib.Data.List.Nodup
import RdfDataset.Lexicon

/-!
# The numbering of entries

As long as its counter has not gone round, a lexicon is a list: the entries in the order of their
first registration, numbered from one. `Lists` says so, and registration appends to the list what is
not in it yet. Everything that a lexicon answers follows from the list. The ids of entries follow
from it in any case, which is what `Counts` says.
-/

set_option autoImplicit false

namespace RdfDataset.Lexicon

/-! ## Places in a list of entries -/

/-- The id of an entry among entries that have been registered in this order. -/
def place (entries : List Entry) (entry : Entry) : ObjectId := .ofNat (entries.idxOf entry + 1)

/-- The entries after one more registration. -/
def extend (entries : List Entry) (entry : Entry) : List Entry :=
  if entry ∈ entries then entries else entries ++ [entry]

variable {entries : List Entry} {entry other : Entry}

theorem prefix_extend (entries : List Entry) (entry : Entry) :
    entries <+: extend entries entry := by
  unfold extend
  split
  · exact List.prefix_refl entries
  · exact List.prefix_append entries [entry]

theorem mem_extend : other ∈ extend entries entry ↔ other ∈ entries ∨ other = entry := by
  unfold extend
  split
  · next known =>
      constructor
      · exact Or.inl
      · rintro (member | rfl)
        · exact member
        · exact known
  · rw [List.mem_append, List.mem_singleton]

theorem nodup_extend (nodup : entries.Nodup) (entry : Entry) : (extend entries entry).Nodup := by
  unfold extend
  split
  · exact nodup
  · next unknown =>
      rw [← List.concat_eq_append]
      exact List.Nodup.concat unknown nodup

theorem place_of_front {more : List Entry} (front : entries <+: more) (known : entry ∈ entries) :
    place more entry = place entries entry := by
  obtain ⟨behind, rfl⟩ := front
  rw [place, place, List.idxOf_append_of_mem known]

theorem place_toNat (room : entries.length < UInt32.size) (known : entry ∈ entries) :
    (place entries entry).toNat = entries.idxOf entry + 1 := by
  have inside : entries.idxOf entry < entries.length := List.idxOf_lt_length_of_mem known
  rw [place, UInt32.toNat_ofNat']
  exact Nat.mod_eq_of_lt (Nat.lt_of_le_of_lt inside room)

theorem place_ne_zero (room : entries.length < UInt32.size) (known : entry ∈ entries) :
    place entries entry ≠ 0 := by
  intro zero
  have number := place_toNat room known
  rw [zero] at number
  exact absurd number (by simp)

/-! ## An unseen entry -/

/-- The lexicon with an entry under its next id. -/
def append (lexicon : Lexicon) (entry : Entry) : Lexicon where
  ids := lexicon.ids.insert entry lexicon.next
  entries := lexicon.entries.insert lexicon.next entry
  next := lexicon.next + 1

theorem id?_append (lexicon : Lexicon) (entry other : Entry) :
    (lexicon.append entry).id? other =
      if entry = other then some lexicon.next else lexicon.id? other := by
  rw [id?, append, Std.ExtTreeMap.getElem?_insert]
  by_cases same : entry = other
  · rw [if_pos same, if_pos (same ▸ Std.ReflOrd.compare_self)]
  · rw [if_neg same, if_neg fun equal => same (Std.LawfulEqOrd.eq_of_compare equal)]
    rfl

theorem entry?_append (lexicon : Lexicon) (entry : Entry) (id : ObjectId) :
    Lexicon.entry? (lexicon.append entry) id =
      if lexicon.next = id then some entry else lexicon.entry? id := by
  unfold Lexicon.entry?
  rw [append, Std.ExtTreeMap.getElem?_insert]
  by_cases same : lexicon.next = id
  · rw [if_pos same, if_pos (same ▸ Std.ReflOrd.compare_self)]
  · rw [if_neg same, if_neg fun equal => same (Std.LawfulEqOrd.eq_of_compare equal)]

theorem size_append (lexicon : Lexicon) (entry : Entry)
    (free : lexicon.entry? lexicon.next = none) :
    (lexicon.append entry).size = lexicon.size + 1 := by
  have absent : lexicon.entries.contains lexicon.next = false := by
    have unused : lexicon.entries[lexicon.next]? = none := free
    rw [Std.ExtTreeMap.contains_eq_isSome_getElem?, unused]
    rfl
  rw [size, append, Std.ExtTreeMap.size_insert, absent]
  rfl

theorem register_of_id? {lexicon : Lexicon} {id : ObjectId} (known : lexicon.id? entry = some id) :
    lexicon.register entry = (id, lexicon) := by
  rw [register, known]

theorem register_of_unseen {lexicon : Lexicon} (unseen : lexicon.id? entry = none) :
    lexicon.register entry = (lexicon.next, lexicon.append entry) := by
  rw [register, unseen]
  rfl

/-! ## The ids of entries

The ids never stop following the list, however often the counter has gone round. -/

/-- The ids count the entries in this order, from one on and modulo the number of words. -/
structure Counts (lexicon : Lexicon) (entries : List Entry) : Prop where
  nodup : entries.Nodup
  id_eq (entry : Entry) :
    lexicon.id? entry = if entry ∈ entries then some (place entries entry) else none
  next_eq : lexicon.next = .ofNat (entries.length + 1)

theorem counts_empty : Counts empty [] where
  nodup := List.nodup_nil
  id_eq _ := rfl
  next_eq := rfl

namespace Counts

variable {lexicon : Lexicon}

theorem id?_of_mem (counts : lexicon.Counts entries) (known : entry ∈ entries) :
    lexicon.id? entry = some (place entries entry) := by
  rw [counts.id_eq, if_pos known]

theorem id?_eq_some_iff (counts : lexicon.Counts entries) {id : ObjectId} :
    lexicon.id? entry = some id ↔ entry ∈ entries ∧ place entries entry = id := by
  rw [counts.id_eq]
  by_cases known : entry ∈ entries
  · rw [if_pos known, Option.some.injEq]
    exact (and_iff_right known).symm
  · rw [if_neg known]
    exact ⟨(fun nothing => nomatch nothing), fun both => absurd both.1 known⟩

/-- The next id is the place of an entry that has none yet. -/
theorem place_append (counts : lexicon.Counts entries) (unseen : entry ∉ entries) :
    place (entries ++ [entry]) entry = lexicon.next := by
  rw [place, List.idxOf_append_of_notMem unseen, List.idxOf_cons_self, counts.next_eq,
    Nat.add_zero]

theorem append (counts : lexicon.Counts entries) (unseen : entry ∉ entries) :
    (lexicon.append entry).Counts (entries ++ [entry]) := by
  constructor
  · rw [← List.concat_eq_append]
    exact List.Nodup.concat unseen counts.nodup
  · intro other
    rw [id?_append, counts.id_eq]
    by_cases same : entry = other
    · have last : other ∈ entries ++ [entry] := by
        rw [same]
        exact List.mem_append_right _ (List.mem_singleton_self other)
      rw [if_pos same, if_pos last, ← same, counts.place_append unseen]
    · rw [if_neg same]
      by_cases known : other ∈ entries
      · have front := place_of_front (List.prefix_append entries [entry]) known
        rw [if_pos known, if_pos (List.mem_append_left _ known), front]
      · have nowhere : other ∉ entries ++ [entry] := by
          rw [List.mem_append, List.mem_singleton]
          rintro (member | rfl)
          · exact known member
          · exact same rfl
        rw [if_neg known, if_neg nowhere]
  · show lexicon.next + 1 = _
    rw [counts.next_eq, List.length_append, List.length_singleton]
    exact (UInt32.ofNat_add (entries.length + 1) 1).symm

/-- Registration answers with the place of the entry, whether it is new or not. -/
theorem register (counts : lexicon.Counts entries) (entry : Entry) :
    (lexicon.register entry).1 = place (extend entries entry) entry ∧
      (lexicon.register entry).2.Counts (extend entries entry) := by
  by_cases known : entry ∈ entries
  · rw [register_of_id? (counts.id?_of_mem known), extend, if_pos known]
    exact ⟨rfl, counts⟩
  · have unseen : lexicon.id? entry = none := by
      rw [counts.id_eq, if_neg known]
    rw [register_of_unseen unseen, extend, if_neg known]
    exact ⟨(counts.place_append known).symm, counts.append known⟩

end Counts

/-! ## Lexicons and lists -/

/-- The lexicon that the entries give when they are registered in this order. -/
structure Lists (lexicon : Lexicon) (entries : List Entry) : Prop where
  nodup : entries.Nodup
  room : entries.length < UInt32.size
  id_eq (entry : Entry) :
    lexicon.id? entry = if entry ∈ entries then some (place entries entry) else none
  entry_eq (id : ObjectId) : lexicon.entry? id = if id = 0 then none else entries[id.toNat - 1]?
  next_eq : lexicon.next = .ofNat (entries.length + 1)
  size_eq : lexicon.size = entries.length

theorem lists_empty : Lists empty [] where
  nodup := List.nodup_nil
  room := by decide
  id_eq _ := rfl
  entry_eq id := by
    rw [List.getElem?_nil, ite_self]
    exact Std.ExtTreeMap.getElem?_empty
  next_eq := rfl
  size_eq := rfl

namespace Lists

variable {lexicon : Lexicon}

theorem counts (lists : lexicon.Lists entries) : lexicon.Counts entries :=
  ⟨lists.nodup, lists.id_eq, lists.next_eq⟩

theorem entry?_place (lists : lexicon.Lists entries) (known : entry ∈ entries) :
    lexicon.entry? (place entries entry) = some entry := by
  rw [lists.entry_eq, if_neg (place_ne_zero lists.room known), place_toNat lists.room known,
    Nat.add_sub_cancel, List.getElem?_idxOf known]

theorem next_toNat (lists : lexicon.Lists entries) (room : entries.length + 1 < UInt32.size) :
    lexicon.next.toNat = entries.length + 1 := by
  rw [lists.next_eq, UInt32.toNat_ofNat']
  exact Nat.mod_eq_of_lt room

theorem append (lists : lexicon.Lists entries) (unseen : entry ∉ entries)
    (room : entries.length + 1 < UInt32.size) :
    (lexicon.append entry).Lists (entries ++ [entry]) := by
  have counts := lists.counts.append unseen
  have number := lists.next_toNat room
  have nonzero : lexicon.next ≠ 0 := by
    intro zero
    rw [zero] at number
    cases number
  refine ⟨counts.nodup, ?_, counts.id_eq, ?_, counts.next_eq, ?_⟩
  · rw [List.length_append, List.length_singleton]
    exact room
  · intro id
    rw [entry?_append, lists.entry_eq]
    by_cases here : lexicon.next = id
    · rw [if_pos here, ← here, if_neg nonzero, number, Nat.add_sub_cancel,
        List.getElem?_concat_length]
    · rw [if_neg here]
      by_cases zero : id = 0
      · rw [if_pos zero, if_pos zero]
      · have positive : id.toNat ≠ 0 := fun none => zero (UInt32.toNat_inj.mp none)
        have elsewhere : id.toNat - 1 ≠ entries.length := by
          intro last
          apply here
          apply UInt32.toNat_inj.mp
          omega
        rw [if_neg zero, if_neg zero]
        rcases Nat.lt_or_gt_of_ne elsewhere with before | behind
        · rw [List.getElem?_append_left before]
        · have length : (entries ++ [entry]).length ≤ id.toNat - 1 := by
            rw [List.length_append, List.length_singleton]
            omega
          rw [List.getElem?_eq_none length, List.getElem?_eq_none (Nat.le_of_lt behind)]
  · have free : lexicon.entry? lexicon.next = none := by
      rw [lists.entry_eq, if_neg nonzero, number, Nat.add_sub_cancel]
      exact List.getElem?_eq_none (Nat.le_refl _)
    rw [size_append lexicon entry free, lists.size_eq, List.length_append, List.length_singleton]

/-- Registration answers with the place of the entry, in a list that has been extended by it. -/
theorem register (lists : lexicon.Lists entries)
    (room : (extend entries entry).length < UInt32.size) :
    (lexicon.register entry).1 = place (extend entries entry) entry ∧
      (lexicon.register entry).2.Lists (extend entries entry) := by
  refine ⟨(lists.counts.register entry).1, ?_⟩
  by_cases known : entry ∈ entries
  · rw [register_of_id? (lists.counts.id?_of_mem known), extend, if_pos known]
    exact lists
  · have unseen : lexicon.id? entry = none := by
      rw [lists.id_eq, if_neg known]
    rw [extend, if_neg known, List.length_append, List.length_singleton] at room
    rw [register_of_unseen unseen, extend, if_neg known]
    exact lists.append known room

/-- Lookup and registration are inverse to each other. -/
theorem entry?_eq_some_iff (lists : lexicon.Lists entries) {id : ObjectId} :
    lexicon.entry? id = some entry ↔ lexicon.id? entry = some id := by
  rw [lists.counts.id?_eq_some_iff]
  constructor
  · intro found
    rw [lists.entry_eq] at found
    by_cases zero : id = 0
    · rw [if_pos zero] at found
      cases found
    · rw [if_neg zero] at found
      obtain ⟨inside, here⟩ := List.getElem?_eq_some_iff.mp found
      have positive : id.toNat ≠ 0 := fun none => zero (UInt32.toNat_inj.mp none)
      have member : entry ∈ entries := List.mem_of_getElem? found
      refine ⟨member, UInt32.toNat_inj.mp ?_⟩
      rw [place_toNat lists.room member, ← here, lists.nodup.idxOf_getElem]
      omega
  · rintro ⟨known, rfl⟩
    exact lists.entry?_place known

end Lists

end RdfDataset.Lexicon
