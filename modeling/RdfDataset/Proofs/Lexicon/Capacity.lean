import Std.Data.String.ToNat
import RdfDataset.Proofs.Lexicon.Run

/-!
# The capacity of a lexicon

The counter of a lexicon starts over after its last word, and nothing stops it. So the id of an
entry is its number modulo the number of words, and what is found under an id is the latest entry
with such a number. This module says how far the promises about ids carry: the id of the default
graph is spared as long as there are fewer entries than words; ids tell entries apart, and keep
them, as long as there are not more entries than words.
-/

set_option autoImplicit false

namespace RdfDataset.Lexicon

variable {entries : List Entry} {entry other : Entry}

/-! ## Numbers modulo the number of words -/

theorem place_toNat_mod (entries : List Entry) (entry : Entry) :
    (place entries entry).toNat = (entries.idxOf entry + 1) % UInt32.size := by
  rw [place, UInt32.toNat_ofNat']

theorem place_getElem (nodup : entries.Nodup) {k : Nat} (inside : k < entries.length) :
    place entries entries[k] = .ofNat (k + 1) := by
  rw [place, nodup.idxOf_getElem]

theorem place_inj (few : entries.length ≤ UInt32.size) (known : entry ∈ entries)
    (known' : other ∈ entries) (same : place entries entry = place entries other) :
    entry = other := by
  have number := congrArg UInt32.toNat same
  rw [place_toNat_mod, place_toNat_mod] at number
  have inside := List.idxOf_lt_length_of_mem known
  have inside' := List.idxOf_lt_length_of_mem known'
  have position : entries.idxOf entry = entries.idxOf other := by
    generalize entries.idxOf entry = k at *
    generalize entries.idxOf other = l at *
    simp only [UInt32.size] at *
    omega
  exact (List.idxOf_inj known).mp position

/-! ## What is found under an id -/

/-- The latest of the entries whose number is this id. -/
def latest (entries : List Entry) (id : ObjectId) : Option Entry :=
  (entries.filter fun entry => place entries entry == id).getLast?

theorem latest_append (entries : List Entry) (entry : Entry) (id : ObjectId) :
    latest (entries ++ [entry]) id =
      if place (entries ++ [entry]) entry = id then some entry else latest entries id := by
  have old : entries.filter (fun known => place (entries ++ [entry]) known == id) =
      entries.filter fun known => place entries known == id := by
    refine List.filter_congr fun known member => ?_
    rw [place_of_front (List.prefix_append entries [entry]) member]
  rw [latest, List.filter_append, old, latest, List.filter_singleton]
  by_cases here : place (entries ++ [entry]) entry = id
  · rw [if_pos here, beq_iff_eq.mpr here, cond_true, List.getLast?_concat]
  · rw [if_neg here, beq_eq_false_iff_ne.mpr here, cond_false, List.append_nil]

theorem latest_place (few : entries.length ≤ UInt32.size) (known : entry ∈ entries) :
    latest entries (place entries entry) = some entry := by
  cases found : latest entries (place entries entry) with
  | none =>
      have missing := List.filter_eq_nil_iff.mp (List.getLast?_eq_none_iff.mp found) entry known
      exact absurd (beq_self_eq_true _) missing
  | some other =>
      obtain ⟨member, same⟩ := List.mem_filter.mp (List.mem_of_getLast? found)
      rw [place_inj few member known (beq_iff_eq.mp same)]

namespace Log

variable {steps earlier : List Step}

theorem found_eq_latest (steps : List Step) (id : ObjectId) :
    (after steps).lexicon.entry? id = latest (seen steps) id := by
  induction steps using List.reverseRecOn with
  | nil => exact Std.ExtTreeMap.getElem?_empty
  | append_singleton steps step ih =>
      have counts := after_counts steps
      rw [after_concat]
      rcases step.register_or_asked with ⟨entry, rfl⟩ | asked
      · rw [seen_register, extend]
        by_cases known : entry ∈ seen steps
        · rw [if_pos known, add, Step.perform, register_of_id? (counts.id?_of_mem known)]
          exact ih
        · have unseen : (after steps).lexicon.id? entry = none := by
            rw [counts.id_eq, if_neg known]
          rw [if_neg known, latest_append, counts.place_append known, ← ih, add,
            Step.perform, register_of_unseen unseen]
          exact entry?_append _ entry id
      · rw [seen_asked asked, add, Step.perform_asked asked]
        exact ih

/-! ## Three promises -/

/-- No registration is answered with the id of the default graph. -/
def SparesDefault (steps : List Step) : Prop :=
  ∀ entry id, (after steps).Gave entry id → id ≠ ObjectId.defaultGraph

/-- Registrations with one answer are registrations of one entry. -/
def TellsApart (steps : List Step) : Prop :=
  ∀ entry other id, (after steps).Gave entry id → (after steps).Gave other id → entry = other

/-- What is found under an id stays the same from the registration on that gave it. -/
def KeepsEntries (steps : List Step) : Prop :=
  ∀ earlier, earlier <+: steps → ∀ entry id, (after earlier).Gave entry id →
    (after steps).lexicon.entry? id = (after earlier).lexicon.entry? id

/-- Every number of entries up to the last one is reached on the way. -/
theorem exists_front (steps : List Step) {count : Nat} (reached : count ≤ (seen steps).length) :
    ∃ earlier, earlier <+: steps ∧ seen earlier = (seen steps).take count := by
  induction steps using List.reverseRecOn with
  | nil => exact ⟨[], List.prefix_refl [], List.take_nil.symm⟩
  | append_singleton steps step ih =>
      by_cases before : count ≤ (seen steps).length
      · obtain ⟨earlier, front, same⟩ := ih before
        have more := seen_front (List.prefix_append steps [step])
        refine ⟨earlier, front.trans (List.prefix_append steps [step]), ?_⟩
        rw [same, List.prefix_iff_eq_take.mp more, List.take_take, Nat.min_eq_left before]
      · refine ⟨steps ++ [step], List.prefix_refl _, ?_⟩
        have whole : (seen (steps ++ [step])).length ≤ count := by
          rcases step.register_or_asked with ⟨entry, rfl⟩ | asked
          · rw [seen_register, extend]
            split
            · omega
            · rw [List.length_append, List.length_singleton]
              omega
          · rw [seen_asked asked]
            omega
        rw [List.take_of_length_le whole]

theorem gave_getElem (steps : List Step) {k : Nat} (inside : k < (seen steps).length) :
    (after steps).Gave (seen steps)[k] (.ofNat (k + 1)) := by
  rw [after_gave_iff]
  exact ⟨List.getElem_mem inside, place_getElem (after_counts steps).nodup inside⟩

theorem entry?_of_gave (few : (seen steps).length ≤ UInt32.size) {entry : Entry} {id : ObjectId}
    (gave : (after steps).Gave entry id) : (after steps).lexicon.entry? id = some entry := by
  obtain ⟨known, rfl⟩ := (after_gave_iff steps entry id).mp gave
  rw [found_eq_latest, latest_place few known]

theorem sparesDefault_iff (steps : List Step) :
    SparesDefault steps ↔ (seen steps).length < UInt32.size := by
  constructor
  · intro spares
    by_contra full
    have inside : UInt32.size - 1 < (seen steps).length := by
      simp only [UInt32.size] at full ⊢
      omega
    exact spares _ _ (gave_getElem steps inside) rfl
  · intro few entry id gave
    obtain ⟨known, rfl⟩ := (after_gave_iff steps entry id).mp gave
    exact place_ne_zero few known

theorem found_once (steps : List Step) {k : Nat} (inside : k < (seen steps).length) :
    ∃ earlier, earlier <+: steps ∧ (after earlier).Gave (seen steps)[k] (.ofNat (k + 1)) ∧
      (after earlier).lexicon.entry? (.ofNat (k + 1)) = some (seen steps)[k] := by
  -- The moment at which the entry has just been the last one seen.
  obtain ⟨earlier, front, same⟩ := exists_front steps (Nat.succ_le_of_lt inside)
  have last : seen earlier = (seen steps).take k ++ [(seen steps)[k]] := by
    rw [same, List.take_append_getElem]
  have nodup := (after_counts earlier).nodup
  have unseen : (seen steps)[k] ∉ (seen steps).take k := by
    rw [last, List.nodup_append] at nodup
    intro old
    exact nodup.2.2 _ old _ (List.mem_singleton_self _) rfl
  have number : place (seen earlier) (seen steps)[k] = .ofNat (k + 1) := by
    rw [last, place, List.idxOf_append_of_notMem unseen, List.idxOf_cons_self, List.length_take,
      Nat.min_eq_left (Nat.le_of_lt inside), Nat.add_zero]
  have member : (seen steps)[k] ∈ seen earlier := by
    rw [last]
    exact List.mem_append_right _ (List.mem_singleton_self _)
  refine ⟨earlier, front, (after_gave_iff earlier _ _).mpr ⟨member, number⟩, ?_⟩
  rw [last] at number
  rw [found_eq_latest, last, latest_append, if_pos number]

theorem first_word_again : UInt32.ofNat (UInt32.size + 1) = .ofNat (0 + 1) := by
  decide

theorem seen_zero_ne (full : UInt32.size < (seen steps).length) :
    (seen steps)[0] ≠ (seen steps)[UInt32.size] := by
  intro same
  have equal := (after_counts steps).nodup.getElem_inj_iff.mp same
  cases equal

theorem tellsApart_iff (steps : List Step) :
    TellsApart steps ↔ (seen steps).length ≤ UInt32.size := by
  constructor
  · intro apart
    by_contra full
    rw [Nat.not_le] at full
    have first := gave_getElem steps (Nat.lt_of_le_of_lt (Nat.zero_le _) full)
    have again := gave_getElem steps full
    rw [first_word_again] at again
    exact seen_zero_ne full (apart _ _ _ first again)
  · intro few entry other id gave gave'
    obtain ⟨known, rfl⟩ := (after_gave_iff steps entry id).mp gave
    obtain ⟨known', same⟩ := (after_gave_iff steps other _).mp gave'
    exact place_inj few known known' same.symm

theorem keepsEntries_iff (steps : List Step) :
    KeepsEntries steps ↔ (seen steps).length ≤ UInt32.size := by
  constructor
  · intro keeps
    by_contra full
    rw [Nat.not_le] at full
    -- The first entry and the one that gets its id again would both have to be found at the end.
    obtain ⟨early, front, gave, found⟩ :=
      found_once steps (Nat.lt_of_le_of_lt (Nat.zero_le _) full)
    obtain ⟨late, front', gave', found'⟩ := found_once steps full
    have kept := keeps early front _ _ gave
    have kept' := keeps late front' _ _ gave'
    rw [first_word_again] at kept' found'
    rw [found] at kept
    rw [kept, found'] at kept'
    exact seen_zero_ne full (Option.some.inj kept')
  · intro few earlier front entry id gave
    have few' := Nat.le_trans (seen_front front).length_le few
    rw [entry?_of_gave few (gave_of_front front gave), entry?_of_gave few' gave]

/-- How far the promises about ids carry. The id of an entry is its number modulo the number of
words, however long the run. It is never the default graph's exactly as long as there are fewer
entries than words; it belongs to no other entry, and is found to be this entry's for good, exactly
as long as there are not more. -/
theorem promises_iff (steps : List Step) :
    (∀ entry id, (after steps).Gave entry id ↔
      entry ∈ seen steps ∧ id.toNat = ((seen steps).idxOf entry + 1) % UInt32.size) ∧
    (SparesDefault steps ↔ (seen steps).length < UInt32.size) ∧
    (TellsApart steps ↔ (seen steps).length ≤ UInt32.size) ∧
    (KeepsEntries steps ↔ (seen steps).length ≤ UInt32.size) := by
  refine ⟨?_, sparesDefault_iff steps, tellsApart_iff steps, keepsEntries_iff steps⟩
  intro entry id
  rw [after_gave_iff, ← place_toNat_mod, UInt32.toNat_inj, eq_comm]

/-! ## A run beyond the capacity -/

/-- As many URIs as are asked for, all different, registered one after the other. -/
def registerNumbers (count : Nat) : List Step :=
  (List.range count).map fun n => .register (.uri (Nat.repr n))

theorem seen_registerNumbers (count : Nat) :
    seen (registerNumbers count) = (List.range count).map fun n => .uri (Nat.repr n) := by
  induction count with
  | zero => rfl
  | succ count ih =>
      have new : Entry.uri (Nat.repr count) ∉
          (List.range count).map fun n => Entry.uri (Nat.repr n) := by
        intro old
        obtain ⟨n, member, same⟩ := List.mem_map.mp old
        have equal : n = count := Nat.repr_injective (Entry.uri.inj same)
        rw [equal] at member
        exact List.not_mem_range_self member
      have steps : registerNumbers (count + 1) =
          registerNumbers count ++ [.register (.uri (Nat.repr count))] := by
        rw [registerNumbers, List.range_succ, List.map_append]
        rfl
      rw [steps, seen_register, ih, extend, if_neg new, List.range_succ, List.map_append]
      rfl

/-- One URI more than there are words: none of the promises is kept. -/
theorem promises_broken :
    ¬ SparesDefault (registerNumbers (UInt32.size + 1)) ∧
    ¬ TellsApart (registerNumbers (UInt32.size + 1)) ∧
    ¬ KeepsEntries (registerNumbers (UInt32.size + 1)) := by
  have length : (seen (registerNumbers (UInt32.size + 1))).length = UInt32.size + 1 := by
    rw [seen_registerNumbers, List.length_map, List.length_range]
  rw [sparesDefault_iff, tellsApart_iff, keepsEntries_iff, length]
  refine ⟨?_, ?_, ?_⟩ <;> omega

end Log

end RdfDataset.Lexicon
