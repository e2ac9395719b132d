import Mathlib.Data.List.Induction
import RdfDataset.Proofs.Lexicon

/-!
# Runs of a lexicon

A lexicon is asked one thing after the other: to register an entry, for the id of an entry, or for
the entry of an id. `Log` keeps all steps with their answers. What an entry is given is settled by
the entries that have been registered before it for the first time, whatever else the lexicon has
been asked and however long the run is; as long as the counter has not gone round, the lexicon is at
every moment a numbering of these entries from one on, which only grows.
-/

set_option autoImplicit false

namespace RdfDataset.Lexicon

/-- What a lexicon can be asked. Only registration changes it. -/
inductive Step where
  | register (entry : Entry)
  | idOf (entry : Entry)
  | entryOf (id : ObjectId)

inductive Answer where
  | id (id : Option ObjectId)
  | entry (entry : Option Entry)

namespace Step

def registered? : Step → Option Entry
  | register entry => some entry
  | idOf _ => none
  | entryOf _ => none

def perform (lexicon : Lexicon) : Step → Answer × Lexicon
  | register entry => (.id (some (lexicon.register entry).1), (lexicon.register entry).2)
  | idOf entry => (.id (lexicon.id? entry), lexicon)
  | entryOf id => (.entry (lexicon.entry? id), lexicon)

theorem register_or_asked (step : Step) :
    (∃ entry, step = .register entry) ∨ step.registered? = none := by
  cases step with
  | register entry => exact Or.inl ⟨entry, rfl⟩
  | idOf _ => exact Or.inr rfl
  | entryOf _ => exact Or.inr rfl

theorem perform_asked {step : Step} (asked : step.registered? = none) (lexicon : Lexicon) :
    (step.perform lexicon).2 = lexicon := by
  cases step with
  | register _ => cases asked
  | idOf _ => rfl
  | entryOf _ => rfl

end Step

/-- The entries that are registered, in the order of their first registration. -/
def seen (steps : List Step) : List Entry := (steps.filterMap Step.registered?).eraseDups

section Seen

variable {steps earlier : List Step} {entry : Entry}

theorem seen_register (steps : List Step) (entry : Entry) :
    seen (steps ++ [.register entry]) = extend (seen steps) entry := by
  have last : [Step.register entry].filterMap Step.registered? = [entry] := rfl
  unfold seen
  rw [List.filterMap_append, last, List.eraseDups_append, extend]
  generalize steps.filterMap Step.registered? = entries
  by_cases known : entry ∈ entries
  · have nothing : [entry].removeAll entries = [] := by
      simp [List.removeAll, known]
    rw [nothing, if_pos (List.mem_eraseDups.mpr known)]
    exact List.append_nil _
  · have here : [entry].removeAll entries = [entry] := by
      simp [List.removeAll, known]
    rw [here, if_neg fun old => known (List.mem_eraseDups.mp old)]
    rfl

theorem seen_asked {step : Step} (asked : step.registered? = none) (steps : List Step) :
    seen (steps ++ [step]) = seen steps := by
  have last : [step].filterMap Step.registered? = [] := by
    rw [List.filterMap_cons, asked, List.filterMap_nil]
  rw [seen, List.filterMap_append, last, List.append_nil]
  rfl

theorem seen_front (front : earlier <+: steps) : seen earlier <+: seen steps := by
  obtain ⟨later, rfl⟩ := front
  rw [seen, seen, List.filterMap_append, List.eraseDups_append]
  exact List.prefix_append _ _

end Seen

/-! ## Logs -/

/-- A lexicon with the steps that have led to it, each with its answer. -/
structure Log where
  lexicon : Lexicon
  steps : List (Step × Answer)

namespace Log

def start : Log := ⟨empty, []⟩

def add (log : Log) (step : Step) : Log where
  lexicon := (step.perform log.lexicon).2
  steps := log.steps ++ [(step, (step.perform log.lexicon).1)]

def after (steps : List Step) : Log := steps.foldl add start

/-- A registration of the entry has been answered with the id. -/
def Gave (log : Log) (entry : Entry) (id : ObjectId) : Prop :=
  (.register entry, .id (some id)) ∈ log.steps

theorem after_concat (steps : List Step) (step : Step) :
    after (steps ++ [step]) = (after steps).add step := by
  rw [after, List.foldl_append]
  rfl

theorem gave_register (log : Log) (entry other : Entry) (id : ObjectId) :
    (log.add (.register entry)).Gave other id ↔
      log.Gave other id ∨ other = entry ∧ id = (log.lexicon.register entry).1 := by
  unfold Gave
  rw [add, List.mem_append, List.mem_singleton]
  refine or_congr Iff.rfl ?_
  rw [Prod.mk.injEq, Step.register.injEq, Step.perform, Answer.id.injEq, Option.some.injEq]

theorem gave_asked {step : Step} (asked : step.registered? = none) (log : Log) (entry : Entry)
    (id : ObjectId) : (log.add step).Gave entry id ↔ log.Gave entry id := by
  unfold Gave
  rw [add, List.mem_append, List.mem_singleton, or_iff_left]
  intro last
  rw [← (Prod.mk.inj last).1] at asked
  cases asked

theorem after_counts (steps : List Step) : (after steps).lexicon.Counts (seen steps) := by
  induction steps using List.reverseRecOn with
  | nil => exact counts_empty
  | append_singleton steps step ih =>
      rw [after_concat]
      rcases step.register_or_asked with ⟨entry, rfl⟩ | asked
      · rw [seen_register]
        exact (ih.register entry).2
      · rw [seen_asked asked, add, Step.perform_asked asked]
        exact ih

theorem after_lists {steps : List Step} (few : (seen steps).length < UInt32.size) :
    (after steps).lexicon.Lists (seen steps) := by
  induction steps using List.reverseRecOn with
  | nil => exact lists_empty
  | append_singleton steps step ih =>
      -- The bound on the whole run holds at every moment of it.
      have lists := ih (Nat.lt_of_le_of_lt (seen_front (List.prefix_append _ _)).length_le few)
      rw [after_concat]
      rcases step.register_or_asked with ⟨entry, rfl⟩ | asked
      · rw [seen_register] at few ⊢
        exact (lists.register few).2
      · rw [seen_asked asked, add, Step.perform_asked asked]
        exact lists

/-- The answers to registrations are the ids, at the end of the run as at any time before. -/
theorem after_gave_iff (steps : List Step) (entry : Entry) (id : ObjectId) :
    (after steps).Gave entry id ↔ entry ∈ seen steps ∧ place (seen steps) entry = id := by
  induction steps using List.reverseRecOn with
  | nil =>
      constructor
      · intro gave
        cases gave
      · intro both
        cases both.1
  | append_singleton steps step ih =>
      rw [after_concat]
      rcases step.register_or_asked with ⟨new, rfl⟩ | asked
      · have front := prefix_extend (seen steps) new
        have answer := ((after_counts steps).register new).1
        rw [seen_register, gave_register, ih, answer]
        constructor
        · rintro (⟨known, rfl⟩ | ⟨rfl, rfl⟩)
          · exact ⟨front.subset known, place_of_front front known⟩
          · exact ⟨mem_extend.mpr (Or.inr rfl), rfl⟩
        · rintro ⟨known, rfl⟩
          rcases mem_extend.mp known with old | rfl
          · exact Or.inl ⟨old, (place_of_front front old).symm⟩
          · exact Or.inr ⟨rfl, rfl⟩
      · rw [seen_asked asked, gave_asked asked, ih]

theorem gave_iff_id? (steps : List Step) (entry : Entry) (id : ObjectId) :
    (after steps).Gave entry id ↔ (after steps).lexicon.id? entry = some id := by
  rw [after_gave_iff, (after_counts steps).id?_eq_some_iff]

theorem gave_of_front {steps earlier : List Step} (front : earlier <+: steps) {entry : Entry}
    {id : ObjectId} (gave : (after earlier).Gave entry id) : (after steps).Gave entry id := by
  rw [after_gave_iff] at gave ⊢
  obtain ⟨known, rfl⟩ := gave
  exact ⟨(seen_front front).subset known, place_of_front (seen_front front) known⟩

/-! ## Runs as numberings -/

/-- The lexicon numbers these entries from one on, and what it has answered agrees with that. -/
structure Numbers (log : Log) (entries : List Entry) : Prop where
  size_eq : log.lexicon.size = entries.length
  isEmpty_iff : log.lexicon.isEmpty = true ↔ log.lexicon.size = 0
  number : ∀ (k : Nat) (entry : Entry), entries[k]? = some entry →
    ∃ id, id.toNat = k + 1 ∧ log.Gave entry id
  known : ∀ (entry : Entry) (id : ObjectId), log.lexicon.id? entry = some id ↔ log.Gave entry id
  inverse : ∀ (entry : Entry) (id : ObjectId),
    log.lexicon.entry? id = some entry ↔ log.lexicon.id? entry = some id
  zero : log.lexicon.entry? ObjectId.defaultGraph = none
  apart : ∀ (text : String) (id : ObjectId),
    log.lexicon.id? (.uri text) = some id → log.lexicon.id? (.literal text) ≠ some id
  /-- Registering an entry again changes nothing. -/
  again : ∀ (entry : Entry) (id : ObjectId), log.Gave entry id →
    log.lexicon.register entry = (id, log.lexicon)

theorem after_numbers {steps : List Step} (few : (seen steps).length < UInt32.size) :
    (after steps).Numbers (seen steps) := by
  have lists := after_lists few
  have known := fun entry id => (gave_iff_id? steps entry id).symm
  refine ⟨lists.size_eq, ?_, ?_, known, fun _ _ => lists.entry?_eq_some_iff, ?_, ?_, ?_⟩
  · rw [isEmpty, size, Std.ExtTreeMap.isEmpty_eq_size_beq_zero, beq_iff_eq]
  · intro k entry here
    obtain ⟨inside, rfl⟩ := List.getElem?_eq_some_iff.mp here
    have member := List.getElem_mem inside
    refine ⟨place (seen steps) (seen steps)[k], ?_, ?_⟩
    · rw [place_toNat few member, lists.nodup.idxOf_getElem]
    · rw [after_gave_iff]
      exact ⟨member, rfl⟩
  · exact lists.entry_eq ObjectId.defaultGraph
  · intro text id uri literal
    rw [← lists.entry?_eq_some_iff] at uri literal
    rw [uri] at literal
    cases literal
  · intro entry id gave
    exact register_of_id? ((known entry id).mpr gave)

/-- At every moment of a run with fewer entries than words, the lexicon numbers the entries in the
order of their first registration. The next entry that is new gets the next number, and no later
step changes what is known. -/
theorem growing_numbering (steps : List Step) (few : (seen steps).length < UInt32.size) :
    ∀ earlier later, steps = earlier ++ later →
      (after earlier).Numbers (seen earlier) ∧
      (∀ entry rest, later = .register entry :: rest → entry ∉ seen earlier →
        ((after earlier).lexicon.register entry).1.toNat = (seen earlier).length + 1) ∧
      (∀ entry id, (after earlier).lexicon.id? entry = some id →
        (after steps).lexicon.id? entry = some id) ∧
      ∀ id entry, (after earlier).lexicon.entry? id = some entry →
        (after steps).lexicon.entry? id = some entry := by
  rintro earlier later split
  have front : earlier <+: steps := ⟨later, split.symm⟩
  have few' := Nat.lt_of_le_of_lt (seen_front front).length_le few
  have numbers := after_numbers few'
  have kept : ∀ entry id, (after earlier).lexicon.id? entry = some id →
      (after steps).lexicon.id? entry = some id := by
    intro entry id given
    rw [← gave_iff_id?] at given ⊢
    exact gave_of_front front given
  refine ⟨numbers, ?_, kept, ?_⟩
  · rintro entry rest rfl new
    have next : earlier ++ [.register entry] <+: steps :=
      ⟨rest, by rw [split, List.append_assoc, List.singleton_append]⟩
    have room := Nat.lt_of_le_of_lt (seen_front next).length_le few
    rw [seen_register] at room
    have member : entry ∈ extend (seen earlier) entry := mem_extend.mpr (Or.inr rfl)
    rw [((after_counts earlier).register entry).1, place_toNat room member, extend, if_neg new,
      List.idxOf_append_of_notMem new, List.idxOf_cons_self, Nat.add_zero]
  · intro id entry found
    rw [numbers.inverse] at found
    rw [(after_numbers few).inverse]
    exact kept entry id found

/-- A URI, the literal of the same text, the URI again, and two questions. -/
def mixedSteps : List Step :=
  [.register (.uri "abc"), .register (.literal "abc"), .entryOf 2, .register (.uri "abc"),
    .idOf (.literal "d")]

theorem growing_numbering_mixedSteps :
    (seen mixedSteps).length < UInt32.size ∧ (after mixedSteps).Numbers (seen mixedSteps) :=
  ⟨by decide, (growing_numbering mixedSteps (by decide) mixedSteps [] (by simp)).1⟩

end Log

end RdfDataset.Lexicon
