import RdfDataset.Memory
import RdfDataset.Proofs.Execution.Attempt
import RdfDataset.Proofs.KeySet
import RdfDataset.Proofs.Lexicon

/-!
# What a memory holds

A memory mirrors a list of statements: its lexicon lists entries, among them those of all these
statements, and its keys are the keys that the statements have under the numbers of that list. The
key of a statement stays the same when more entries are registered, and looking up its ids gives the
statement back.
-/

set_option autoImplicit false

namespace RdfDataset

open Lexicon (place extend)

/-! ## Keys of statements -/

namespace Statement

/-- The key of a statement when the entries have been registered in this order. -/
def key (entries : List Entry) (statement : Statement) : Key where
  subject := place entries statement.subject
  predicate := place entries statement.predicate
  object := place entries statement.object
  graph := statement.graph.elim ObjectId.defaultGraph (place entries)

/-- All entries of the statement have been registered. -/
def KnownTo (entries : List Entry) (statement : Statement) : Prop :=
  ∀ entry ∈ statement.entries, entry ∈ entries

variable {entries more : List Entry} {statement : Statement}

theorem KnownTo.subject (known : statement.KnownTo entries) : statement.subject ∈ entries :=
  known _ (by simp [Statement.entries])

theorem KnownTo.predicate (known : statement.KnownTo entries) : statement.predicate ∈ entries :=
  known _ (by simp [Statement.entries])

theorem KnownTo.object (known : statement.KnownTo entries) : statement.object ∈ entries :=
  known _ (by simp [Statement.entries])

theorem KnownTo.graph (known : statement.KnownTo entries) {entry : Entry}
    (named : statement.graph = some entry) : entry ∈ entries :=
  known _ (by simp [Statement.entries, named])

theorem KnownTo.mono (known : statement.KnownTo entries) (front : entries <+: more) :
    statement.KnownTo more :=
  fun entry member => front.subset (known entry member)

theorem key_of_front (known : statement.KnownTo entries) (front : entries <+: more) :
    statement.key more = statement.key entries := by
  have graph : statement.graph.elim ObjectId.defaultGraph (place more) =
      statement.graph.elim ObjectId.defaultGraph (place entries) := by
    cases named : statement.graph with
    | none => rfl
    | some entry => exact Lexicon.place_of_front front (known.graph named)
  rw [key, key, Lexicon.place_of_front front known.subject,
    Lexicon.place_of_front front known.predicate, Lexicon.place_of_front front known.object,
    graph]

/-- Known entries have ids of their own, none of which is the one of the default graph. -/
theorem key_placed (known : statement.KnownTo entries) (room : entries.length < UInt32.size) :
    KeySet.misplaced? (statement.key entries) = none := by
  have subject := Lexicon.place_ne_zero room known.subject
  have predicate := Lexicon.place_ne_zero room known.predicate
  have object := Lexicon.place_ne_zero room known.object
  simp [KeySet.misplaced?, key, ObjectId.isDefaultGraph, ObjectId.defaultGraph, subject, predicate,
    object]

end Statement

namespace Memory

/-! ## Statements of keys -/

/-- What an id stands for in the position of the graph: the id of the default graph stands for no
named graph. -/
def graph? (memory : Memory) (id : ObjectId) : Option (Option Entry) :=
  if id.isDefaultGraph then some none else some <$> memory.lexicon.entry? id

/-- The statement that a key stands for, if all its ids are in use. -/
def statement? (memory : Memory) (key : Key) : Option Statement := do
  let subject ← memory.lexicon.entry? key.subject
  let predicate ← memory.lexicon.entry? key.predicate
  let object ← memory.lexicon.entry? key.object
  let graph ← memory.graph? key.graph
  return { subject, predicate, object, graph }

variable {memory : Memory} {entries : List Entry} {statements : List Statement}

theorem found_of_known {statement : Statement} (lists : memory.lexicon.Lists entries)
    (known : statement.KnownTo entries) :
    (memory.lexicon.entry? (statement.key entries).subject).isSome ∧
      (memory.lexicon.entry? (statement.key entries).predicate).isSome ∧
      (memory.lexicon.entry? (statement.key entries).object).isSome ∧
      ((statement.key entries).graph ≠ ObjectId.defaultGraph →
        (memory.lexicon.entry? (statement.key entries).graph).isSome) := by
  have found {entry : Entry} (member : entry ∈ entries) :
      (memory.lexicon.entry? (place entries entry)).isSome := by
    rw [lists.entry?_place member]
    rfl
  refine ⟨found known.subject, found known.predicate, found known.object, ?_⟩
  intro other
  rw [Statement.key] at other ⊢
  cases named : statement.graph with
  | none =>
      rw [named] at other
      exact absurd rfl other
  | some entry => exact found (known.graph named)

theorem graph?_key {statement : Statement} (lists : memory.lexicon.Lists entries)
    (known : statement.KnownTo entries) :
    memory.graph? (statement.key entries).graph = some statement.graph := by
  rw [graph?, Statement.key]
  cases named : statement.graph with
  | none => rfl
  | some entry =>
      have inside := known.graph named
      have nonzero : ¬ObjectId.isDefaultGraph (place entries entry) = true := by
        rw [ObjectId.isDefaultGraph, beq_iff_eq]
        exact Lexicon.place_ne_zero lists.room inside
      rw [Option.elim_some, if_neg nonzero, lists.entry?_place inside]
      rfl

theorem statement?_key {statement : Statement} (lists : memory.lexicon.Lists entries)
    (known : statement.KnownTo entries) :
    memory.statement? (statement.key entries) = some statement := by
  have subject : memory.lexicon.entry? (statement.key entries).subject = _ :=
    lists.entry?_place known.subject
  have predicate : memory.lexicon.entry? (statement.key entries).predicate = _ :=
    lists.entry?_place known.predicate
  have object : memory.lexicon.entry? (statement.key entries).object = _ :=
    lists.entry?_place known.object
  rw [statement?, subject, predicate, object, graph?_key lists known]
  rfl

/-! ## Mirrors -/

/-- The memory after these entries have been registered and these statements inserted. -/
structure Mirrors (memory : Memory) (entries : List Entry) (statements : List Statement) :
    Prop where
  lists : memory.lexicon.Lists entries
  known : ∀ statement ∈ statements, statement.KnownTo entries
  holds : memory.keys.Holds (statements.toFinset.image (Statement.key entries))

theorem mirrors_empty : Mirrors empty [] [] where
  lists := Lexicon.lists_empty
  known _ member := nomatch member
  holds := KeySet.holds_empty

namespace Mirrors

theorem register (mirrors : memory.Mirrors entries statements) {entry : Entry}
    (room : (extend entries entry).length < UInt32.size) :
    (memory.register entry).1 = place (extend entries entry) entry ∧
      (memory.register entry).2.Mirrors (extend entries entry) statements := by
  obtain ⟨answer, lists⟩ := mirrors.lists.register room
  have front := Lexicon.prefix_extend entries entry
  refine ⟨answer, lists, fun statement member => (mirrors.known statement member).mono front, ?_⟩
  have same : statements.toFinset.image (Statement.key (extend entries entry)) =
      statements.toFinset.image (Statement.key entries) := by
    apply Finset.image_congr
    intro statement member
    exact Statement.key_of_front (mirrors.known statement (List.mem_toFinset.mp member)) front
  rw [same]
  exact mirrors.holds

theorem index (mirrors : memory.Mirrors entries statements) {statement : Statement}
    (known : statement.KnownTo entries) :
    (memory.index (statement.key entries)).1 = .ok () ∧
      (memory.index (statement.key entries)).2.Mirrors entries (statements ++ [statement]) := by
  obtain ⟨answer, holds⟩ :=
    mirrors.holds.index (Statement.key_placed known mirrors.lists.room)
  refine ⟨answer, mirrors.lists, ?_, ?_⟩
  · intro other member
    rcases List.mem_append.mp member with before | last
    · exact mirrors.known other before
    · rw [List.mem_singleton.mp last]
      exact known
  · have more : (statements ++ [statement]).toFinset = insert statement statements.toFinset := by
      ext other
      simp
    rw [more, Finset.image_insert]
    exact holds

end Mirrors

/-! ## Calls

All entries that are ever registered come from one vocabulary, which has fewer members than there
are words, so that there is always room in the lexicon. -/

/-- All entries that the calls register come from a vocabulary. -/
def RegistersIn (vocabulary : Finset Entry) (calls : List Call) : Prop :=
  ∀ entry, some entry ∈ calls.map Call.registered? → entry ∈ vocabulary

theorem RegistersIn.of_append {vocabulary : Finset Entry} {calls more : List Call}
    (inside : RegistersIn vocabulary (calls ++ more)) :
    RegistersIn vocabulary calls ∧ RegistersIn vocabulary more := by
  unfold RegistersIn at inside ⊢
  rw [List.map_append] at inside
  exact ⟨fun entry member => inside entry (List.mem_append_left _ member),
    fun entry member => inside entry (List.mem_append_right _ member)⟩

theorem RegistersIn.of_continues {vocabulary : Finset Entry} {world : World Memory}
    {middle final : Record Memory} {calls : List Call}
    (inside : RegistersIn vocabulary final.calls) (step : middle.Continues world final calls) :
    RegistersIn vocabulary middle.calls ∧ RegistersIn vocabulary calls := by
  rw [step.calls_eq] at inside
  exact inside.of_append

/-- A memory that mirrors the statements, with a lexicon of entries from a vocabulary. -/
def MirrorsWithin (memory : Memory) (vocabulary : Finset Entry) (statements : List Statement) :
    Prop :=
  ∃ entries, (∀ entry ∈ entries, entry ∈ vocabulary) ∧ memory.Mirrors entries statements

section Calls

variable {vocabulary : Finset Entry} {before after : Memory} {calls : List Call} {cancelled : Bool}

theorem length_lt_of_within (small : vocabulary.card < UInt32.size) (nodup : entries.Nodup)
    (within : ∀ entry ∈ entries, entry ∈ vocabulary) : entries.length < UInt32.size := by
  have subset : entries.toFinset ⊆ vocabulary := fun entry member =>
    within entry (List.mem_toFinset.mp member)
  have card := Finset.card_le_card subset
  rw [List.toFinset_card_of_nodup nodup] at card
  omega

/-- Registrations extend the list of entries, and answer with places in it. -/
theorem Mirrors.makes (small : vocabulary.card < UInt32.size)
    (made : (world cancelled).Makes before calls after)
    (inside : RegistersIn vocabulary calls)
    (silent : calls.filterMap Call.indexed? = [])
    (mirrors : before.Mirrors entries statements)
    (within : ∀ entry ∈ entries, entry ∈ vocabulary) :
    ∃ more, entries <+: more ∧ (∀ entry ∈ more, entry ∈ vocabulary) ∧
      after.Mirrors more statements ∧
      ∀ entry id, Call.register entry id ∈ calls → entry ∈ more ∧ id = place more entry := by
  induction made generalizing entries with
  | nil memory =>
      refine ⟨entries, List.prefix_refl entries, within, mirrors, ?_⟩
      intro entry id member
      cases member
  | @cons before middle after call calls answered _ ih =>
      cases call with
      | index key answer => cases silent
      | register entry id =>
          have here : entry ∈ vocabulary := inside entry (List.mem_cons_self ..)
          have within' : ∀ other ∈ extend entries entry, other ∈ vocabulary := by
            intro other member
            rcases Lexicon.mem_extend.mp member with old | rfl
            · exact within other old
            · exact here
          have room := length_lt_of_within small
            (Lexicon.nodup_extend mirrors.lists.nodup entry) within'
          obtain ⟨answer, mirrors'⟩ := mirrors.register room
          have step : before.register entry = (id, middle) := answered
          rw [step] at answer mirrors'
          obtain ⟨more, front, within'', mirrors'', places⟩ :=
            ih (fun other member => inside other (List.mem_cons_of_mem _ member)) silent mirrors'
              within'
          have known : entry ∈ extend entries entry := Lexicon.mem_extend.mpr (Or.inr rfl)
          refine ⟨more, (Lexicon.prefix_extend entries entry).trans front, within'', mirrors'', ?_⟩
          intro other id' member
          rcases List.mem_cons.mp member with first | later
          · cases first
            rw [Lexicon.place_of_front front known]
            exact ⟨front.subset known, answer⟩
          · exact places other id' later

theorem key_of_registrations {statement : Statement} {key : Key} {more : List Entry}
    (fits : statement.Fits key)
    (places : ∀ entry id, Call.register entry id ∈ statement.registrations key →
      entry ∈ more ∧ id = place more entry) :
    statement.KnownTo more ∧ key = statement.key more := by
  have subject := places statement.subject key.subject (by simp [Statement.registrations])
  have predicate := places statement.predicate key.predicate (by simp [Statement.registrations])
  have object := places statement.object key.object (by simp [Statement.registrations])
  have graph : ∀ entry, statement.graph = some entry →
      entry ∈ more ∧ key.graph = place more entry := fun entry named =>
    places entry key.graph (by simp [Statement.registrations, named])
  constructor
  · intro entry member
    simp only [Statement.entries, List.mem_append, Option.mem_toList, List.mem_cons,
      List.not_mem_nil, or_false] at member
    rcases member with named | rfl | rfl | rfl
    · exact (graph entry named).1
    · exact subject.1
    · exact predicate.1
    · exact object.1
  · have last : key.graph = statement.graph.elim ObjectId.defaultGraph (place more) := by
      cases named : statement.graph with
      | none => exact fits named
      | some entry => exact (graph entry named).2
    rw [Statement.key, ← subject.2, ← predicate.2, ← object.2, ← last]

end Calls

end Memory

end RdfDataset
