import RdfDataset.Proofs.Insertion
import RdfDataset.Proofs.Lexicon.Renumbering
import RdfDataset.Proofs.Lexicon.Run
import RdfDataset.Proofs.Memory

/-!
# The order of attempts

In memory, the positions of a quad may be attempted in any order. Every order registers the same
entries, so that the same lexicon comes about up to the numbers of entries that are new to it; what
is reported is looked up in the fixed order of positions and does not depend on the attempts.
-/

set_option autoImplicit false

namespace RdfDataset

open Lexicon (place extend extendAll)

/-- The key with its ids replaced. -/
def Key.map (rename : ObjectId → ObjectId) (key : Key) : Key :=
  ⟨rename key.subject, rename key.predicate, rename key.object, rename key.graph⟩

namespace Insertion

/-! ## Positions among listed entries -/

section Positions

variable (setting : Setting) (quad : Quad)

/-- The entry that a position registers. -/
def entryAt (position : Position) : Option Entry :=
  (quad.term? position).bind fun term => (setting.entry term).toOption

/-- The answer of a position when the entries have been registered in this order. -/
def idIn (entries : List Entry) (position : Position) : Except NormalizationError ObjectId :=
  (setting.graphEntry (quad.term? position)).map fun entry =>
    entry.elim ObjectId.defaultGraph (place entries)

theorem filterMap_entryAt :
    Position.all.filterMap (entryAt setting quad) = quad.entries setting := by
  have terms : quad.terms = Position.all.filterMap quad.term? := by
    obtain ⟨subject, predicate, object, graph⟩ := quad
    cases graph <;> rfl
  rw [Quad.entries, terms, List.filterMap_filterMap]
  rfl

theorem idIn_some (position : Position) {term : Term} (entries : List Entry)
    (here : quad.term? position = some term) :
    idIn setting quad entries position = (setting.entry term).map (place entries) := by
  rw [idIn, here, Setting.graphEntry]
  cases setting.entry term <;> rfl

theorem assembleAll_idIn (entries : List Entry) : assembleAll (idIn setting quad entries) =
    (quad.statement setting).map (Statement.key entries) := by
  have graph : idIn setting quad entries .graph = (setting.graphEntry quad.graph).map fun entry =>
      entry.elim ObjectId.defaultGraph (place entries) := rfl
  rw [assembleAll, graph, idIn_some setting quad .subject entries rfl,
    idIn_some setting quad .predicate entries rfl, idIn_some setting quad .object entries rfl]
  unfold Quad.statement assemble
  cases setting.graphEntry quad.graph <;> cases setting.entry quad.subject <;>
    cases setting.entry quad.predicate <;> cases setting.entry quad.object <;> rfl

variable {setting quad}

/-- More registrations do not change the answer of a position whose entry is listed. -/
theorem idIn_of_front {entries more : List Entry} {position : Position} (front : entries <+: more)
    (listed : ∀ entry ∈ entryAt setting quad position, entry ∈ entries) :
    idIn setting quad more position = idIn setting quad entries position := by
  unfold idIn
  unfold entryAt at listed
  cases here : quad.term? position with
  | none => rfl
  | some term =>
      rw [Setting.graphEntry]
      cases known : setting.entry term with
      | error cause => rfl
      | ok entry =>
          have member : entry ∈ entries := by
            apply listed
            simp [here, known, Except.toOption]
          simp [Except.map, Lexicon.place_of_front front member]

end Positions

/-! ## Attempts on a memory -/

section Attempts

variable (setting : Setting) (quad : Quad) {memory : Memory} {entries : List Entry}

theorem attempt_lists (lists : memory.lexicon.Lists entries)
    (room : entries.length + 1 < UInt32.size) (position : Position) :
    (attempt (Memory.world false) setting quad position memory).1 =
        idIn setting quad (extendAll entries (entryAt setting quad position).toList) position ∧
      (attempt (Memory.world false) setting quad position memory).2.lexicon.Lists
        (extendAll entries (entryAt setting quad position).toList) := by
  unfold attempt idIn entryAt
  cases quad.term? position with
  | none => exact ⟨rfl, lists⟩
  | some term =>
      rw [normalizeGraph, Setting.graphEntry, Option.bind_some]
      cases known : setting.entry term with
      | error cause =>
          rw [normalize_unknown (Memory.world false) setting memory known]
          exact ⟨rfl, lists⟩
      | ok entry =>
          rw [normalize_registered (Memory.world false) setting known rfl]
          have longer : (extend entries entry).length < UInt32.size :=
            Nat.lt_of_le_of_lt (Lexicon.length_extend_le entries entry) room
          obtain ⟨answer, lists'⟩ := lists.register longer
          exact ⟨congrArg Except.ok answer, lists'⟩

theorem attemptAll_lists {order : List Position} (nodup : order.Nodup)
    (lists : memory.lexicon.Lists entries)
    (room : entries.length + order.length < UInt32.size) :
    (attemptAll (Memory.world false) setting quad order memory).2.lexicon.Lists
        (extendAll entries (order.filterMap (entryAt setting quad))) ∧
      ∀ position ∈ order, (attemptAll (Memory.world false) setting quad order memory).1 position =
        idIn setting quad (extendAll entries (order.filterMap (entryAt setting quad)))
          position := by
  induction order generalizing memory entries with
  | nil => exact ⟨lists, fun _ member => nomatch member⟩
  | cons position rest ih =>
      obtain ⟨new, nodup⟩ := List.nodup_cons.mp nodup
      rw [List.length_cons] at room
      obtain ⟨answer, lists'⟩ := attempt_lists setting quad lists (by omega) position
      have longer := Lexicon.length_extendAll_le entries (entryAt setting quad position).toList
      have single : (entryAt setting quad position).toList.length ≤ 1 := by
        cases entryAt setting quad position <;> simp
      obtain ⟨lists'', answers⟩ := ih nodup lists' (by omega)
      have split : (position :: rest).filterMap (entryAt setting quad) =
          (entryAt setting quad position).toList ++ rest.filterMap (entryAt setting quad) := by
        cases here : entryAt setting quad position <;> simp [here]
      rw [split, Lexicon.extendAll_append]
      refine ⟨lists'', ?_⟩
      intro other member
      rcases List.mem_cons.mp member with rfl | later
      · have listed : ∀ entry ∈ entryAt setting quad other,
            entry ∈ extendAll entries (entryAt setting quad other).toList := by
          intro entry here
          exact Lexicon.mem_extendAll.mpr (Or.inr (Option.mem_toList.mpr here))
        rw [attemptAll_here, answer, idIn_of_front (Lexicon.prefix_extendAll _ _) listed]
      · rw [attemptAll_later _ _ _ new later, answers other later]

theorem statement_known {statement : Statement} (means : quad.statement setting = .ok statement)
    {order : List Position} (all : order.Perm Position.all) (entries : List Entry) :
    statement.KnownTo (extendAll entries (order.filterMap (entryAt setting quad))) := by
  intro entry member
  rw [← Quad.entries_of_statement means, ← filterMap_entryAt] at member
  exact Lexicon.mem_extendAll.mpr (Or.inr ((all.filterMap _).mem_iff.mpr member))

theorem store_known {statement : Statement} (lists : memory.lexicon.Lists entries)
    (known : statement.KnownTo entries) :
    (store (Memory.world false) (statement.key entries) memory).1 = .ok (statement.key entries) ∧
      (store (Memory.world false) (statement.key entries) memory).2.lexicon = memory.lexicon := by
  have placed := Statement.key_placed known lists.room
  have indexed : ((Memory.world false).index (statement.key entries) memory).1 = .ok () := by
    show (memory.keys.index (statement.key entries)).1 = .ok ()
    rw [KeySet.index, placed]
  rw [store_indexed (Memory.world false) _ rfl, indexed]
  exact ⟨rfl, rfl⟩

/-- Every order answers with the statement of the quad, under the numbers that it has given out. -/
theorem insertInOrder_lists {order : List Position} (all : order.Perm Position.all)
    (lists : memory.lexicon.Lists entries) (room : entries.length + 4 < UInt32.size) :
    (insertInOrder (Memory.world false) setting quad order memory).1 =
        (quad.statement setting).map
          (Statement.key (extendAll entries (order.filterMap (entryAt setting quad)))) ∧
      (insertInOrder (Memory.world false) setting quad order memory).2.lexicon.Lists
        (extendAll entries (order.filterMap (entryAt setting quad))) := by
  have nodup : order.Nodup := all.nodup_iff.mpr (by decide)
  have length : order.length = 4 := all.length_eq
  obtain ⟨lists', answers⟩ := attemptAll_lists setting quad nodup lists (by omega)
  have every : (attemptAll (Memory.world false) setting quad order memory).1 =
      idIn setting quad (extendAll entries (order.filterMap (entryAt setting quad))) := by
    funext position
    apply answers
    rw [all.mem_iff]
    cases position <;> decide
  rw [insertInOrder_eq_next, every, assembleAll_idIn]
  cases means : quad.statement setting with
  | error cause => exact ⟨rfl, lists'⟩
  | ok statement =>
      obtain ⟨answer, same⟩ :=
        store_known lists' (statement_known setting quad means all entries)
      refine ⟨answer, ?_⟩
      show (store (Memory.world false) _ _).2.lexicon.Lists _
      rw [same]
      exact lists'

end Attempts

/-! ## Up to the numbers of new entries -/

/-- Two outcomes of an insertion into the same memory, which can only be told apart by the numbers
of entries that were new to its lexicon. -/
structure SameUpToNumbers (before : Memory) (one other : Except InsertionError Key × Memory) :
    Prop where
  fails : ∀ error, one.1 = .error error ↔ other.1 = .error error
  decodes : ∀ key, one.1 = .ok key → ∃ key' statement, other.1 = .ok key' ∧
    one.2.statement? key = some statement ∧ other.2.statement? key' = some statement
  entries : ∀ entry, (∃ id, one.2.lexicon.entry? id = some entry) ↔
    ∃ id, other.2.lexicon.entry? id = some entry
  kept : ∀ entry id, before.lexicon.id? entry = some id →
    one.2.lexicon.id? entry = some id ∧ other.2.lexicon.id? entry = some id
  renumbers : ∃ rename : Equiv.Perm ObjectId, rename ObjectId.defaultGraph = ObjectId.defaultGraph ∧
    (∀ entry id, before.lexicon.id? entry = some id → rename id = id) ∧
    (∀ entry, other.2.lexicon.id? entry = (one.2.lexicon.id? entry).map rename) ∧
    other.1 = one.1.map (Key.map rename)

section Numbers

variable {entries more others : List Entry} {lexicon lexicon' : Lexicon}

theorem renumber_key {statement : Statement} (lists : lexicon.Lists more)
    (lists' : lexicon'.Lists others) (same : more.Perm others) (known : statement.KnownTo more) :
    (statement.key more).map (lexicon.renumber lexicon') = statement.key others := by
  have each : ∀ entry ∈ statement.entries,
      lexicon.renumber lexicon' (place more entry) = place others entry := by
    intro entry member
    exact lists.renumber_place lists' (known entry member) (same.mem_iff.mp (known entry member))
  have graph : lexicon.renumber lexicon' (statement.key more).graph =
      (statement.key others).graph := by
    unfold Statement.key
    cases named : statement.graph with
    | none => exact Lexicon.renumber_unused (lists.entry_eq ObjectId.defaultGraph)
    | some entry => exact each entry (by simp [Statement.entries, named])
  rw [Key.map, graph]
  unfold Statement.key
  rw [each _ (by simp [Statement.entries]), each _ (by simp [Statement.entries]),
    each _ (by simp [Statement.entries])]

/-- Two outcomes with the same meaning, over lists of the same entries. -/
theorem sameUpToNumbers_of_lists {before : Memory} {one other : Except InsertionError Key × Memory}
    {meaning : Except InsertionError Statement} (lists : before.lexicon.Lists entries)
    (front : entries <+: more) (front' : entries <+: others) (same : more.Perm others)
    (lists₁ : one.2.lexicon.Lists more) (lists₂ : other.2.lexicon.Lists others)
    (answer₁ : one.1 = meaning.map (Statement.key more))
    (answer₂ : other.1 = meaning.map (Statement.key others))
    (known : ∀ statement, meaning = .ok statement → statement.KnownTo more) :
    SameUpToNumbers before one other := by
  have found : ∀ {lexicon : Lexicon} {listed : List Entry}, lexicon.Lists listed →
      ∀ entry, (∃ id, lexicon.entry? id = some entry) ↔ entry ∈ listed := by
    intro lexicon listed lists entry
    constructor
    · rintro ⟨id, here⟩
      exact (lists.counts.id?_eq_some_iff.mp (lists.entry?_eq_some_iff.mp here)).1
    · intro member
      exact ⟨_, lists.entry?_place member⟩
  have kept : ∀ {lexicon : Lexicon} {listed : List Entry}, lexicon.Lists listed →
      entries <+: listed → ∀ entry id, before.lexicon.id? entry = some id →
        lexicon.id? entry = some id := by
    intro lexicon listed lists' front entry id given
    obtain ⟨old, rfl⟩ := lists.counts.id?_eq_some_iff.mp given
    rw [lists'.counts.id?_of_mem (front.subset old), Lexicon.place_of_front front old]
  constructor
  · intro error
    rw [answer₁, answer₂]
    cases meaning <;> simp [Except.map]
  · intro key ok
    rw [answer₁] at ok
    rw [answer₂]
    cases means : meaning with
    | error cause =>
        rw [means] at ok
        cases ok
    | ok statement =>
        rw [means] at ok
        cases ok
        have knownOne := known statement means
        have knownOther : statement.KnownTo others := fun entry member =>
          same.mem_iff.mp (knownOne entry member)
        exact ⟨_, statement, rfl, Memory.statement?_key lists₁ knownOne,
          Memory.statement?_key lists₂ knownOther⟩
  · intro entry
    rw [found lists₁, found lists₂, same.mem_iff]
  · intro entry id given
    exact ⟨kept lists₁ front entry id given, kept lists₂ front' entry id given⟩
  · refine ⟨lists₁.renumbering lists₂ same, ?_, ?_, lists₁.id?_renumber lists₂ same, ?_⟩
    · exact Lexicon.renumber_unused (lists₁.entry_eq ObjectId.defaultGraph)
    · intro entry id given
      obtain ⟨old, rfl⟩ := lists.counts.id?_eq_some_iff.mp given
      show one.2.lexicon.renumber other.2.lexicon _ = _
      rw [← Lexicon.place_of_front front old,
        lists₁.renumber_place lists₂ (front.subset old) (front'.subset old),
        Lexicon.place_of_front front old, Lexicon.place_of_front front' old]
    · rw [answer₁, answer₂]
      cases means : meaning with
      | error cause => rfl
      | ok statement =>
          exact congrArg Except.ok (renumber_key lists₁ lists₂ same (known statement means)).symm

end Numbers

/-- In a memory whose lexicon has been reached by any steps and has room for four more entries, the
positions of a quad may be attempted in any order: compared with the order graph, subject,
predicate, object, only the numbers of new entries can be other ones. -/
theorem insertQuad_any_order {memory : Memory} {steps : List Lexicon.Step}
    (reached : memory.lexicon = (Lexicon.Log.after steps).lexicon)
    (room : (Lexicon.seen steps).length + 4 < UInt32.size) (setting : Setting) (quad : Quad)
    {order : List Position} (all : order.Perm Position.all) :
    insertQuad (Memory.world false) setting quad memory =
        insertInOrder (Memory.world false) setting quad Position.all memory ∧
      SameUpToNumbers memory (insertQuad (Memory.world false) setting quad memory)
        (insertInOrder (Memory.world false) setting quad order memory) := by
  have lists : memory.lexicon.Lists (Lexicon.seen steps) := by
    rw [reached]
    exact Lexicon.Log.after_lists (by omega)
  obtain ⟨answer₁, lists₁⟩ := insertInOrder_lists setting quad (List.Perm.refl _) lists room
  obtain ⟨answer₂, lists₂⟩ := insertInOrder_lists setting quad all lists room
  rw [← insertInOrder_all]
  refine ⟨rfl, ?_⟩
  exact sameUpToNumbers_of_lists lists (Lexicon.prefix_extendAll _ _)
    (Lexicon.prefix_extendAll _ _) (Lexicon.perm_extendAll lists.nodup (all.symm.filterMap _))
    lists₁ lists₂ answer₁ answer₂
    fun statement means => statement_known setting quad means (List.Perm.refl _) _

/-- A memory that knows the predicate of the next quad. -/
def knowingPredicate : Memory :=
  ⟨(Lexicon.Log.after [.register (.uri "http://p")]).lexicon, .empty⟩

theorem knowingPredicate_reached : knowingPredicate.lexicon =
    (Lexicon.Log.after [.register (.uri "http://p")]).lexicon :=
  rfl

/-- One entry stands in two positions, and one is known. -/
def selfDescribing : Quad :=
  ⟨.uri (.absolute "http://a"), .uri (.absolute "http://p"), .literal ⟨"v", none, none⟩,
    some (.uri (.absolute "http://a"))⟩

theorem backwards_perm : [Position.object, .predicate, .subject, .graph].Perm Position.all := by
  decide

theorem insertQuad_any_order_backwards :
    (insertQuad (Memory.world false) ⟨{}, .empty⟩ selfDescribing knowingPredicate).1 =
        .ok ⟨2, 1, 3, 2⟩ ∧
      (insertInOrder (Memory.world false) ⟨{}, .empty⟩ selfDescribing
          [.object, .predicate, .subject, .graph] knowingPredicate).1 = .ok ⟨3, 1, 2, 3⟩ ∧
      SameUpToNumbers knowingPredicate
        (insertQuad (Memory.world false) ⟨{}, .empty⟩ selfDescribing knowingPredicate)
        (insertInOrder (Memory.world false) ⟨{}, .empty⟩ selfDescribing
          [.object, .predicate, .subject, .graph] knowingPredicate) :=
  ⟨by decide +kernel, by decide +kernel,
    (insertQuad_any_order knowingPredicate_reached (by decide) ⟨{}, .empty⟩ selfDescribing
      backwards_perm).2⟩

end Insertion

end RdfDataset
