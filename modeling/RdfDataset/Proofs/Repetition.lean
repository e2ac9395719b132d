import RdfDataset.Proofs.Session

/-!
# Updates that are executed again

A memory only grows: ids and keys that it has once given out or taken it keeps. A stage of an
execution settles if, whenever it has run, running it again on the memory that it has left, or on
any memory that has grown from there, answers the same and changes nothing. The calls of the
executor settle, and so does everything that is put together from stages that settle.

None of this depends on room in the lexicon, for what has been registered keeps its id also after
the counter has gone round.
-/

set_option autoImplicit false

namespace RdfDataset

open Std (ExtTreeSet)

/-! ## Keys that are held already -/

namespace Index

theorem Sorted.insertKey_of_mem {index : Sorted} {key : Key}
    (known : index.order.row key ∈ index.rows) : (index.insertKey key).2 = index := by
  have same : (index.insertKey key).2.rows = index.rows := by
    apply ExtTreeSet.ext_mem
    intro row
    rw [Sorted.mem_insertKey, or_iff_right_of_imp]
    rintro rfl
    exact known
  exact congrArg (Sorted.mk index.order) same

namespace Synced

variable {synced : Synced} {key : Key}

/-- Every index has the key, and its graph has been named. -/
structure Has (synced : Synced) (key : Key) : Prop where
  rows : ∀ index ∈ synced.indexes, index.order.row key ∈ index.rows
  graph : key.graph ≠ ObjectId.defaultGraph → key.graph ∈ synced.graphs

theorem has_insert (synced : Synced) (key : Key) : (synced.insert key).2.Has key := by
  constructor
  · intro index member
    rw [indexes_insert] at member
    obtain ⟨before, _, rfl⟩ := List.mem_map.mp member
    exact Sorted.mem_insertKey.mpr (Or.inl rfl)
  · intro named
    exact mem_graphs_insert.mpr (Or.inr ⟨named, rfl⟩)

theorem Has.insert (has : synced.Has key) (other : Key) : (synced.insert other).2.Has key := by
  constructor
  · intro index member
    rw [indexes_insert] at member
    obtain ⟨before, inside, rfl⟩ := List.mem_map.mp member
    exact Sorted.mem_insertKey.mpr (Or.inr (has.rows before inside))
  · intro named
    exact mem_graphs_insert.mpr (Or.inl (has.graph named))

theorem Has.insert_eq (has : synced.Has key) : (synced.insert key).2 = synced := by
  have indexes : (synced.insert key).2.indexes = synced.indexes := by
    have fixed : ∀ index ∈ synced.indexes, (index.insertKey key).2 = id index :=
      fun index member => Sorted.insertKey_of_mem (has.rows index member)
    rw [indexes_insert, List.map_congr_left fixed, List.map_id]
  have graphs : (synced.insert key).2.graphs = synced.graphs := by
    apply ExtTreeSet.ext_mem
    intro id
    rw [mem_graphs_insert, or_iff_left_of_imp]
    rintro ⟨named, rfl⟩
    exact has.graph named
  exact congrArg₂ Synced.mk indexes graphs

end Synced

end Index

theorem KeySet.index_placed {keys : KeySet} {key : Key} (placed : misplaced? key = none) :
    keys.index key = (.ok (), ⟨(keys.indexes.insert key).2⟩) := by
  rw [index, placed]

theorem KeySet.index_misplaced {keys : KeySet} {key : Key} {position : Position}
    (misplaced : misplaced? key = some position) :
    keys.index key = (.error (.corruption (misplacedMessage position key)), keys) := by
  rw [index, misplaced]

/-! ## Growth -/

namespace Memory

/-- The later memory knows all ids and keys that the earlier one knows. -/
structure Grows (earlier later : Memory) : Prop where
  ids : ∀ entry id, earlier.lexicon.id? entry = some id → later.lexicon.id? entry = some id
  keys : ∀ key, earlier.keys.indexes.Has key → later.keys.indexes.Has key

namespace Grows

variable {earlier middle later : Memory}

theorem refl (memory : Memory) : memory.Grows memory where
  ids _ _ known := known
  keys _ has := has

theorem trans (first : earlier.Grows middle) (second : middle.Grows later) :
    earlier.Grows later where
  ids entry id known := second.ids entry id (first.ids entry id known)
  keys key has := second.keys key (first.keys key has)

theorem register (memory : Memory) (entry : Entry) :
    memory.Grows (memory.register entry).2 where
  ids other id known := by
    cases unseen : memory.lexicon.id? entry with
    | some given => simpa [Memory.register, Lexicon.register_of_id? unseen] using known
    | none =>
        have elsewhere : entry ≠ other := by
          rintro rfl
          rw [unseen] at known
          cases known
        simpa [Memory.register, Lexicon.register_of_unseen unseen, Lexicon.id?_append, elsewhere]
          using known
  keys _ has := has

theorem index (memory : Memory) (key : Key) : memory.Grows (memory.index key).2 where
  ids _ _ known := known
  keys other has := by
    cases place : KeySet.misplaced? key with
    | some position => simpa [Memory.index, KeySet.index_misplaced place] using has
    | none => simpa [Memory.index, KeySet.index_placed place] using has.insert key

theorem of_makes {cancelled : Bool} {calls : List Call}
    (made : (world cancelled).Makes earlier calls later) : earlier.Grows later := by
  induction made with
  | nil memory => exact .refl memory
  | @cons before after _ call calls answered _ ih =>
      cases call with
      | register entry id =>
          have step : before.register entry = (id, after) := answered
          have grows := Grows.register before entry
          rw [step] at grows
          exact grows.trans ih
      | index key answer =>
          have step : before.index key = (answer, after) := answered
          have grows := Grows.index before key
          rw [step] at grows
          exact grows.trans ih

end Grows

/-! ## Stages that settle -/

/-- Whatever the stage does, doing it again later does nothing more, and answers the same. -/
def Settles {α : Type} (stage : Memory → α × Memory) : Prop :=
  ∀ memory, memory.Grows (stage memory).2 ∧
    ∀ later, (stage memory).2.Grows later → stage later = ((stage memory).1, later)

theorem Settles.of_eq {α : Type} {stage stage' : Memory → α × Memory} (settles : Settles stage')
    (same : ∀ memory, stage memory = stage' memory) : Settles stage := by
  rw [funext same]
  exact settles

theorem settles_answer {α : Type} (answer : α) : Settles fun memory => (answer, memory) :=
  fun memory => ⟨.refl memory, fun _ _ => rfl⟩

theorem register_settles (entry : Entry) : Settles (register entry) := by
  intro memory
  refine ⟨.register memory entry, fun later grows => ?_⟩
  have given : (memory.register entry).2.lexicon.id? entry = some (memory.register entry).1 := by
    cases unseen : memory.lexicon.id? entry with
    | some id => simp [Memory.register, Lexicon.register_of_id? unseen, unseen]
    | none => simp [Memory.register, Lexicon.register_of_unseen unseen, Lexicon.id?_append]
  have known := grows.ids _ _ given
  simp [register.eq_1 entry later, Lexicon.register_of_id? known]

theorem index_settles (key : Key) : Settles (index key) := by
  intro memory
  refine ⟨.index memory key, fun later grows => ?_⟩
  cases place : KeySet.misplaced? key with
  | some position => simp [index, KeySet.index_misplaced place]
  | none =>
      have has : (memory.index key).2.keys.indexes.Has key := by
        simpa [index, KeySet.index_placed place] using memory.keys.indexes.has_insert key
      simp [index, KeySet.index_placed place, (grows.keys key has).insert_eq]

theorem Settles.andThen {α β : Type} {first : Memory → α × Memory} {more : α → Memory → β × Memory}
    (settles : Settles first) (settles' : ∀ answer, Settles (more answer)) :
    Settles fun memory => more (first memory).1 (first memory).2 := by
  intro memory
  obtain ⟨grows, again⟩ := settles memory
  obtain ⟨grows', again'⟩ := settles' (first memory).1 (first memory).2
  refine ⟨grows.trans grows', fun later behind => ?_⟩
  simp only [again later (grows'.trans behind), again' later behind]

theorem Settles.next {ε δ α β : Type} {first : Memory → Outcome Memory ε α} (wrap : ε → δ)
    {more : α → Memory → Outcome Memory δ β} (settles : Settles first)
    (settles' : ∀ answer, Settles (more answer)) :
    Settles fun memory => (first memory).next wrap more := by
  have second : ∀ answer, Settles fun memory => Outcome.next wrap more (answer, memory) := by
    intro answer
    cases answer with
    | error cause => exact settles_answer _
    | ok answer => exact settles' answer
  exact settles.andThen second

end Memory

/-! ## Executions settle -/

section Executions

variable (setting : Setting)

open Memory (Settles settles_answer)

namespace Insertion

theorem normalize_settles (term : Term) :
    Settles (normalize (Memory.world false) setting term) := by
  cases known : setting.entry term with
  | error cause =>
      exact (settles_answer (.error cause)).of_eq fun memory =>
        normalize_unknown _ setting memory known
  | ok entry =>
      have registers := (Memory.register_settles entry).andThen fun id =>
        settles_answer (Except.ok (ε := NormalizationError) id)
      exact registers.of_eq fun memory => normalize_registered _ setting known rfl

theorem normalizeGraph_settles (graph : Option Term) :
    Settles (normalizeGraph (Memory.world false) setting graph) := by
  cases graph with
  | none => exact settles_answer _
  | some term => exact normalize_settles setting term

theorem key_settles (quad : Quad) : Settles (key (Memory.world false) setting quad) :=
  (normalizeGraph_settles setting quad.graph).andThen fun graph =>
    (normalize_settles setting quad.subject).andThen fun subject =>
      (normalize_settles setting quad.predicate).andThen fun predicate =>
        (normalize_settles setting quad.object).andThen fun object =>
          settles_answer (assemble graph subject predicate object)

theorem store_settles (key : Key) : Settles (store (Memory.world false) key) := by
  have indexes := (Memory.index_settles key).andThen fun answer =>
    settles_answer ((answer.mapError InsertionError.backend).map fun _ => key)
  exact indexes.of_eq fun memory => store_indexed _ key rfl

theorem insertQuad_settles (quad : Quad) :
    Settles (insertQuad (Memory.world false) setting quad) :=
  ((key_settles setting quad).next id store_settles).of_eq
    (insertQuad_eq_next (Memory.world false) setting quad)

end Insertion

namespace Update

variable {υ : Type} (operationOf : υ → Except ParseError Operation)

theorem insertQuads_settles (unit quad : Nat) (quads : List Quad) :
    Settles (insertQuads (Memory.world false) setting unit quad quads) := by
  induction quads generalizing quad with
  | nil => exact settles_answer _
  | cons first rest ih =>
      have stages := (Insertion.insertQuad_settles setting first).next (failure unit quad)
        fun _ => ih (quad + 1)
      exact stages.of_eq (insertQuads_cons (Memory.world false) setting unit quad first rest)

theorem executeUnit_settles (number : Nat) (unit : υ) :
    Settles (executeUnit (Memory.world false) setting operationOf number unit) := by
  rcases operation_cases operationOf unit with
    ⟨cause, unreadable⟩ | ⟨quads, read⟩ | ⟨operation, read, other⟩
  · exact (settles_answer _).of_eq fun memory =>
      executeUnit_unreadable _ setting number rfl unreadable
  · have stages := (insertQuads_settles setting number 0 quads).next id
      fun _ => settles_answer (.ok quads.length)
    exact stages.of_eq fun memory => executeUnit_insertData _ setting number rfl read
  · exact (settles_answer _).of_eq fun memory =>
      executeUnit_unsupported _ setting number rfl read other

theorem executeUnits_settles (number : Nat) (summary : Summary) (units : List υ) :
    Settles (executeUnits (Memory.world false) setting operationOf number summary units) := by
  induction units generalizing number summary with
  | nil => exact settles_answer _
  | cons unit rest ih =>
      have stages := (executeUnit_settles setting operationOf number unit).next id
        fun quads => ih (number + 1) (summary.addUnit quads)
      exact stages.of_eq
        (executeUnits_cons (Memory.world false) setting operationOf number summary unit rest)

end Update

end Executions

/-! ## Requests in between -/

theorem Request.run_grows {υ : Type} (request : Request υ) (memory : Memory) :
    memory.Grows (request.run memory).2.state := by
  rcases request.run_cases memory with ⟨tree, _, run⟩ | ⟨_, unchanged, _⟩
  · rw [run]
    exact .of_makes (Update.execute_makes (Memory.world false) request.token request.literals
      request.reader.operation tree memory)
  · rw [unchanged]
    exact .refl memory

/-- The memory that requests leave behind, one after the other. -/
def Memory.after {υ : Type} (memory : Memory) (requests : List (Request υ)) : Memory :=
  requests.foldl (fun memory request => (request.run memory).2.state) memory

theorem Memory.after_grows {υ : Type} (memory : Memory) (requests : List (Request υ)) :
    memory.Grows (memory.after requests) := by
  induction requests generalizing memory with
  | nil => exact .refl memory
  | cons request rest ih => exact (request.run_grows memory).trans (ih _)

/-- Once an update has been executed, however it ended, executing it again has the same result and
changes nothing, right afterwards and after any other requests. -/
theorem Update.execute_again {υ υ' : Type} (literals : LiteralOptions)
    (operationOf : υ → Except ParseError Operation) (tree : RequestTree υ) (memory : Memory)
    (others : List (Request υ')) :
    let first := execute (Memory.world false) literals operationOf tree memory
    let reached := first.2.after others
    execute (Memory.world false) literals operationOf tree reached = (first.1, reached) := by
  intro first reached
  have settles := executeUnits_settles ⟨literals, .ofPrologue tree.prologue⟩ operationOf 0 .zero
    tree.units
  exact (settles memory).2 reached (first.2.after_grows others)

end RdfDataset
