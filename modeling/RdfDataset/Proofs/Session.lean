import RdfDataset.Proofs.Dispatch
import RdfDataset.Proofs.Execution.Reflection

/-!
# Sessions

Requests one after the other on one memory, whatever they ask for, however they fail and whenever
they are cancelled. What the memory holds at any time is exactly the statements of the quads that
have been inserted until then, as long as the session does not register more entries than there are
ids.
-/

set_option autoImplicit false

namespace RdfDataset

open Memory (RegistersIn)

/-! ## Requests -/

/-- A request to a dataset in memory: the options for literals, a text with a reader for it, and
when it is cancelled. -/
structure Request (υ : Type) where
  literals : LiteralOptions
  reader : RequestReader υ
  text : String
  token : Record Memory → Bool

namespace Request

variable {υ : Type}

def run (request : Request υ) (memory : Memory) :
    Outcome (Record Memory) ExecutionError Summary :=
  Dispatch.update ((Memory.world false).recorded request.token) request.literals request.reader
    request.text (.start memory)

/-- The tree of a request that is executed as an update. -/
def tree? (request : Request υ) : Option (RequestTree υ) :=
  (request.reader.tree request.text).toOption.filter RequestTree.isUpdateRequest

/-- What the terms of a tree are read under. -/
def setting (request : Request υ) (tree : RequestTree υ) : Setting :=
  ⟨request.literals, .ofPrologue tree.prologue⟩

/-- The quads that a request inserts with success, each with what its terms are read under. -/
def inserted (request : Request υ) (memory : Memory) : List (Setting × Quad) :=
  match request.tree? with
  | none => []
  | some tree =>
    (Update.insertedUnits ((Memory.world false).recorded request.token) (request.setting tree)
      request.reader.operation 0 tree.units (.start memory)).map (request.setting tree, ·)

/-- Only the trees of updates are executed. -/
theorem run_cases (request : Request υ) (memory : Memory) :
    (∃ tree, request.tree? = some tree ∧ request.run memory =
      Update.execute ((Memory.world false).recorded request.token) request.literals
        request.reader.operation tree (.start memory)) ∨
      (request.tree? = none ∧ (request.run memory).2 = .start memory ∧
        ∀ error, (request.run memory).1 = .error error → error.storageError? = none) := by
  rcases Dispatch.update_cases request.literals request.reader request.text with
    ⟨tree, read, executed⟩ | ⟨unread, error, why, refused⟩
  · exact Or.inl ⟨tree, read, executed _ _⟩
  · have ran : request.run memory = (.error error, .start memory) := refused _ _
    rw [ran]
    refine Or.inr ⟨unread, rfl, ?_⟩
    rintro _ ⟨⟩
    exact why.storageError?

/-- A request adds the statements of the quads that it inserts. -/
theorem run_adds (request : Request υ) {memory : Memory} {vocabulary : Finset Entry}
    (small : vocabulary.card < UInt32.size) {statements : List Statement}
    (mirrors : memory.MirrorsWithin vocabulary statements)
    (inside : RegistersIn vocabulary (request.run memory).2.calls) :
    ∃ added, (request.inserted memory).map (fun pair => pair.2.statement pair.1) = added.map .ok ∧
      Reflects vocabulary (statements ++ added) (request.run memory).2 ∧
      ∀ error, (request.run memory).1 = .error error → error.storageError? = none := by
  have reflects : Reflects vocabulary statements (.start memory) :=
    ⟨mirrors, (fun _ member => nomatch member)⟩
  rw [inserted]
  rcases request.run_cases memory with ⟨tree, read, run⟩ | ⟨read, unchanged, blameless⟩
  · rw [run] at inside ⊢
    rw [read]
    obtain ⟨added, meanings, reflects', blameless⟩ :=
      reflects.executeUnits false request.token (request.setting tree) request.reader.operation
        small 0 .zero tree.units inside
    refine ⟨added, ?_, reflects', blameless⟩
    rw [List.map_map]
    exact meanings
  · rw [read, unchanged]
    refine ⟨[], rfl, ?_, blameless⟩
    rw [List.append_nil]
    exact reflects

end Request

/-! ## Sessions -/

/-- What has happened on a memory: its calls, the quads inserted into it, and the answers to the
requests. -/
structure Session where
  memory : Memory
  calls : List Call
  inserted : List (Setting × Quad)
  answers : List (Except ExecutionError Summary)

namespace Session

variable {υ : Type}

def start : Session := ⟨.empty, [], [], []⟩

/-- One more request, on the memory that the earlier ones have left. -/
def add (session : Session) (request : Request υ) : Session where
  memory := (request.run session.memory).2.state
  calls := session.calls ++ (request.run session.memory).2.calls
  inserted := session.inserted ++ request.inserted session.memory
  answers := session.answers ++ [(request.run session.memory).1]

def after (requests : List (Request υ)) : Session := requests.foldl add start

theorem after_concat (requests : List (Request υ)) (request : Request υ) :
    after (requests ++ [request]) = (after requests).add request := by
  rw [after, List.foldl_append]
  rfl

def registered (session : Session) : Finset Entry :=
  (session.calls.filterMap Call.registered?).toFinset

theorem registersIn_registered (session : Session) :
    RegistersIn session.registered session.calls := by
  intro entry member
  obtain ⟨call, here, same⟩ := List.mem_map.mp member
  rw [registered, List.mem_toFinset, List.mem_filterMap]
  exact ⟨call, here, same⟩

theorem calls_front {earlier requests : List (Request υ)} (front : earlier <+: requests) :
    (after earlier).calls <+: (after requests).calls := by
  obtain ⟨behind, rfl⟩ := front
  induction behind using List.reverseRecOn with
  | nil =>
      rw [List.append_nil]
  | append_singleton behind last ih =>
      rw [← List.append_assoc, after_concat]
      exact ih.trans (List.prefix_append _ _)

/-- A session whose memory mirrors its statements, with nothing to be said against the backend. -/
structure Sound (session : Session) (vocabulary : Finset Entry) (statements : List Statement) :
    Prop where
  meanings : session.inserted.map (fun pair => pair.2.statement pair.1) = statements.map .ok
  mirrors : session.memory.MirrorsWithin vocabulary statements
  accepted : ∀ call ∈ session.calls.filterMap Call.indexed?, call.2 = .ok ()
  blameless : ∀ error, .error error ∈ session.answers → error.storageError? = none

theorem sound_start (vocabulary : Finset Entry) : start.Sound vocabulary [] where
  meanings := rfl
  mirrors := ⟨[], (fun _ member => nomatch member), Memory.mirrors_empty⟩
  accepted _ member := nomatch member
  blameless _ member := nomatch member

theorem Sound.add {session : Session} {vocabulary : Finset Entry} {statements : List Statement}
    (small : vocabulary.card < UInt32.size) (sound : session.Sound vocabulary statements)
    (request : Request υ) (inside : RegistersIn vocabulary (session.add request).calls) :
    ∃ added, (session.add request).Sound vocabulary (statements ++ added) := by
  obtain ⟨added, meanings, reflects, blameless⟩ :=
    request.run_adds small sound.mirrors inside.of_append.2
  refine ⟨added, ?_, reflects.mirrors, ?_, ?_⟩
  · rw [Session.add, List.map_append, List.map_append, sound.meanings, meanings]
  · intro call member
    rw [Session.add, List.filterMap_append] at member
    rcases List.mem_append.mp member with old | new
    · exact sound.accepted call old
    · exact reflects.accepted call new
  · intro error member
    rcases List.mem_append.mp member with old | new
    · exact sound.blameless error old
    · exact blameless error (List.mem_singleton.mp new).symm

theorem after_sound {vocabulary : Finset Entry} (small : vocabulary.card < UInt32.size)
    (requests : List (Request υ)) (inside : RegistersIn vocabulary (after requests).calls) :
    ∃ statements, (after requests).Sound vocabulary statements := by
  induction requests using List.reverseRecOn with
  | nil => exact ⟨[], sound_start vocabulary⟩
  | append_singleton requests last ih =>
      rw [after_concat] at inside ⊢
      obtain ⟨statements, sound⟩ := ih inside.of_append.1
      obtain ⟨added, sound'⟩ := sound.add small last inside
      exact ⟨statements ++ added, sound'⟩

/-! ## Sessions as sets of statements -/

/-- The memory of the session is nothing but the set of these statements, which are those of the
quads that it has inserted. -/
structure Refines (session : Session) (statements : List Statement) : Prop where
  meanings : session.inserted.map (fun pair => pair.2.statement pair.1) = statements.map .ok
  /-- Every id in a key has an entry, the default graph's in its own position excepted. -/
  found : ∀ key ∈ session.memory.keys.toList,
    (session.memory.lexicon.entry? key.subject).isSome ∧
    (session.memory.lexicon.entry? key.predicate).isSome ∧
    (session.memory.lexicon.entry? key.object).isSome ∧
    (key.graph ≠ ObjectId.defaultGraph → (session.memory.lexicon.entry? key.graph).isSome)
  injective : ∀ key ∈ session.memory.keys.toList, ∀ other ∈ session.memory.keys.toList,
    session.memory.statement? key = session.memory.statement? other → key = other
  decoded : ∀ statement, (∃ key ∈ session.memory.keys.toList,
    session.memory.statement? key = some statement) ↔ statement ∈ statements
  size_eq : session.memory.keys.size = statements.toFinset.card
  indexes : ∀ index ∈ session.memory.keys.indexes.indexes, ∀ key,
    index.contains (index.order.row key) = true ↔ key ∈ session.memory.keys.toList
  accepted : ∀ call ∈ session.calls.filterMap Call.indexed?, call.2 = .ok ()
  blameless : ∀ error, .error error ∈ session.answers → error.storageError? = none

theorem Sound.refines {session : Session} {vocabulary : Finset Entry}
    {statements : List Statement} (sound : session.Sound vocabulary statements) :
    session.Refines statements := by
  obtain ⟨entries, _, mirrors⟩ := sound.mirrors
  have held : ∀ key, key ∈ session.memory.keys.toList ↔
      ∃ statement ∈ statements, statement.key entries = key := by
    intro key
    rw [mirrors.holds.mem_toList, Finset.mem_image]
    simp only [List.mem_toFinset]
  have read : ∀ statement ∈ statements,
      session.memory.statement? (statement.key entries) = some statement := fun statement member =>
    Memory.statement?_key mirrors.lists (mirrors.known statement member)
  refine ⟨sound.meanings, ?_, ?_, ?_, ?_, ?_, sound.accepted, sound.blameless⟩
  · intro key member
    obtain ⟨statement, inside, rfl⟩ := (held key).mp member
    exact Memory.found_of_known mirrors.lists (mirrors.known statement inside)
  · intro key member other member' same
    obtain ⟨statement, inside, rfl⟩ := (held key).mp member
    obtain ⟨statement', inside', rfl⟩ := (held other).mp member'
    rw [read statement inside, read statement' inside'] at same
    rw [Option.some.inj same]
  · intro statement
    constructor
    · rintro ⟨key, member, meaning⟩
      obtain ⟨statement', inside, rfl⟩ := (held key).mp member
      rw [read statement' inside] at meaning
      rw [← Option.some.inj meaning]
      exact inside
    · intro inside
      exact ⟨statement.key entries, (held _).mpr ⟨statement, inside, rfl⟩, read statement inside⟩
  · rw [mirrors.holds.size_eq, Finset.card_image_of_injOn]
    intro statement member statement' member' same
    have meaning := read statement (List.mem_toFinset.mp member)
    rw [same, read statement' (List.mem_toFinset.mp member')] at meaning
    exact (Option.some.inj meaning).symm
  · intro index member key
    rw [mirrors.holds.mem_toList]
    exact (mirrors.holds.each index member).contains_iff key

/-- At every moment of a session that registers fewer entries than there are words, the memory is
the set of the statements of the quads inserted so far: all its ids can be looked up, different keys
mean different statements, and the backend has refused nothing. -/
theorem after_refines (requests : List (Request υ))
    (few : (after requests).registered.card < UInt32.size) :
    ∀ earlier, earlier <+: requests → ∃ statements, (after earlier).Refines statements := by
  intro earlier front
  have inside : RegistersIn (after requests).registered (after earlier).calls := by
    intro entry member
    obtain ⟨call, here, same⟩ := List.mem_map.mp member
    rw [registered, List.mem_toFinset, List.mem_filterMap]
    exact ⟨call, (calls_front front).subset here, same⟩
  obtain ⟨statements, sound⟩ := after_sound few earlier inside
  exact ⟨statements, sound.refines⟩

/-- Three requests: an insertion, one that fails at its second quad, and one that is cancelled after
two calls. -/
def mixed : List (Request (List Quad)) :=
  let uri (text : String) : Term := .uri (.absolute text)
  let reader (quads : List Quad) : RequestReader (List Quad) :=
    ⟨fun _ => .ok (.update {} [quads]), fun quads => .ok (.insertData quads)⟩
  [⟨{}, reader [⟨uri "a", uri "p", uri "b", none⟩], "", Record.never⟩,
    ⟨{}, reader [⟨uri "b", uri "p", uri "a", some (uri "g")⟩,
      ⟨uri "c", .blankNode "x", uri "a", none⟩], "", Record.never⟩,
    ⟨{}, reader [⟨uri "d", uri "p", uri "a", none⟩], "", Record.after 2⟩]

/-- What the three requests have left: the first quad of the first one and of the second one. -/
def mixedStatements : List Statement :=
  [⟨.uri "a", .uri "p", .uri "b", none⟩, ⟨.uri "b", .uri "p", .uri "a", some (.uri "g")⟩]

theorem after_refines_mixed :
    (after mixed).registered.card < UInt32.size ∧ (after mixed).Refines mixedStatements := by
  have few : (after mixed).registered.card < UInt32.size := by decide
  obtain ⟨statements, refines⟩ := after_refines mixed few mixed (List.prefix_refl mixed)
  have stored : (after mixed).inserted.map (fun pair => pair.2.statement pair.1) =
      mixedStatements.map .ok := by decide
  have same : statements = mixedStatements :=
    List.map_injective_iff.mpr (fun _ _ => Except.ok.inj) (refines.meanings.symm.trans stored)
  exact ⟨few, same ▸ refines⟩

end Session

end RdfDataset
