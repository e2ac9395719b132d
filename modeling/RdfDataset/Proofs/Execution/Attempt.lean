import RdfDataset.Proofs.Execution.Stage

/-!
# Attempts to insert a quad

What one attempt to insert a quad can answer, and which calls it makes for that answer. A term is
registered once or not at all; the key of a quad consists of the ids that the lexicon has given to
its entries; the backend is asked at most once, after all registrations.

The relations hold of every world and every token. Where the token is never cancelled, the cases of
a cancellation fall away, for they come with a record on which it was seen cancelled.
-/

set_option autoImplicit false

namespace RdfDataset

/-- The calls register some of the entries, in their order, and do nothing else. -/
def RegistersFrom (entries : List Entry) (calls : List Call) : Prop :=
  ∃ registered : List Entry, registered.Sublist entries ∧
    calls.map Call.registered? = registered.map some

namespace RegistersFrom

theorem append {entries more : List Entry} {calls calls' : List Call}
    (first : RegistersFrom entries calls) (second : RegistersFrom more calls') :
    RegistersFrom (entries ++ more) (calls ++ calls') := by
  obtain ⟨registered, sub, same⟩ := first
  obtain ⟨registered', sub', same'⟩ := second
  refine ⟨registered ++ registered', sub.append sub', ?_⟩
  rw [List.map_append, List.map_append, same, same']

theorem registered_of_mem {entries : List Entry} {calls : List Call}
    (registers : RegistersFrom entries calls) {call : Call} (member : call ∈ calls) :
    ∃ entry ∈ entries, call.registered? = some entry := by
  obtain ⟨registered, sub, same⟩ := registers
  have mapped : call.registered? ∈ registered.map some :=
    same ▸ List.mem_map_of_mem member
  obtain ⟨entry, inside, equal⟩ := List.mem_map.mp mapped
  exact ⟨entry, sub.subset inside, equal.symm⟩

theorem indexed_eq_nil {entries : List Entry} {calls : List Call}
    (registers : RegistersFrom entries calls) : calls.filterMap Call.indexed? = [] := by
  rw [List.filterMap_eq_nil_iff]
  intro call member
  obtain ⟨entry, _, equal⟩ := registers.registered_of_mem member
  cases call with
  | register _ _ => rfl
  | index _ _ => cases equal

end RegistersFrom

namespace Statement

/-- A key leaves the graph open only where the statement does. -/
def Fits (statement : Statement) (key : Key) : Prop :=
  statement.graph = none → key.graph = ObjectId.defaultGraph

/-- The registrations by which a statement gets its key. -/
def registrations (statement : Statement) (key : Key) : List Call :=
  (statement.graph.map fun entry => Call.register entry key.graph).toList ++
    [.register statement.subject key.subject, .register statement.predicate key.predicate,
      .register statement.object key.object]

theorem registrations_registersFrom (statement : Statement) (key : Key) :
    RegistersFrom statement.entries (statement.registrations key) := by
  refine ⟨statement.entries, List.Sublist.refl _, ?_⟩
  cases h : statement.graph <;> simp [registrations, entries, h, Call.registered?]

end Statement

namespace Insertion

variable {σ : Type} (world : World σ) (token : Record σ → Bool) (setting : Setting)

/-! ## One term -/

/-- What becomes of a term: the answer, and the calls made for it. -/
inductive Normalized (term : Term) : Except NormalizationError ObjectId → List Call → Prop
  | registered {entry : Entry} {id : ObjectId} (known : setting.entry term = .ok entry) :
      Normalized term (.ok id) [.register entry id]
  | unknown {cause : NormalizationError} (unknown : setting.entry term = .error cause) :
      Normalized term (.error cause) []
  | cancelled {record : Record σ} (seen : token record = true) :
      Normalized term (.error .cancelled) []

/-- What becomes of a graph: a missing one is the default graph without any call. -/
inductive NormalizedGraph :
    Option Term → Except NormalizationError ObjectId → List Call → Prop
  | missing : NormalizedGraph none (.ok ObjectId.defaultGraph) []
  | named {term : Term} {answer : Except NormalizationError ObjectId} {calls : List Call}
      (normalized : Normalized token setting term answer calls) :
      NormalizedGraph (some term) answer calls

theorem normalize_normalized (term : Term) (record : Record σ) :
    ∃ calls, record.Continues world
        (normalize (world.recorded token) setting term record).2 calls ∧
      Normalized token setting term
        (normalize (world.recorded token) setting term record).1 calls := by
  cases known : setting.entry term with
  | error cause =>
      rw [normalize_unknown (world.recorded token) setting record known]
      exact ⟨[], .refl record, .unknown known⟩
  | ok entry =>
      cases seen : (world.recorded token).isCancelled record with
      | true =>
          rw [normalize_cancelled (world.recorded token) setting known seen]
          exact ⟨[], .refl record, .cancelled seen⟩
      | false =>
          rw [normalize_registered (world.recorded token) setting known seen]
          exact ⟨_, .register token entry record, .registered known⟩

theorem normalizeGraph_normalized (graph : Option Term) (record : Record σ) :
    ∃ calls, record.Continues world
        (normalizeGraph (world.recorded token) setting graph record).2 calls ∧
      NormalizedGraph token setting graph
        (normalizeGraph (world.recorded token) setting graph record).1 calls := by
  cases graph with
  | none => exact ⟨[], .refl record, .missing⟩
  | some term =>
      obtain ⟨calls, step, normalized⟩ := normalize_normalized world token setting term record
      exact ⟨calls, step, .named normalized⟩

variable {token setting}

theorem Normalized.registersFrom {term : Term} {answer : Except NormalizationError ObjectId}
    {calls : List Call} (normalized : Normalized token setting term answer calls) :
    RegistersFrom (setting.entry term).toOption.toList calls := by
  cases normalized with
  | @registered entry _ known =>
      have here : (setting.entry term).toOption.toList = [entry] :=
        congrArg (fun answer => answer.toOption.toList) known
      exact ⟨[entry], here ▸ List.Sublist.refl [entry], rfl⟩
  | unknown _ => exact ⟨[], List.nil_sublist _, rfl⟩
  | cancelled _ => exact ⟨[], List.nil_sublist _, rfl⟩

theorem NormalizedGraph.registersFrom {graph : Option Term}
    {answer : Except NormalizationError ObjectId} {calls : List Call}
    (normalized : NormalizedGraph token setting graph answer calls) :
    RegistersFrom (graph.toList.filterMap fun term => (setting.entry term).toOption) calls := by
  cases normalized with
  | missing => exact ⟨[], List.nil_sublist _, rfl⟩
  | @named term _ _ normalized =>
      have registers := normalized.registersFrom
      cases known : (setting.entry term).toOption <;>
        simpa [known] using registers

theorem Normalized.ok {term : Term} {id : ObjectId} {calls : List Call}
    (normalized : Normalized token setting term (.ok id) calls) :
    ∃ entry, setting.entry term = .ok entry ∧ calls = [.register entry id] := by
  cases normalized with
  | registered known => exact ⟨_, known, rfl⟩

theorem Normalized.error {term : Term} {cause : NormalizationError} {calls : List Call}
    (normalized : Normalized token setting term (.error cause) calls) (position : Position) :
    (InsertionError.atPosition position cause = .cancelled ∧ ∃ record, token record = true) ∨
      (InsertionError.atPosition position cause = .normalization position cause ∧
        setting.entry term = .error cause) := by
  cases normalized with
  | unknown known =>
      right
      refine ⟨?_, known⟩
      cases cause with
      | cancelled => exact absurd known (setting.entry_ne_cancelled term)
      | _ => rfl
  | cancelled seen => exact Or.inl ⟨rfl, _, seen⟩

theorem NormalizedGraph.ok {graph : Option Term} {id : ObjectId} {calls : List Call}
    (normalized : NormalizedGraph token setting graph (.ok id) calls) :
    ∃ entry, setting.graphEntry graph = .ok entry ∧ (entry = none → id = ObjectId.defaultGraph) ∧
      calls = (entry.map fun entry => Call.register entry id).toList := by
  cases normalized with
  | missing => exact ⟨none, rfl, fun _ => rfl, rfl⟩
  | named normalized =>
      obtain ⟨entry, known, rfl⟩ := normalized.ok
      refine ⟨some entry, ?_, (fun h => nomatch h), rfl⟩
      rw [Setting.graphEntry, known]
      rfl

theorem NormalizedGraph.error {graph : Option Term} {cause : NormalizationError}
    {calls : List Call} (normalized : NormalizedGraph token setting graph (.error cause) calls)
    (position : Position) :
    (InsertionError.atPosition position cause = .cancelled ∧ ∃ record, token record = true) ∨
      (InsertionError.atPosition position cause = .normalization position cause ∧
        setting.graphEntry graph = .error cause) := by
  cases normalized with
  | named normalized =>
      rcases normalized.error position with cancelled | ⟨here, known⟩
      · exact Or.inl cancelled
      · refine Or.inr ⟨here, ?_⟩
        rw [Setting.graphEntry, known]
        rfl

/-! ## The key of a quad -/

variable (token setting)

/-- What becomes of the terms of a quad together. -/
inductive Keyed (quad : Quad) : Except InsertionError Key → List Call → Prop
  | resolved {statement : Statement} {key : Key}
      (means : quad.statement setting = .ok statement) (fits : statement.Fits key) :
      Keyed quad (.ok key) (statement.registrations key)
  | unresolved {position : Position} {cause : NormalizationError} {calls : List Call}
      (means : quad.statement setting = .error (.normalization position cause))
      (registers : RegistersFrom (quad.entries setting) calls) :
      Keyed quad (.error (.normalization position cause)) calls
  | cancelled {record : Record σ} {calls : List Call} (seen : token record = true)
      (registers : RegistersFrom (quad.entries setting) calls) :
      Keyed quad (.error .cancelled) calls

variable {token setting}

/-- A failing position decides what becomes of the quad. -/
theorem Keyed.of_error {quad : Quad} {position : Position} {cause : NormalizationError}
    {calls : List Call} (registers : RegistersFrom (quad.entries setting) calls) {known : Prop}
    (failed : (InsertionError.atPosition position cause = .cancelled ∧
        ∃ record, token record = true) ∨
      (InsertionError.atPosition position cause = .normalization position cause ∧ known))
    (means : known → quad.statement setting = .error (InsertionError.atPosition position cause)) :
    Keyed token setting quad (.error (InsertionError.atPosition position cause)) calls := by
  rcases failed with ⟨cancelled, record, seen⟩ | ⟨here, holds⟩
  · rw [cancelled]
    exact .cancelled seen registers
  · have failure := means holds
    rw [here] at failure ⊢
    exact .unresolved failure registers

theorem keyed_of_normalized {quad : Quad} {g s p o : Except NormalizationError ObjectId}
    {calls₁ calls₂ calls₃ calls₄ : List Call}
    (graph : NormalizedGraph token setting quad.graph g calls₁)
    (subject : Normalized token setting quad.subject s calls₂)
    (predicate : Normalized token setting quad.predicate p calls₃)
    (object : Normalized token setting quad.object o calls₄) :
    Keyed token setting quad (assemble g s p o)
      (calls₁ ++ (calls₂ ++ (calls₃ ++ calls₄))) := by
  have registers : RegistersFrom (quad.entries setting)
      (calls₁ ++ (calls₂ ++ (calls₃ ++ calls₄))) := by
    have tail := subject.registersFrom.append (predicate.registersFrom.append object.registersFrom)
    rw [Quad.entries_eq_append]
    exact graph.registersFrom.append tail
  -- The positions are looked at one after the other, and the first failing one decides.
  cases g with
  | error cause =>
      refine Keyed.of_error registers (graph.error .graph) fun unknown => ?_
      rw [Quad.statement, unknown]
      rfl
  | ok id₁ =>
      obtain ⟨entry₁, known₁, open₁, rfl⟩ := graph.ok
      cases s with
      | error cause =>
          refine Keyed.of_error registers (subject.error .subject) fun unknown => ?_
          rw [Quad.statement, known₁, unknown]
          rfl
      | ok id₂ =>
          obtain ⟨entry₂, known₂, rfl⟩ := subject.ok
          cases p with
          | error cause =>
              refine Keyed.of_error registers (predicate.error .predicate) fun unknown => ?_
              rw [Quad.statement, known₁, known₂, unknown]
              rfl
          | ok id₃ =>
              obtain ⟨entry₃, known₃, rfl⟩ := predicate.ok
              cases o with
              | error cause =>
                  refine Keyed.of_error registers (object.error .object) fun unknown => ?_
                  rw [Quad.statement, known₁, known₂, known₃, unknown]
                  rfl
              | ok id₄ =>
                  obtain ⟨entry₄, known₄, rfl⟩ := object.ok
                  have means : quad.statement setting = .ok ⟨entry₂, entry₃, entry₄, entry₁⟩ := by
                    rw [Quad.statement, known₁, known₂, known₃, known₄]
                    rfl
                  have fits : Statement.Fits ⟨entry₂, entry₃, entry₄, entry₁⟩
                      ⟨id₂, id₃, id₄, id₁⟩ := open₁
                  exact .resolved means fits

variable (token setting)

theorem key_keyed (quad : Quad) (record : Record σ) :
    ∃ calls, record.Continues world (key (world.recorded token) setting quad record).2 calls ∧
      Keyed token setting quad (key (world.recorded token) setting quad record).1 calls := by
  obtain ⟨calls₁, step₁, graph⟩ :=
    normalizeGraph_normalized world token setting quad.graph record
  obtain ⟨calls₂, step₂, subject⟩ :=
    normalize_normalized world token setting quad.subject
      (normalizeGraph (world.recorded token) setting quad.graph record).2
  obtain ⟨calls₃, step₃, predicate⟩ :=
    normalize_normalized world token setting quad.predicate
      (normalize (world.recorded token) setting quad.subject
        (normalizeGraph (world.recorded token) setting quad.graph record).2).2
  obtain ⟨calls₄, step₄, object⟩ :=
    normalize_normalized world token setting quad.object
      (normalize (world.recorded token) setting quad.predicate
        (normalize (world.recorded token) setting quad.subject
          (normalizeGraph (world.recorded token) setting quad.graph record).2).2).2
  exact ⟨calls₁ ++ (calls₂ ++ (calls₃ ++ calls₄)), step₁.trans (step₂.trans (step₃.trans step₄)),
    keyed_of_normalized graph subject predicate object⟩

/-! ## The whole attempt -/

/-- What becomes of a quad: the answer, and the calls made for it. -/
inductive Attempt (quad : Quad) : Except InsertionError Key → List Call → Prop
  | inserted {key : Key} {calls : List Call} (keyed : Keyed token setting quad (.ok key) calls) :
      Attempt quad (.ok key) (calls ++ [.index key (.ok ())])
  | refused {key : Key} {calls : List Call} {cause : StorageError}
      (keyed : Keyed token setting quad (.ok key) calls) :
      Attempt quad (.error (.backend cause)) (calls ++ [.index key (.error cause)])
  | cancelled {key : Key} {calls : List Call} {record : Record σ}
      (keyed : Keyed token setting quad (.ok key) calls) (seen : token record = true) :
      Attempt quad (.error .cancelled) calls
  | failed {cause : InsertionError} {calls : List Call}
      (keyed : Keyed token setting quad (.error cause) calls) :
      Attempt quad (.error cause) calls

theorem store_continues (token : Record σ → Bool) (key : Key) (record : Record σ) :
    ∃ calls, record.Continues world (store (world.recorded token) key record).2 calls := by
  cases seen : (world.recorded token).isCancelled record with
  | true =>
      rw [store_cancelled _ key seen]
      exact ⟨[], .refl record⟩
  | false =>
      rw [store_indexed _ key seen]
      exact ⟨_, .index token key record⟩

theorem insertQuad_attempt (quad : Quad) (record : Record σ) :
    ∃ calls,
      record.Continues world (insertQuad (world.recorded token) setting quad record).2 calls ∧
      Attempt token setting quad (insertQuad (world.recorded token) setting quad record).1
        calls := by
  obtain ⟨calls, step, keyed⟩ := key_keyed world token setting quad record
  rw [insertQuad_eq_next]
  cases outcome : key (world.recorded token) setting quad record with
  | mk answer middle =>
      rw [outcome] at step keyed
      cases answer with
      | error cause => exact ⟨calls, step, .failed keyed⟩
      | ok key =>
          rw [Outcome.next]
          cases seen : (world.recorded token).isCancelled middle with
          | true =>
              rw [store_cancelled (world.recorded token) key seen]
              exact ⟨calls, step, .cancelled keyed seen⟩
          | false =>
              rw [store_indexed (world.recorded token) key seen]
              refine ⟨_, step.trans (.index token key middle), ?_⟩
              cases ((world.recorded token).index key middle).1 with
              | error cause => exact .refused keyed
              | ok _ => exact .inserted keyed

end Insertion

end RdfDataset
