import RdfDataset.Dataset
import RdfDataset.Proofs.Execution.View
import RdfDataset.Proofs.Session
import RdfDataset.Proofs.Sparql.Operation

/-!
# What a dataset answers

A dataset in memory reads its own requests, so that much of what can go wrong elsewhere cannot go
wrong here: a session within the ids of its lexicon makes only keys that the backend takes, and the
dataset's own reader makes no other trees than queries and updates. What remains, with a library
that has no quoted triples, is one short list of answers. The policy for abbreviated datatypes and
the prefixes reported for a text do not matter, for nothing that is read is abbreviated.
-/

set_option autoImplicit false

namespace RdfDataset

namespace Dataset

/-! ## Sessions of a dataset -/

section Sessions

variable (library : Sparql.Library) (options : Options)

/-- An update of a dataset, as a request of which all calls are written down. -/
def request (text : String) (token : Record Memory → Bool) : Request Sparql.Parsed.Operation :=
  ⟨options.literals, Sparql.reader library options.texts, text, token⟩

/-- The same update under another policy for datatypes, where the tree of a text reports whatever
prefixes `report` gives for the text. -/
def variant (policy : DatatypePolicy) (report : String → List (String × String)) (text : String)
    (token : Record Memory → Bool) : Request Sparql.Parsed.Operation where
  literals := { options.literals with datatypePolicy := policy }
  reader :=
    { tree := fun text => (Sparql.readTree library options.texts text).map fun tree =>
        { tree with prologue := { tree.prologue with prefixes := report text } }
      operation := Sparql.Parsed.Operation.convert }
  text := text
  token := token

/-- The session of some updates, each with its text and its token, on a new dataset. -/
def session (updates : List (String × (Record Memory → Bool))) : Session :=
  Session.after (updates.map fun update => request library options update.1 update.2)

def variantSession (policy : DatatypePolicy) (report : String → List (String × String))
    (updates : List (String × (Record Memory → Bool))) : Session :=
  Session.after (updates.map fun update =>
    variant library options policy report update.1 update.2)

end Sessions

variable {library : Sparql.Library} {options : Options}

/-- What some updates make of a new dataset. -/
def after (fresh : Dataset library) (updates : List (String × (Record Memory → Bool))) :
    Dataset library :=
  { fresh with memory := (session library fresh.options updates).memory }

theorem withOptions_eq (accepted : Sparql.checkOptions library options.texts = .ok ()) :
    withOptions options = .ok (⟨options, accepted, .empty⟩ : Dataset library) := by
  unfold withOptions
  split
  · rfl
  · next failed =>
      rw [accepted] at failed
      cases failed

theorem options_of_withOptions {fresh : Dataset library} (made : withOptions options = .ok fresh) :
    fresh.options = options := by
  unfold withOptions at made
  split at made
  · cases made
    rfl
  · cases made

/-- An update is the same as its request, up to the calls that are written down. -/
theorem update_eq_run (dataset : Dataset library) (text : String) (cancelled : Bool) :
    dataset.update text cancelled =
      (((request library dataset.options text fun _ => cancelled).run dataset.memory).1,
        { dataset with
          memory := ((request library dataset.options text fun _ => cancelled).run
            dataset.memory).2.state }) := by
  have shows : ((Memory.world false).recorded fun _ => cancelled).Shows (Memory.world cancelled)
      Record.state := ⟨fun _ _ => rfl, fun _ _ => rfl, fun _ => rfl⟩
  have same := shows.update dataset.options.literals
    (Sparql.reader library dataset.options.texts) text (.start dataset.memory)
  rw [update, show Dispatch.update _ _ _ _ dataset.memory = _ from same]
  rfl

theorem session_concat (updates : List (String × (Record Memory → Bool))) (text : String)
    (token : Record Memory → Bool) :
    session library options (updates ++ [(text, token)]) =
      (session library options updates).add (request library options text token) := by
  rw [session, List.map_append, List.map_singleton, Session.after_concat]
  rfl

/-- One update more is an update of what the others have made. -/
theorem after_concat (fresh : Dataset library) (updates : List (String × (Record Memory → Bool)))
    (text : String) (cancelled : Bool) :
    fresh.after (updates ++ [(text, fun _ => cancelled)]) =
      ((fresh.after updates).update text cancelled).2 := by
  rw [update_eq_run, after, session_concat]
  rfl

section Plain

variable (plain : library.InsertsPlain)

include plain

/-- Policy and reported prefixes change nothing, not even a call. -/
theorem variant_run (policy : DatatypePolicy) (report : String → List (String × String))
    (text : String) (token : Record Memory → Bool) (memory : Memory) :
    (variant library options policy report text token).run memory =
      (request library options text token).run memory := by
  rw [Request.run, Request.run, Dispatch.update, Dispatch.update]
  rcases Sparql.readTree_cases plain options.texts text with
    ⟨prologue, read⟩ | ⟨prologue, units, read, rdf⟩ | ⟨grammar, read⟩
  · simp only [variant, request, Sparql.reader, read, Except.map, RequestTree.query]
  · simp only [variant, request, Sparql.reader, read, Except.map, RequestTree.update]
    rw [Update.execute, Update.execute]
    refine Update.executeUnits_alike _ (List.forall₂_same.mpr fun unit member => ?_) 0 .zero _
    obtain ⟨operation, converted, isRdf⟩ := rdf unit member
    rw [converted]
    exact isRdf.alike rfl
  · simp only [variant, request, Sparql.reader, read, Except.map]

theorem variantSession_memory (policy : DatatypePolicy)
    (report : String → List (String × String))
    (updates : List (String × (Record Memory → Bool))) :
    (variantSession library options policy report updates).memory =
      (session library options updates).memory := by
  induction updates using List.reverseRecOn with
  | nil => rfl
  | append_singleton updates last ih =>
      rw [session_concat, variantSession, List.map_append, List.map_singleton,
        Session.after_concat, Session.add, Session.add, ← ih, ← variant_run plain policy report]
      rfl

end Plain

/-! ## Answers -/

/-- What an update of a dataset in memory can answer if nobody cancels it. -/
inductive Foreseen : Except ExecutionError Summary → Prop
  | success (summary : Summary) : Foreseen (.ok summary)
  | malformed (grammar : Grammar) : Foreseen (.error (.parsing (.malformed grammar)))
  | retrieval : Foreseen (.error (.notImplemented Dispatch.retrievalFeature))
  | unsupported {kind : String} (refused : kind ∈ Operation.refused) :
      Foreseen (.error (.unsupportedUnit kind))
  | blankNode (unit quad : Nat) {position : Position}
      (place : position = .subject ∨ position = .object) :
      Foreseen (.error (.quadInsertion unit quad (.normalization position .blankNode)))

/-- Failures for which there has to be another reader, another lexicon or another backend. -/
inductive Foreign : ExecutionError → Prop
  | unresolvedPrefix (unit quad : Nat) (position : Position) (label : String) :
      Foreign (.quadInsertion unit quad (.normalization position (.unresolvedPrefix label)))
  | storage (unit quad : Nat) (cause : StorageError) :
      Foreign (.quadInsertion unit quad (.backend cause))
  | graph (unit quad : Nat) (cause : NormalizationError) :
      Foreign (.quadInsertion unit quad (.normalization .graph cause))
  | predicate (unit quad : Nat) (cause : NormalizationError) :
      Foreign (.quadInsertion unit quad (.normalization .predicate cause))
  | tree (token : RootToken) (kind : RequestKind) : Foreign (.unsupportedTree token kind)

theorem Foreseen.not_foreign {error : ExecutionError} (foreseen : Foreseen (.error error)) :
    ¬ Foreign error := by
  intro foreign
  cases foreseen with
  | blankNode unit quad place =>
      rcases place with rfl | rfl <;> cases foreign
  | _ => cases foreign

theorem run_foreseen (plain : library.InsertsPlain) (text : String) {memory : Memory}
    (blameless : ∀ error,
      ((request library options text Record.never).run memory).1 = .error error →
        error.storageError? = none) :
    Foreseen ((request library options text Record.never).run memory).1 := by
  rw [Request.run, Dispatch.update] at blameless ⊢
  rcases Sparql.readTree_cases plain options.texts text with
    ⟨prologue, read⟩ | ⟨prologue, units, read, rdf⟩ | ⟨grammar, read⟩
  · simp only [request, Sparql.reader, read, RequestTree.query]
    exact .retrieval
  · simp only [request, Sparql.reader, read, RequestTree.update] at blameless ⊢
    rw [Update.execute] at blameless ⊢
    cases ran : Update.executeUnits ((Memory.world false).recorded Record.never)
        ⟨options.literals, .ofPrologue prologue⟩ Sparql.Parsed.Operation.convert 0 .zero units
        (.start memory) with
    | mk answer final =>
        rw [ran] at blameless
        cases answer with
        | ok summary => exact .success summary
        | error error =>
            cases Update.executeUnits_ofRdf _ _ rdf ran with
            | unsupported refused => exact .unsupported refused
            | blankNode unit quad place => exact .blankNode unit quad place
            | storage unit quad cause => cases blameless _ rfl
  · simp only [request, Sparql.reader, read]
    exact .malformed grammar

/-- With a library that has no quoted triples, and whatever updates a new dataset has seen, however
they failed and whenever they were cancelled: as long as no more entries are registered than there
are ids, the next update that nobody cancels answers as foreseen. Its answer, its calls and the
memory it leaves are the same under both policies for datatypes and with any reported prefixes, and
so is the memory that it starts from. -/
theorem update_foreseen (plain : library.InsertsPlain) {fresh : Dataset library}
    (made : withOptions options = .ok fresh)
    (updates : List (String × (Record Memory → Bool))) (text : String)
    (few : (session library options (updates ++ [(text, Record.never)])).registered.card <
      UInt32.size) :
    Foreseen ((fresh.after updates).update text).1 ∧
      (∀ error, ((fresh.after updates).update text).1 = .error error → ¬ Foreign error) ∧
      (∃ calls, ∀ policy report,
        (variant library options policy report text Record.never).run
            (variantSession library options policy report updates).memory =
          (((fresh.after updates).update text).1,
            ⟨((fresh.after updates).update text).2.memory, calls⟩)) ∧
      ∀ policy report, (variantSession library options policy report updates).memory =
        (fresh.after updates).memory := by
  obtain rfl := options_of_withOptions made
  have ran := update_eq_run (fresh.after updates) text false
  -- The bound is needed for the storage alone: a key is refused once an id has come round to zero.
  have foreseen : Foreseen ((fresh.after updates).update text).1 := by
    obtain ⟨statements, sound⟩ := Session.after_sound few _
      (session library fresh.options (updates ++ [(text, Record.never)])).registersIn_registered
    rw [List.map_append, List.map_singleton, Session.after_concat] at sound
    rw [ran]
    refine run_foreseen plain text fun error failed => ?_
    exact sound.blameless error (List.mem_append_right _ (List.mem_singleton.mpr failed.symm))
  refine ⟨foreseen, ?_, ⟨((request library fresh.options text Record.never).run
    (session library fresh.options updates).memory).2.calls, fun policy report => ?_⟩,
    fun policy report => ?_⟩
  · intro error failed
    rw [failed] at foreseen
    exact foreseen.not_foreign
  · rw [variantSession_memory plain, variant_run plain, ran]
    rfl
  · exact variantSession_memory plain policy report updates

/-- A prefix for every request. -/
def earlyOptions : Options where
  texts := { prefixes := [("p", "a:")] }

theorem earlyOptions_accepted :
    Sparql.checkOptions Sparql.grammar earlyOptions.texts = .ok () := by
  decide +kernel

/-- Two updates, the second of which is cancelled after its first call. -/
def early : List (String × (Record Memory → Bool)) :=
  [("INSERT DATA{p:b p:c 1}", Record.never), ("INSERT DATA{<a:b><a:c>2}", Record.after 1)]

def earlyDataset : Dataset := ⟨earlyOptions, earlyOptions_accepted, .empty⟩

theorem update_foreseen_early :
    Sparql.grammar.InsertsPlain ∧
      withOptions earlyOptions = .ok earlyDataset ∧
      (session Sparql.grammar earlyOptions
          (early ++ [("INSERT DATA{p:b p:c 3,_:d}", Record.never)])).registered.card <
        UInt32.size ∧
      ((earlyDataset.after early).update "INSERT DATA{p:b p:c 3,_:d}").1 =
        .error (.quadInsertion 0 1 (.normalization .object .blankNode)) ∧
      Foreseen ((earlyDataset.after early).update "INSERT DATA{p:b p:c 3,_:d}").1 :=
  have few : (session Sparql.grammar earlyOptions
      (early ++ [("INSERT DATA{p:b p:c 3,_:d}", Record.never)])).registered.card <
        UInt32.size := by
    decide +kernel
  have made : withOptions earlyOptions = .ok earlyDataset := withOptions_eq earlyOptions_accepted
  ⟨Sparql.grammar_insertsPlain, made, few, by decide +kernel,
    (update_foreseen Sparql.grammar_insertsPlain made early _ few).1⟩

end Dataset

end RdfDataset
