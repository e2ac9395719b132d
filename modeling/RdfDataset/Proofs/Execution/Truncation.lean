import RdfDataset.Proofs.Execution.Ending
import RdfDataset.Proofs.Execution.View

/-!
# Cancellation cuts a run short

The same request is executed twice from the same state: once under a token that nobody cancels, and
once under a token that is cancelled after some number of calls. Until that call both runs agree.
Then the second one makes no call any more, and reports the cancellation, unless a term without an
entry turns up first: such a term fails before the token is looked at.

`Truncation` relates the two runs on every level of the execution.
-/

set_option autoImplicit false

namespace RdfDataset

variable {σ : Type}

/-- The second outcome is the first one, cut off after `limit` calls. A run that has been cut off
reports `stop`, or the same failure as the full run if that is one of the `excused` ones. -/
inductive Truncation {ε α : Type} (world : World σ) (limit : Nat) (stop : ε) (excused : ε → Prop) :
    Outcome (Record σ) ε α → Outcome (Record σ) ε α → Prop
  | same {outcome : Outcome (Record σ) ε α} (within : outcome.2.calls.length ≤ limit) :
      Truncation world limit stop excused outcome outcome
  | cancelled {full : Outcome (Record σ) ε α} {reached : Record σ} {calls : List Call}
      (spent : reached.calls.length = limit) (rest : reached.Continues world full.2 calls) :
      Truncation world limit stop excused full (.error stop, reached)
  | failed {cause : ε} {final reached : Record σ} {calls : List Call} (excuse : excused cause)
      (spent : reached.calls.length = limit) (rest : reached.Continues world final calls) :
      Truncation world limit stop excused (.error cause, final) (.error cause, reached)

namespace Truncation

variable {ε δ α β : Type} {world : World σ} {limit : Nat} {stop : ε} {stop' : δ}
  {excused : ε → Prop} {excused' : δ → Prop}

/-- Stages that are cut off make an execution that is cut off. -/
theorem next {wrap : ε → δ} {full cut : Outcome (Record σ) ε α}
    {more more' : α → Record σ → Outcome (Record σ) δ β}
    (first : Truncation world limit stop excused full cut) (stops : wrap stop = stop')
    (excuses : ∀ cause, excused cause → excused' (wrap cause))
    (second : ∀ answer record, record.calls.length ≤ limit →
      Truncation world limit stop' excused' (more answer record) (more' answer record))
    (goesOn : ∀ answer (record : Record σ),
      ∃ calls, record.Continues world (more answer record).2 calls) :
    Truncation world limit stop' excused' (full.next wrap more) (cut.next wrap more') := by
  cases first with
  | same within =>
      obtain ⟨answer, record⟩ := full
      cases answer with
      | error cause => exact .same within
      | ok answer => exact second answer record within
  | cancelled spent rest =>
      obtain ⟨answer, record⟩ := full
      rw [Outcome.next, stops]
      cases answer with
      | error cause => exact .cancelled spent rest
      | ok answer =>
          obtain ⟨calls, step⟩ := goesOn answer record
          exact .cancelled spent (rest.trans step)
  | failed excuse spent rest => exact .failed (excuses _ excuse) spent rest

variable {full cut : Outcome (Record σ) ε α}

theorem calls_eq_take (truncated : Truncation world limit stop excused full cut) :
    cut.2.calls = full.2.calls.take limit := by
  cases truncated with
  | same within => rw [List.take_of_length_le within]
  | cancelled spent rest => rw [rest.calls_eq, ← spent, List.take_left]
  | failed _ spent rest => rw [rest.calls_eq, ← spent, List.take_left]

theorem answer_eq (truncated : Truncation world limit stop excused full cut) :
    cut.1 = .error stop ∨ cut.1 = full.1 := by
  cases truncated with
  | same _ => exact Or.inr rfl
  | cancelled _ _ => exact Or.inl rfl
  | failed _ _ _ => exact Or.inr rfl

theorem eq_of_ok (truncated : Truncation world limit stop excused full cut) {answer : α}
    (succeeded : cut.1 = .ok answer) : cut = full := by
  cases truncated with
  | same _ => rfl
  | cancelled _ _ => cases succeeded
  | failed _ _ _ => cases succeeded

theorem eq_of_lt (truncated : Truncation world limit stop excused full cut)
    (early : full.2.calls.length < limit) : cut = full := by
  have apart {reached final : Record σ} {calls : List Call}
      (rest : reached.Continues world final calls) (early : final.calls.length < limit) :
      reached.calls.length ≠ limit := by
    rw [rest.calls_eq, List.length_append] at early
    omega
  cases truncated with
  | same _ => rfl
  | cancelled spent rest => exact absurd spent (apart rest early)
  | failed _ spent rest => exact absurd spent (apart rest early)

theorem error_of_lt (truncated : Truncation world limit stop excused full cut)
    (fewer : cut.2.calls.length < full.2.calls.length) :
    cut.1 = .error stop ∨
      ∃ cause, excused cause ∧ cut.1 = .error cause ∧ full.1 = .error cause := by
  cases truncated with
  | same _ => exact absurd fewer (Nat.lt_irrefl _)
  | cancelled _ _ => exact Or.inl rfl
  | failed excuse _ _ => exact Or.inr ⟨_, excuse, rfl, rfl⟩

end Truncation

theorem Record.spent_of_cancelled {world : World σ} {limit : Nat} {record : Record σ}
    (within : record.calls.length ≤ limit)
    (seen : (world.recorded (Record.after limit)).isCancelled record = true) :
    record.calls.length = limit :=
  Nat.le_antisymm within (of_decide_eq_true seen)

theorem Record.lt_of_live {world : World σ} {limit : Nat} {record : Record σ}
    (live : (world.recorded (Record.after limit)).isCancelled record = false) :
    record.calls.length < limit :=
  Nat.lt_of_not_le (of_decide_eq_false live)

namespace Insertion

/-! ## The terms of a quad

All four terms are attempted whatever became of those before them, so the two runs are followed
term by term, with the answers that they have got so far. -/

/-- The answer to a term in the full run, and the one in a run that has been cut off. -/
def Alike (full cut : Except NormalizationError ObjectId) : Prop :=
  cut = full ∨ cut = .error .cancelled

/-- How far the two runs have come: they agree until the calls are used up, and then the second one
stands still, with one term refused. -/
inductive Pace (world : World σ) (limit : Nat)
    (answers : List (Except NormalizationError ObjectId × Except NormalizationError ObjectId)) :
    Record σ → Record σ → Prop
  | level {record : Record σ} (equal : ∀ pair ∈ answers, pair.2 = pair.1)
      (within : record.calls.length ≤ limit) : Pace world limit answers record record
  | behind {full cut : Record σ} {calls : List Call}
      (alike : ∀ pair ∈ answers, Alike pair.1 pair.2)
      (refused : ∃ pair ∈ answers, pair.2 = .error .cancelled)
      (spent : cut.calls.length = limit) (rest : cut.Continues world full calls) :
      Pace world limit answers full cut

section Terms

variable {world : World σ} {limit : Nat}
  {answers : List (Except NormalizationError ObjectId × Except NormalizationError ObjectId)}

theorem Pace.start {record : Record σ} (within : record.calls.length ≤ limit) :
    Pace world limit [] record record := by
  refine .level ?_ within
  intro pair member
  cases member

theorem Pace.unknown {full cut : Record σ} (pace : Pace world limit answers full cut)
    (cause : NormalizationError) :
    Pace world limit ((.error cause, .error cause) :: answers) full cut := by
  cases pace with
  | level equal within =>
      exact .level (List.forall_mem_cons.mpr ⟨rfl, equal⟩) within
  | behind alike refused spent rest =>
      obtain ⟨pair, member, cancelled⟩ := refused
      have still : ∃ pair ∈ (Except.error cause, Except.error cause) :: answers,
          pair.2 = .error .cancelled := ⟨pair, List.mem_cons_of_mem _ member, cancelled⟩
      exact .behind (List.forall_mem_cons.mpr ⟨Or.inl rfl, alike⟩) still spent rest

theorem Pace.refused {full cut final : Record σ} (pace : Pace world limit answers full cut)
    {calls : List Call} (step : full.Continues world final calls)
    (answer : Except NormalizationError ObjectId)
    (seen : (world.recorded (Record.after limit)).isCancelled cut = true) :
    Pace world limit ((answer, .error .cancelled) :: answers) final cut := by
  have here : ∃ pair ∈ (answer, Except.error .cancelled) :: answers, pair.2 = .error .cancelled :=
    ⟨_, List.mem_cons_self .., rfl⟩
  cases pace with
  | level equal within =>
      -- The first term that is not registered: from here on the runs are apart.
      have alike : ∀ pair ∈ answers, Alike pair.1 pair.2 :=
        fun pair member => Or.inl (equal pair member)
      exact .behind (List.forall_mem_cons.mpr ⟨Or.inr rfl, alike⟩) here
        (Record.spent_of_cancelled within seen) step
  | behind alike _ spent rest =>
      exact .behind (List.forall_mem_cons.mpr ⟨Or.inr rfl, alike⟩) here spent (rest.trans step)

theorem Pace.normalize {full cut : Record σ} (pace : Pace world limit answers full cut)
    (setting : Setting) (term : Term) :
    Pace world limit
      (((normalize (world.recorded Record.never) setting term full).1,
        (normalize (world.recorded (Record.after limit)) setting term cut).1) :: answers)
      (normalize (world.recorded Record.never) setting term full).2
      (normalize (world.recorded (Record.after limit)) setting term cut).2 := by
  cases known : setting.entry term with
  | error cause =>
      rw [normalize_unknown _ setting full known, normalize_unknown _ setting cut known]
      exact pace.unknown cause
  | ok entry =>
      have live : (world.recorded Record.never).isCancelled full = false := rfl
      rw [normalize_registered _ setting known live]
      cases seen : (world.recorded (Record.after limit)).isCancelled cut with
      | true =>
          rw [normalize_cancelled _ setting known seen]
          exact pace.refused (.register Record.never entry full) _ seen
      | false =>
          rw [normalize_registered _ setting known seen]
          have room : cut.calls.length < limit := Record.lt_of_live seen
          cases pace with
          | behind _ _ spent _ => omega
          | level equal _ =>
              refine .level (List.forall_mem_cons.mpr ⟨rfl, equal⟩) ?_
              simp only [World.recorded, List.length_append, List.length_singleton]
              omega

theorem Pace.normalizeGraph {record : Record σ} (within : record.calls.length ≤ limit)
    (setting : Setting) (graph : Option Term) :
    Pace world limit
      [((normalizeGraph (world.recorded Record.never) setting graph record).1,
        (normalizeGraph (world.recorded (Record.after limit)) setting graph record).1)]
      (normalizeGraph (world.recorded Record.never) setting graph record).2
      (normalizeGraph (world.recorded (Record.after limit)) setting graph record).2 := by
  cases graph with
  | none =>
      refine .level ?_ within
      intro pair member
      rw [List.mem_singleton.mp member]
      rfl
  | some term => exact (Pace.start within).normalize setting term

end Terms

/-! ## Quads -/

section Quads

variable {world : World σ} {setting : Setting} {limit : Nat}

/-- The failures that a cancellation does not hide. -/
def IsNormalization (cause : InsertionError) : Prop :=
  ∃ position reason, cause = .normalization position reason

/-- With one term refused there is no key, and the first failure is the cancellation or the full
run's own. -/
theorem assemble_alike {g s p o g' s' p' o' : Except NormalizationError ObjectId}
    (graph : Alike g g') (subject : Alike s s') (predicate : Alike p p') (object : Alike o o')
    (refused : Except.error .cancelled ∈ [g', s', p', o']) :
    assemble g' s' p' o' = .error .cancelled ∨
      ∃ cause, assemble g s p o = .error cause ∧ assemble g' s' p' o' = .error cause := by
  -- As long as the answers agree and are ids, the next position decides.
  rcases graph with rfl | rfl
  · cases g' with
    | error cause => exact Or.inr ⟨_, rfl, rfl⟩
    | ok _ =>
        rcases subject with rfl | rfl
        · cases s' with
          | error cause => exact Or.inr ⟨_, rfl, rfl⟩
          | ok _ =>
              rcases predicate with rfl | rfl
              · cases p' with
                | error cause => exact Or.inr ⟨_, rfl, rfl⟩
                | ok _ =>
                    rcases object with rfl | rfl
                    · cases o' with
                      | error cause => exact Or.inr ⟨_, rfl, rfl⟩
                      | ok _ => simp at refused
                    · exact Or.inl rfl
              · exact Or.inl rfl
        · exact Or.inl rfl
  · exact Or.inl rfl

theorem Pace.assemble {g s p o g' s' p' o' : Except NormalizationError ObjectId}
    {final reached : Record σ}
    (pace : Pace world limit [(o, o'), (p, p'), (s, s'), (g, g')] final reached)
    (excuse : ∀ cause, assemble g s p o = .error cause → IsNormalization cause) :
    Truncation world limit .cancelled IsNormalization (assemble g s p o, final)
      (assemble g' s' p' o', reached) := by
  cases pace with
  | level equal within =>
      simp only [List.mem_cons, List.not_mem_nil, or_false, forall_eq_or_imp, forall_eq] at equal
      obtain ⟨rfl, rfl, rfl, rfl⟩ := equal
      exact .same within
  | behind alike refused spent rest =>
      simp only [List.mem_cons, List.not_mem_nil, or_false, forall_eq_or_imp, forall_eq] at alike
      obtain ⟨object, predicate, subject, graph⟩ := alike
      have missing : Except.error .cancelled ∈ [g', s', p', o'] := by
        obtain ⟨pair, member, cancelled⟩ := refused
        rw [← cancelled]
        simp only [List.mem_cons, List.not_mem_nil, or_false] at member ⊢
        rcases member with rfl | rfl | rfl | rfl <;> simp
      rcases assemble_alike graph subject predicate object missing with
        stopped | ⟨cause, one, other⟩
      · rw [stopped]
        exact .cancelled spent rest
      · rw [one, other]
        exact .failed (excuse cause one) spent rest

theorem key_error_isNormalization {quad : Quad} {record : Record σ} {cause : InsertionError}
    (failed : (key (world.recorded Record.never) setting quad record).1 = .error cause) :
    IsNormalization cause := by
  obtain ⟨calls, _, keyed⟩ := key_keyed world Record.never setting quad record
  rw [failed] at keyed
  cases keyed with
  | unresolved _ _ => exact ⟨_, _, rfl⟩
  | cancelled seen _ => cases seen

variable (world setting)

theorem key_truncation (quad : Quad) {record : Record σ} (within : record.calls.length ≤ limit) :
    Truncation world limit .cancelled IsNormalization
      (key (world.recorded Record.never) setting quad record)
      (key (world.recorded (Record.after limit)) setting quad record) := by
  have graph : Pace world limit _ _ _ := Pace.normalizeGraph within setting quad.graph
  have subject := graph.normalize setting quad.subject
  have predicate := subject.normalize setting quad.predicate
  have object := predicate.normalize setting quad.object
  exact object.assemble fun _ => key_error_isNormalization

theorem store_truncation (key : Key) {record : Record σ} (within : record.calls.length ≤ limit) :
    Truncation world limit .cancelled IsNormalization
      (store (world.recorded Record.never) key record)
      (store (world.recorded (Record.after limit)) key record) := by
  cases seen : (world.recorded (Record.after limit)).isCancelled record with
  | true =>
      obtain ⟨calls, step⟩ := store_continues world Record.never key record
      rw [store_cancelled _ key seen]
      exact .cancelled (Record.spent_of_cancelled within seen) step
  | false =>
      have live : (world.recorded Record.never).isCancelled record = false := rfl
      have room : record.calls.length < limit := Record.lt_of_live seen
      rw [store_indexed _ key seen, store_indexed _ key live]
      refine .same ?_
      simp only [World.recorded, List.length_append, List.length_singleton]
      omega

theorem insertQuad_truncation (quad : Quad) {record : Record σ}
    (within : record.calls.length ≤ limit) :
    Truncation world limit .cancelled IsNormalization
      (insertQuad (world.recorded Record.never) setting quad record)
      (insertQuad (world.recorded (Record.after limit)) setting quad record) := by
  rw [insertQuad_eq_next, insertQuad_eq_next]
  exact (key_truncation world setting quad within).next rfl (fun _ excuse => excuse)
    (fun key _ room => store_truncation world key room)
    (fun key middle => store_continues world Record.never key middle)

end Quads

end Insertion

/-! ## Units and updates -/

namespace Update

variable {υ : Type} (world : World σ) (setting : Setting)
  (operationOf : υ → Except ParseError Operation) {limit : Nat}

/-- The failures of a request that a cancellation does not hide. -/
def IsNormalization (error : ExecutionError) : Prop := error.normalizationError?.isSome

theorem insertQuads_truncation (unit quad : Nat) (quads : List Quad) {record : Record σ}
    (within : record.calls.length ≤ limit) :
    Truncation world limit .cancelled IsNormalization
      (insertQuads (world.recorded Record.never) setting unit quad quads record)
      (insertQuads (world.recorded (Record.after limit)) setting unit quad quads record) := by
  induction quads generalizing quad record with
  | nil => exact .same within
  | cons first rest ih =>
      rw [insertQuads_cons, insertQuads_cons]
      refine (Insertion.insertQuad_truncation world setting first within).next rfl ?_
        (fun _ _ room => ih (quad + 1) room)
        fun _ middle => insertQuads_continues world Record.never setting unit (quad + 1) rest middle
      rintro _ ⟨position, reason, rfl⟩
      rfl

theorem executeUnit_truncation (number : Nat) (unit : υ) {record : Record σ}
    (within : record.calls.length ≤ limit) :
    Truncation world limit .cancelled IsNormalization
      (executeUnit (world.recorded Record.never) setting operationOf number unit record)
      (executeUnit (world.recorded (Record.after limit)) setting operationOf number unit
        record) := by
  cases seen : (world.recorded (Record.after limit)).isCancelled record with
  | true =>
      obtain ⟨calls, step⟩ :=
        executeUnit_continues world Record.never setting operationOf number unit record
      rw [executeUnit_cancelled _ setting number unit seen]
      exact .cancelled (Record.spent_of_cancelled within seen) step
  | false =>
      have live : (world.recorded Record.never).isCancelled record = false := rfl
      rcases operation_cases operationOf unit with
        ⟨cause, unreadable⟩ | ⟨quads, read⟩ | ⟨operation, read, other⟩
      · rw [executeUnit_unreadable _ setting number live unreadable,
          executeUnit_unreadable _ setting number seen unreadable]
        exact .same within
      · rw [executeUnit_insertData _ setting number live read,
          executeUnit_insertData _ setting number seen read]
        exact (insertQuads_truncation world setting number 0 quads within).next rfl
          (fun _ excuse => excuse) (fun _ _ room => .same room)
          (fun _ middle => ⟨[], .refl middle⟩)
      · rw [executeUnit_unsupported _ setting number live read other,
          executeUnit_unsupported _ setting number seen read other]
        exact .same within

theorem executeUnits_truncation (number : Nat) (summary : Summary) (units : List υ)
    {record : Record σ} (within : record.calls.length ≤ limit) :
    Truncation world limit .cancelled IsNormalization
      (executeUnits (world.recorded Record.never) setting operationOf number summary units record)
      (executeUnits (world.recorded (Record.after limit)) setting operationOf number summary units
        record) := by
  induction units generalizing number summary record with
  | nil => exact .same within
  | cons unit rest ih =>
      rw [executeUnits_cons, executeUnits_cons]
      exact (executeUnit_truncation world setting operationOf number unit within).next rfl
        (fun _ excuse => excuse)
        (fun quads _ room => ih (number + 1) (summary.addUnit quads) room)
        fun quads middle => executeUnits_continues world Record.never setting operationOf
          (number + 1) (summary.addUnit quads) rest middle

/-- A cancellation only cuts an update short. Whenever it comes, the calls are the first ones of the
run that nobody cancels, with the same answers, and the state is the one behind these calls. The
answer is the cancellation or that of the full run; a success is one of the full run, with nothing
left out; and a run that leaves out calls reports the cancellation or the term without an entry that
the full run reports as well. -/
theorem execute_truncated (world : World σ) (literals : LiteralOptions)
    (operationOf : υ → Except ParseError Operation) (tree : RequestTree υ) (state : σ)
    (limit : Nat) :
    let full := execute (world.recorded Record.never) literals operationOf tree (.start state)
    let cut :=
      execute (world.recorded (Record.after limit)) literals operationOf tree (.start state)
    execute world.uncancelled literals operationOf tree state =
        Outcome.view Record.state full ∧
      world.Makes state full.2.calls full.2.state ∧
      cut.2.calls = full.2.calls.take limit ∧
      cut.2.calls.length = min limit full.2.calls.length ∧
      world.Makes state cut.2.calls cut.2.state ∧
      (cut.1 = .error .cancelled ∨ cut.1 = full.1) ∧
      (full.2.calls.length < limit → cut = full) ∧
      (∀ summary, cut.1 = .ok summary →
        full.1 = .ok summary ∧ cut.2.calls = full.2.calls) ∧
      (cut.2.calls.length < full.2.calls.length → cut.1 = .error .cancelled ∨
        ∃ error cause, error.normalizationError? = some cause ∧ cut.1 = .error error ∧
          full.1 = .error error) := by
  intro full cut
  have truncated : Truncation world limit .cancelled IsNormalization full cut :=
    executeUnits_truncation world ⟨literals, .ofPrologue tree.prologue⟩ operationOf 0 .zero
      tree.units (Nat.zero_le limit)
  have makes (token : Record σ → Bool) := execute_makes world token literals operationOf tree state
  refine ⟨?_, makes Record.never, truncated.calls_eq_take, ?_, makes (Record.after limit),
    truncated.answer_eq, truncated.eq_of_lt, ?_, ?_⟩
  · exact world.recorded_shows.execute literals operationOf tree (.start state)
  · rw [truncated.calls_eq_take, List.length_take]
  · intro summary succeeded
    have equal : cut = full := truncated.eq_of_ok succeeded
    rw [← equal]
    exact ⟨succeeded, rfl⟩
  · intro fewer
    rcases truncated.error_of_lt fewer with cancelled | ⟨error, excuse, here, there⟩
    · exact Or.inl cancelled
    · obtain ⟨cause, known⟩ := Option.isSome_iff_exists.mp excuse
      exact Or.inr ⟨error, cause, known, here, there⟩

end Update

end RdfDataset
