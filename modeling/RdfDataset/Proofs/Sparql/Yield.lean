import RdfDataset.Proofs.Sparql.Consultation
import RdfDataset.Sparql.Reader

/-!
# What readers yield

A reader yields a property if whatever it reads, from any place of any text and after any marks, has
the property, whatever it is told of labels. One rule for each way of making readers from others
carries this from the parts of a request to the request. What a reader takes from the text, and
where it fails, is left open, so that the rules do not depend on the order of choices.
-/

set_option autoImplicit false

namespace RdfDataset.Sparql.Reader

variable {α β : Type}

/-- Goes on behind what has been read. -/
def resume (next : β → Reader α) :
    Option (β × Cursor) × Marks → Consultation (Option (α × Cursor) × Marks)
  | (some (b, cursor), marks) => (next b).outcome cursor marks
  | (none, marks) => pure (none, marks)

/-- Reads again, from a place where nothing has been read. -/
def retry (second : Reader α) (cursor : Cursor) :
    Option (α × Cursor) × Marks → Consultation (Option (α × Cursor) × Marks)
  | (some answer, marks) => pure (some answer, marks)
  | (none, marks) => second.outcome cursor marks

theorem outcome_bind (reader : Reader β) (next : β → Reader α) (cursor : Cursor) (marks : Marks) :
    (reader >>= next).outcome cursor marks = reader.outcome cursor marks >>= resume next := by
  unfold outcome
  rw [StateT.run_bind, OptionT.run_bind, Option.elimM, StateT.run_bind]
  refine congrArg _ (funext fun (answer, marks) => ?_)
  cases answer <;> rfl

theorem outcome_orElse (first second : Reader α) (cursor : Cursor) (marks : Marks) :
    (first <|> second).outcome cursor marks =
      first.outcome cursor marks >>= retry second cursor := by
  have step : StateT.run (first <|> second) cursor =
      (StateT.run first cursor <|> StateT.run second cursor) := rfl
  unfold outcome
  rw [step, OptionT.run_orElse, Option.elimM, StateT.run_bind]
  refine congrArg _ (funext fun (answer, marks) => ?_)
  cases answer <;> rfl

/-- Whatever the reader reads has the property. -/
def Yields (reader : Reader α) (P : α → Prop) : Prop :=
  ∀ cursor marks, (reader.outcome cursor marks).Every fun answer => ∀ read ∈ answer.1, P read.1

variable {P : α → Prop} {Q : β → Prop}

/-! ## Single steps and sequences -/

theorem yields_true (reader : Reader α) : reader.Yields fun _ => True :=
  fun _ _ => .of_forall _ fun _ _ _ => trivial

theorem yields_pure {a : α} (holds : P a) : (pure a : Reader α).Yields P := by
  rintro cursor marks read ⟨⟩
  exact holds

theorem yields_failure : (failure : Reader α).Yields P := by
  rintro cursor marks read ⟨⟩

theorem Yields.bind {reader : Reader β} {next : β → Reader α} (first : reader.Yields Q)
    (rest : ∀ b, Q b → (next b).Yields P) : (reader >>= next).Yields P := by
  intro cursor marks
  rw [outcome_bind]
  refine (first cursor marks).bind fun (answer, marks) read => ?_
  cases answer with
  | none => exact fun read none => nomatch none
  | some answer => exact rest answer.1 (read answer rfl) answer.2 marks

/-- Nothing has to be known of what is read on the way. -/
theorem yields_bind {reader : Reader β} {next : β → Reader α} (rest : ∀ b, (next b).Yields P) :
    (reader >>= next).Yields P :=
  (yields_true reader).bind fun b _ => rest b

theorem Yields.seqRight {reader : Reader β} {next : Reader α} (last : next.Yields P) :
    (reader *> next).Yields P :=
  yields_bind fun _ => last

/-! ## Choices -/

theorem Yields.orElse {first second : Reader α} (left : first.Yields P)
    (right : second.Yields P) : (first <|> second).Yields P := by
  intro cursor marks
  rw [outcome_orElse]
  refine (left cursor marks).bind fun (answer, marks) read => ?_
  cases answer with
  | none => exact right cursor marks
  | some answer => exact read

theorem yields_oneOf {readers : List (Reader α)} (each : ∀ reader ∈ readers, reader.Yields P) :
    (oneOf readers).Yields P := by
  induction readers with
  | nil => exact yields_failure
  | cons first rest ih =>
      rw [List.forall_mem_cons] at each
      exact each.1.orElse (ih each.2)

/-! ## Repetitions -/

theorem Yields.cons {reader : Reader α} {more : Reader (List α)} (first : reader.Yields P)
    (rest : more.Yields fun as => ∀ a ∈ as, P a) :
    (do
      let a ← reader
      let as ← more
      return a :: as : Reader (List α)).Yields fun as => ∀ a ∈ as, P a :=
  first.bind fun _ here => rest.bind fun _ behind =>
    yields_pure (List.forall_mem_cons.mpr ⟨here, behind⟩)

theorem Yields.upTo {reader : Reader α} (each : reader.Yields P) (bound : Nat) :
    (upTo reader bound).Yields fun as => ∀ a ∈ as, P a := by
  induction bound with
  | zero => exact yields_pure (List.forall_mem_nil P)
  | succ bound ih => exact (each.cons ih).orElse (yields_pure (List.forall_mem_nil P))

theorem Yields.many {reader : Reader α} (each : reader.Yields P) :
    (many reader).Yields fun as => ∀ a ∈ as, P a :=
  yields_bind fun _ => each.upTo _

theorem Yields.separated1 {reader : Reader α} (each : reader.Yields P) (separator : Reader β) :
    (separated1 reader separator).Yields fun as => ∀ a ∈ as, P a :=
  each.cons each.seqRight.many

theorem Yields.separated {reader : Reader α} (each : reader.Yields P) (separator : Reader β) :
    (separated reader separator).Yields fun as => ∀ a ∈ as, P a :=
  (each.separated1 separator).orElse (yields_pure (List.forall_mem_nil P))

/-! ## Whole texts -/

theorem Yields.run? {reader : Reader α} (holds : reader.Yields P) (text : List Char)
    (base : Option String) :
    (reader.run? text base).Every fun answer => ∀ read ∈ answer, P read.1 :=
  (holds _ _).bind fun _ each read kept => each read (Option.mem_filter_iff.mp kept).1

end RdfDataset.Sparql.Reader
