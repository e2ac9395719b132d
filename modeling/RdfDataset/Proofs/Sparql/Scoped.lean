import RdfDataset.Proofs.Sparql.Yield

/-!
# Readers and the declarations in front of a text

To a reader it makes no difference whether a declaration in front of the text is on the list of what
the request has declared, where later ones hide it, or outside, where it answers what is asked of
its label. Readers with this property are scoped. One rule for each way of making readers carries it
from the parts of the grammar to the whole; the rules are instances, so that most readers are scoped
for being made as they are.
-/

set_option autoImplicit false

namespace RdfDataset.Sparql

/-- The same place, with a declaration in front of all those of the request. -/
def Cursor.under (label space : String) (cursor : Cursor) : Cursor :=
  { cursor with spaces := cursor.spaces ++ [(label, space)] }

namespace Reader

variable {α β γ : Type}

def answerUnder (label space : String) (answer : Option (α × Cursor) × Marks) :
    Option (α × Cursor) × Marks :=
  (answer.1.map fun (a, cursor) => (a, cursor.under label space), answer.2)

class Scoped (reader : Reader α) : Prop where
  outcome_under (label space : String) (cursor : Cursor) (marks : Marks) :
    reader.outcome (cursor.under label space) marks =
      answerUnder label space <$> (reader.outcome cursor marks).declare label space

/-! ## Sequences and choices -/

instance scoped_pure (a : α) : Scoped (pure a : Reader α) := ⟨fun _ _ _ _ => rfl⟩

instance scoped_failure : Scoped (failure : Reader α) := ⟨fun _ _ _ _ => rfl⟩

instance scoped_bind (reader : Reader β) (next : β → Reader α) [first : Scoped reader]
    [rest : ∀ b, Scoped (next b)] : Scoped (reader >>= next) where
  outcome_under label space cursor marks := by
    rw [outcome_bind, outcome_bind, Consultation.declare_bind, first.outcome_under, map_bind,
      map_eq_pure_bind, bind_assoc]
    refine congrArg _ (funext fun (answer, marks) => ?_)
    cases answer with
    | none => rfl
    | some answer => exact (rest answer.1).outcome_under label space answer.2 marks

instance scoped_orElse (first second : Reader α) [left : Scoped first] [right : Scoped second] :
    Scoped (first <|> second) where
  outcome_under label space cursor marks := by
    rw [outcome_orElse, outcome_orElse, Consultation.declare_bind, left.outcome_under, map_bind,
      map_eq_pure_bind, bind_assoc]
    refine congrArg _ (funext fun (answer, marks) => ?_)
    cases answer with
    | none => exact right.outcome_under label space cursor marks
    | some answer => rfl

instance scoped_map (f : β → α) (reader : Reader β) [Scoped reader] : Scoped (f <$> reader) := by
  rw [map_eq_pure_bind]
  infer_instance

instance scoped_seqRight (first : Reader β) (second : Reader α) [Scoped first] [Scoped second] :
    Scoped (first *> second) := by
  rw [seqRight_eq_bind]
  infer_instance

instance scoped_ite (c : Prop) [Decidable c] (first second : Reader α) [Scoped first]
    [Scoped second] : Scoped (if c then first else second) := by
  split <;> infer_instance

instance scoped_oneOf_nil : Scoped (oneOf ([] : List (Reader α))) := scoped_failure

instance scoped_oneOf_cons (first : Reader α) (rest : List (Reader α)) [Scoped first]
    [Scoped (oneOf rest)] : Scoped (oneOf (first :: rest)) :=
  scoped_orElse first (oneOf rest)

theorem scoped_oneOf {readers : List (Reader α)} (each : ∀ reader ∈ readers, Scoped reader) :
    Scoped (oneOf readers) := by
  induction readers with
  | nil => exact scoped_oneOf_nil
  | cons first rest ih =>
      rw [List.forall_mem_cons] at each
      exact @scoped_oneOf_cons _ _ _ each.1 (ih each.2)

instance scoped_optional (reader : Reader α) [Scoped reader] : Scoped (optional reader) :=
  scoped_orElse (some <$> reader) (pure none)

instance scoped_guard (c : Prop) [Decidable c] : Scoped (guard c : Reader Unit) := by
  unfold guard
  infer_instance

/-! ## Single steps -/

/-- A reader that looks where it is looks at other things than the declarations. -/
theorem scoped_get {next : Cursor → Reader α} (each : ∀ cursor, Scoped (next cursor))
    (blind : ∀ label space cursor, next (cursor.under label space) = next cursor) :
    Scoped (get >>= next) where
  outcome_under label space cursor marks := by
    change (next (cursor.under label space)).outcome (cursor.under label space) marks =
      answerUnder label space <$> ((next cursor).outcome cursor marks).declare label space
    rw [blind]
    exact (each cursor).outcome_under label space cursor marks

theorem scoped_modify {f : Cursor → Cursor}
    (blind : ∀ label space cursor, f (cursor.under label space) = (f cursor).under label space) :
    Scoped (modify f : Reader Unit) where
  outcome_under label space cursor marks := by
    change Consultation.done (some ((), f (cursor.under label space)), marks) = _
    rw [blind]
    rfl

instance scoped_getMarks : Scoped (getThe Marks : Reader Marks) := ⟨fun _ _ _ _ => rfl⟩

instance scoped_modifyMarks (f : Marks → Marks) : Scoped (modifyThe Marks f : Reader Unit) :=
  ⟨fun _ _ _ _ => rfl⟩

instance scoped_modifyGetMarks (f : Marks → α × Marks) :
    Scoped (modifyGetThe Marks f : Reader α) :=
  ⟨fun _ _ _ _ => rfl⟩

instance scoped_ofText (step : List Char → Option (α × List Char)) : Scoped (ofText step) := by
  refine scoped_get (fun cursor => ?_) fun _ _ _ => rfl
  split
  · next a rest _ =>
      have := scoped_modify (f := fun cursor => { cursor with rest }) fun _ _ _ => rfl
      infer_instance
  · infer_instance

/-! ## Repetitions -/

section Repetitions

variable (reader : Reader α) [Scoped reader]

instance scoped_upTo (bound : Nat) : Scoped (upTo reader bound) := by
  induction bound with
  | zero => exact scoped_pure []
  | succ bound ih =>
      unfold upTo
      infer_instance

instance scoped_exactly (count : Nat) : Scoped (exactly reader count) := by
  induction count with
  | zero => exact scoped_pure []
  | succ count ih =>
      unfold exactly
      infer_instance

instance scoped_many : Scoped (many reader) :=
  scoped_get (fun _ => inferInstance) fun _ _ _ => rfl

instance scoped_many1 : Scoped (many1 reader) := by
  unfold many1
  infer_instance

variable (separator : Reader β) [Scoped separator]

instance scoped_separated1 : Scoped (separated1 reader separator) := by
  unfold separated1
  infer_instance

instance scoped_separated : Scoped (separated reader separator) := by
  unfold separated
  infer_instance

end Repetitions

/-! ## Characters, words and blanks -/

instance scoped_character (allowed : Char → Bool) : Scoped (character allowed) := scoped_ofText _

instance scoped_symbol (expected : String) : Scoped (symbol expected) := scoped_ofText _

instance scoped_keyword (expected : String) : Scoped (keyword expected) := scoped_ofText _

instance scoped_run (allowed : Char → Bool) : Scoped (run allowed) := scoped_ofText _

instance scoped_blankText : Scoped blankText := scoped_ofText _

instance scoped_blank : Scoped blank := by
  unfold blank
  infer_instance

instance scoped_notNext (refused : Char → Bool) : Scoped (notNext refused) := by
  refine scoped_get (fun cursor => ?_) fun _ _ _ => rfl
  split <;> infer_instance

instance scoped_lexeme (reader : Reader α) [Scoped reader] : Scoped (lexeme reader) := by
  unfold lexeme
  infer_instance

instance scoped_token (expected : String) : Scoped (token expected) := scoped_lexeme _

instance scoped_word (expected : String) : Scoped (word expected) := scoped_lexeme _

end Reader

end RdfDataset.Sparql
