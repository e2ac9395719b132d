import RdfDataset.Insertion

/-!
# Statements

A statement is a quad whose terms have been replaced by their lexicon entries. It depends on the
setting alone, so that it says what a quad means before any id has been given out. Main statements:
the statement of a quad exists exactly if all its terms have entries, and is never cancelled.
-/

set_option autoImplicit false

namespace RdfDataset

/-- A quad of lexicon entries. Without a graph it belongs to the default graph. -/
structure Statement where
  subject : Entry
  predicate : Entry
  object : Entry
  graph : Option Entry
deriving DecidableEq

/-- The entry of a term under a setting. -/
def Setting.entry (setting : Setting) (term : Term) : Except NormalizationError Entry :=
  term.entry setting.literals setting.namespaces

def Setting.graphEntry (setting : Setting) :
    Option Term → Except NormalizationError (Option Entry)
  | none => .ok none
  | some term => (setting.entry term).map some

namespace Statement

/-- The entries of a statement in the order in which they are looked at. -/
def entries (statement : Statement) : List Entry :=
  statement.graph.toList ++ [statement.subject, statement.predicate, statement.object]

end Statement

namespace Quad

/-- The statement that a quad makes, or the failure of the first position without an entry, in the
order graph, subject, predicate, object. -/
def statement (setting : Setting) (quad : Quad) : Except InsertionError Statement := do
  let graph ← (setting.graphEntry quad.graph).mapError (InsertionError.atPosition .graph)
  let subject ← (setting.entry quad.subject).mapError (InsertionError.atPosition .subject)
  let predicate ← (setting.entry quad.predicate).mapError (InsertionError.atPosition .predicate)
  let object ← (setting.entry quad.object).mapError (InsertionError.atPosition .object)
  return { subject, predicate, object, graph }

/-- The terms of a quad in the order in which they are looked at. -/
def terms (quad : Quad) : List Term :=
  quad.graph.toList ++ [quad.subject, quad.predicate, quad.object]

/-- The entries of those terms of a quad that have one. -/
def entries (setting : Setting) (quad : Quad) : List Entry :=
  quad.terms.filterMap fun term => (setting.entry term).toOption

theorem entries_eq_append (setting : Setting) (quad : Quad) :
    quad.entries setting =
      (quad.graph.toList.filterMap fun term => (setting.entry term).toOption) ++
        ((setting.entry quad.subject).toOption.toList ++
          ((setting.entry quad.predicate).toOption.toList ++
            (setting.entry quad.object).toOption.toList)) := by
  rw [entries, terms, List.filterMap_append]
  congr 1
  cases subject : (setting.entry quad.subject).toOption <;>
    cases predicate : (setting.entry quad.predicate).toOption <;>
      cases object : (setting.entry quad.object).toOption <;>
        simp [subject, predicate, object]

theorem statement_eq_ok {setting : Setting} {quad : Quad} {statement : Statement}
    (means : quad.statement setting = .ok statement) :
    setting.graphEntry quad.graph = .ok statement.graph ∧
      setting.entry quad.subject = .ok statement.subject ∧
      setting.entry quad.predicate = .ok statement.predicate ∧
      setting.entry quad.object = .ok statement.object := by
  unfold Quad.statement at means
  cases graph : setting.graphEntry quad.graph with
  | error cause => rw [graph] at means; cases means
  | ok graph' =>
      cases subject : setting.entry quad.subject with
      | error cause => rw [graph, subject] at means; cases means
      | ok subject' =>
          cases predicate : setting.entry quad.predicate with
          | error cause => rw [graph, subject, predicate] at means; cases means
          | ok predicate' =>
              cases object : setting.entry quad.object with
              | error cause => rw [graph, subject, predicate, object] at means; cases means
              | ok object' =>
                  rw [graph, subject, predicate, object] at means
                  cases means
                  exact ⟨rfl, rfl, rfl, rfl⟩

theorem entries_of_statement {setting : Setting} {quad : Quad} {statement : Statement}
    (means : quad.statement setting = .ok statement) :
    quad.entries setting = statement.entries := by
  obtain ⟨graph, subject, predicate, object⟩ := statement_eq_ok means
  rw [entries_eq_append, subject, predicate, object, Statement.entries]
  cases named : quad.graph with
  | none =>
      rw [named] at graph
      rw [← Except.ok.inj graph]
      rfl
  | some term =>
      rw [named] at graph
      cases known : setting.entry term with
      | error cause =>
          rw [Setting.graphEntry, known] at graph
          cases graph
      | ok entry =>
          rw [Setting.graphEntry, known] at graph
          rw [← Except.ok.inj graph]
          simp [known, Except.toOption]

end Quad

/-! ## Terms without an entry -/

theorem Literal.datatypeSpace_eq_error {policy : DatatypePolicy} {env : Namespaces} {label : String}
    {cause : NormalizationError} (failed : datatypeSpace policy env label = .error cause) :
    cause = .unresolvedPrefix label := by
  unfold datatypeSpace at failed
  split at failed
  · cases failed
  · exact (Except.error.inj failed).symm
  · cases failed

theorem Literal.canonical_eq_error {options : LiteralOptions} {env : Namespaces} {literal : Literal}
    {cause : NormalizationError} (failed : literal.canonical options env = .error cause) :
    ∃ label, cause = .unresolvedPrefix label := by
  unfold canonical at failed
  split at failed
  · cases failed
  · cases failed
  · next label suffix _ =>
      cases space : datatypeSpace options.datatypePolicy env label with
      | error cause' =>
          rw [space] at failed
          cases failed
          exact ⟨label, datatypeSpace_eq_error space⟩
      | ok space' =>
          rw [space] at failed
          cases failed
  · split at failed <;> cases failed

theorem Setting.entry_ne_cancelled (setting : Setting) (term : Term) :
    setting.entry term ≠ .error .cancelled := by
  intro failed
  unfold Setting.entry Term.entry at failed
  split at failed
  · cases failed
  · split at failed <;> cases failed
  · next literal =>
      cases text : literal.canonical setting.literals setting.namespaces with
      | error cause =>
          rw [text] at failed
          obtain ⟨label, rfl⟩ := Literal.canonical_eq_error text
          cases failed
      | ok text' =>
          rw [text] at failed
          cases failed
  · cases failed

end RdfDataset
