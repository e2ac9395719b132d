import RdfDataset.Memory
import RdfDataset.Proofs.Execution.Effects

/-!
# Updates with an unreadable unit

A request whose text cannot be read has no effect. A unit is read only when its turn comes, though,
so that an update whose text has been read can still fail with a report on reading: then the units
before the unreadable one have been carried out. Such an update is without effect exactly if these
units have no quads.
-/

set_option autoImplicit false

namespace RdfDataset

variable {σ υ : Type}

namespace Update

theorem Inserted.calls_eq_nil_iff {token : Record σ → Bool} {setting : Setting}
    {quads : List Quad} {keys : List Key} {calls : List Call}
    (inserted : Inserted token setting quads keys calls) : calls = [] ↔ quads = [] := by
  constructor
  · intro silent
    have indexed := inserted.indexed
    rw [silent] at indexed
    have none_given : keys = [] := List.map_eq_nil_iff.mp indexed.symm
    have same := inserted.length_eq
    rw [none_given] at same
    exact List.eq_nil_of_length_eq_zero same.symm
  · rintro rfl
    cases inserted
    rfl

/-- The quads of the units before the first one that is no insertion of data. -/
def leadingQuads (operationOf : υ → Except ParseError Operation) : List υ → List Quad
  | [] => []
  | unit :: rest =>
    match operationOf unit with
    | .ok (.insertData quads) => quads ++ leadingQuads operationOf rest
    | _ => []

theorem leadingQuads_eq_flatten {operationOf : υ → Except ParseError Operation}
    {before behind : List υ} {unit : υ} {blocks : List (List Quad)} {cause : ParseError}
    (reads : ReadsAs operationOf before blocks) (unread : operationOf unit = .error cause) :
    leadingQuads operationOf (before ++ unit :: behind) = blocks.flatten := by
  unfold ReadsAs at reads
  induction before generalizing blocks with
  | nil =>
      rw [List.map_nil] at reads
      rw [List.map_eq_nil_iff.mp reads.symm, List.nil_append, leadingQuads, unread]
      rfl
  | cons first rest ih =>
      cases blocks with
      | nil => cases reads
      | cons quads blocks =>
          obtain ⟨here, reads⟩ := List.cons.inj reads
          rw [List.cons_append, leadingQuads, here, List.flatten_cons, ← ih reads]

/-- An update that has stopped at a unit which cannot be read: the quads of the units before it are
inserted, and that is all. -/
structure StoppedUnread (world : World σ) (token : Record σ → Bool) (literals : LiteralOptions)
    (operationOf : υ → Except ParseError Operation) (tree : RequestTree υ) (state : σ)
    (cause : ParseError) (final : Record σ) : Prop where
  place : ∃ before unit behind blocks, tree.units = before ++ unit :: behind ∧
    ReadsAs operationOf before blocks ∧ operationOf unit = .error cause
  effects : ∃ keys, AllInserted token ⟨literals, .ofPrologue tree.prologue⟩
    (leadingQuads operationOf tree.units) keys final.calls
  makes : world.Makes state final.calls final.state
  silent_iff : final = .start state ↔ leadingQuads operationOf tree.units = []

theorem execute_unread {world : World σ} {token : Record σ → Bool} {literals : LiteralOptions}
    {operationOf : υ → Except ParseError Operation} {tree : RequestTree υ} {state : σ}
    {cause : ParseError} {final : Record σ}
    (stopped : execute (world.recorded token) literals operationOf tree (.start state) =
      (.error (.parsing cause), final)) :
    StoppedUnread world token literals operationOf tree state cause final := by
  obtain ⟨before, unit, behind, reached, middle, split, front, here⟩ := executeUnits_stops stopped
  obtain ⟨blocks, keys, calls, reads, _, step, inserted⟩ := executeUnits_ok front
  have all := step.calls_of_start
  subst all
  cases live : (world.recorded token).isCancelled middle with
  | true =>
      rw [executeUnit_cancelled _ _ _ _ live] at here
      cases here
  | false =>
      rcases executeUnit_stops live here with
        ⟨cause', unread, same, rfl⟩ | ⟨operation, _, _, same, _⟩ |
        ⟨done, last, rest, cause', next, _, same, _, _⟩
      · cases same
        have leading : leadingQuads operationOf tree.units = blocks.flatten := by
          rw [split, leadingQuads_eq_flatten reads unread]
        rw [← leading] at inserted
        refine ⟨⟨before, unit, behind, blocks, split, reads, unread⟩, ⟨keys, inserted.all⟩,
          step.makes, ?_⟩
        rw [← inserted.calls_eq_nil_iff]
        exact step.eq_start_iff
      · cases same
      · cases cause' <;> cases same

end Update

namespace Dispatch

theorem update_unread {world : World σ} {token : Record σ → Bool} {literals : LiteralOptions}
    {reader : RequestReader υ} {text : String} {state : σ} {cause : ParseError} {final : Record σ}
    (stopped : update (world.recorded token) literals reader text (.start state) =
      (.error (.parsing cause), final)) :
    (reader.tree text = .error cause ∧ final = .start state) ∨
      ∃ tree, reader.tree text = .ok tree ∧
        Update.StoppedUnread world token literals reader.operation tree state cause final := by
  unfold update at stopped
  split at stopped
  · next cause' unread =>
      cases stopped
      exact Or.inl ⟨unread, rfl⟩
  · next tree read =>
      split at stopped
      · exact Or.inr ⟨tree, read, Update.execute_unread stopped⟩
      · cases stopped
      · cases stopped

/-- When an update that fails with a report on reading has had no effect: exactly if its text could
not be read, or the units before the unreadable one have no quads. Otherwise those quads are
inserted, and nothing else. The same holds where a tree is executed as it stands. -/
theorem parsing_failure_silent_iff (world : World σ) (token : Record σ → Bool)
    (literals : LiteralOptions) (reader : RequestReader υ) (state : σ) (cause : ParseError)
    (final : Record σ) :
    (∀ text, update (world.recorded token) literals reader text (.start state) =
          (.error (.parsing cause), final) →
        (final = .start state ↔ ∀ tree, reader.tree text = .ok tree →
          Update.leadingQuads reader.operation tree.units = []) ∧
        ∀ tree, reader.tree text = .ok tree →
          Update.StoppedUnread world token literals reader.operation tree state cause final) ∧
      ∀ tree, Update.execute (world.recorded token) literals reader.operation tree (.start state) =
          (.error (.parsing cause), final) →
        (final = .start state ↔ Update.leadingQuads reader.operation tree.units = []) ∧
        Update.StoppedUnread world token literals reader.operation tree state cause final := by
  constructor
  · intro text stopped
    rcases update_unread stopped with ⟨unread, silent⟩ | ⟨tree, read, effects⟩
    · have no_tree : ∀ tree, reader.tree text ≠ .ok tree := by
        intro tree read
        rw [unread] at read
        cases read
      exact ⟨⟨fun _ tree read => absurd read (no_tree tree), fun _ => silent⟩,
        fun tree read => absurd read (no_tree tree)⟩
    · have only : ∀ tree', reader.tree text = .ok tree' → tree' = tree := by
        intro tree' read'
        rw [read] at read'
        exact (Except.ok.inj read').symm
      refine ⟨?_, fun tree' read' => only tree' read' ▸ effects⟩
      rw [effects.silent_iff]
      constructor
      · intro nothing tree' read'
        rw [only tree' read']
        exact nothing
      · intro nothing
        exact nothing tree read
  · intro tree stopped
    have effects := Update.execute_unread stopped
    exact ⟨effects.silent_iff, effects⟩

/-- A reader of one request: a quad is to be inserted, and then something unreadable follows. -/
def lateDefect : RequestReader (Except ParseError Operation) where
  tree _ := .ok (.update {} [.ok (.insertData [⟨.uri (.absolute "http://a"),
    .uri (.absolute "http://p"), .uri (.absolute "http://o"), none⟩]),
    .error (.unsupportedTerm "<< a b c >>")])
  operation := id

theorem parsing_failure_silent_iff_lateDefect :
    let run := update ((Memory.world false).recorded Record.never) {} lateDefect "" (.start .empty)
    run.1 = .error (.parsing (.unsupportedTerm "<< a b c >>")) ∧
      ∀ tree, lateDefect.tree "" = .ok tree →
        Update.StoppedUnread (Memory.world false) Record.never {} lateDefect.operation tree .empty
          (.unsupportedTerm "<< a b c >>") run.2 := by
  intro run
  refine ⟨rfl, ?_⟩
  exact ((parsing_failure_silent_iff (Memory.world false) Record.never {} lateDefect .empty
    (.unsupportedTerm "<< a b c >>") run.2).1 "" rfl).2

/-- A report on reading does not mean that nothing has been executed. -/
theorem parsing_failure_not_silent :
    ¬ ∀ (reader : RequestReader (Except ParseError Operation)) (text : String) (memory : Memory)
        (cause : ParseError) (final : Record Memory),
      update ((Memory.world false).recorded Record.never) {} reader text (.start memory) =
          (.error (.parsing cause), final) →
        final = .start memory := by
  intro silent
  have unchanged := silent lateDefect "" .empty _ _ rfl
  have calls : (4 : Nat) = 0 := congrArg (fun record => record.calls.length) unchanged
  cases calls

end Dispatch

end RdfDataset
