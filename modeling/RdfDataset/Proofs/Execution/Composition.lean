import RdfDataset.Memory
import RdfDataset.Proofs.Execution.Ending

/-!
# Composition of updates

The units of an update do not know of each other, nor do the quads of a unit: what goes from one to
the next is the state, and where a failure is reported is counted from the place at which an
execution starts. So the units of an update can be executed in two parts, and a block of quads can
be cut into two blocks, with no other difference than in the numbers that are reported.

`Outcome.relabel` is that difference. It is carried through the levels of the execution by one rule
for stages that follow each other.
-/

set_option autoImplicit false

namespace RdfDataset

namespace Outcome

variable {σ ε ε' δ δ' α α' β β' : Type}

/-- The same outcome with another name for what has been answered. -/
def relabel (onError : ε → δ) (onAnswer : α → β) (outcome : Outcome σ ε α) : Outcome σ δ β :=
  ((outcome.1.mapError onError).map onAnswer, outcome.2)

theorem relabel_id (outcome : Outcome σ ε α) : outcome.relabel id id = outcome := by
  obtain ⟨answer, state⟩ := outcome
  cases answer <;> rfl

theorem next_next {more : α → σ → Outcome σ ε α'} {last : α' → σ → Outcome σ ε β}
    (outcome : Outcome σ ε α) :
    (outcome.next id more).next id last =
      outcome.next id fun answer state => (more answer state).next id last := by
  obtain ⟨answer, state⟩ := outcome
  cases answer <;> rfl

theorem next_relabel {wrap : ε → δ} {wrap' : ε' → δ'} {onError : ε → ε'} {onFailure : δ → δ'}
    {onAnswer : α → α'} {onResult : β → β'} {more : α → σ → Outcome σ δ β}
    {more' : α' → σ → Outcome σ δ' β'} {outcome : Outcome σ ε α} {outcome' : Outcome σ ε' α'}
    (first : outcome' = outcome.relabel onError onAnswer)
    (wraps : ∀ cause, wrap' (onError cause) = onFailure (wrap cause))
    (second : ∀ answer state,
      more' (onAnswer answer) state = (more answer state).relabel onFailure onResult) :
    outcome'.next wrap' more' = (outcome.next wrap more).relabel onFailure onResult := by
  obtain ⟨answer, state⟩ := outcome
  subst first
  cases answer with
  | error cause => exact congrArg (fun cause => (Except.error cause, state)) (wraps cause)
  | ok answer => exact second answer state

end Outcome

namespace ExecutionError

/-- The same failure, where the quad that fails is found at another place. -/
def relocate (move : Nat × Nat → Nat × Nat) : ExecutionError → ExecutionError
  | quadInsertion unit quad cause =>
    quadInsertion (move (unit, quad)).1 (move (unit, quad)).2 cause
  | error => error

end ExecutionError

namespace Summary

def add (summary more : Summary) : Summary :=
  ⟨summary.units + more.units, summary.quads + more.quads⟩

theorem add_addUnit (summary more : Summary) (quads : Nat) :
    summary.add (more.addUnit quads) = (summary.add more).addUnit quads := by
  simp [add, addUnit, Nat.add_assoc]

end Summary

namespace Update

open ExecutionError (relocate)

variable {σ υ : Type}

theorem failure_relocate (move : Nat × Nat → Nat × Nat) (unit quad : Nat) (cause : InsertionError) :
    (failure unit quad cause).relocate move =
      failure (move (unit, quad)).1 (move (unit, quad)).2 cause := by
  cases cause <;> rfl

/-! ## Counting from another place -/

section Places

variable (world : World σ) (setting : Setting) (operationOf : υ → Except ParseError Operation)
  {move : Nat × Nat → Nat × Nat}

theorem insertQuads_relocate {unit quad unit' quad' : Nat} (quads : List Quad)
    (moves : ∀ i < quads.length, move (unit, quad + i) = (unit', quad' + i)) (state : σ) :
    insertQuads world setting unit' quad' quads state =
      Outcome.relabel (relocate move) id
        (insertQuads world setting unit quad quads state) := by
  induction quads generalizing quad quad' state with
  | nil => rfl
  | cons first rest ih =>
      have here : move (unit, quad) = (unit', quad') := moves 0 (by simp)
      have later : ∀ i < rest.length, move (unit, quad + 1 + i) = (unit', quad' + 1 + i) := by
        intro i inside
        have moved := moves (i + 1) (by simpa using inside)
        simpa [Nat.add_assoc, Nat.add_comm 1] using moved
      rw [insertQuads_cons, insertQuads_cons]
      refine Outcome.next_relabel (Outcome.relabel_id _).symm ?_ fun _ middle => ih later middle
      intro cause
      rw [failure_relocate, here]
      rfl

theorem executeUnit_relocate {number number' : Nat} (moves : ∀ i, move (number, i) = (number', i))
    (unit : υ) (state : σ) :
    executeUnit world setting operationOf number' unit state =
      Outcome.relabel (relocate move) id
        (executeUnit world setting operationOf number unit state) := by
  cases live : world.isCancelled state with
  | true =>
      rw [executeUnit_cancelled world setting number unit live,
        executeUnit_cancelled world setting number' unit live]
      rfl
  | false =>
      rcases operation_cases operationOf unit with
        ⟨cause, unreadable⟩ | ⟨quads, read⟩ | ⟨operation, read, other⟩
      · rw [executeUnit_unreadable world setting number live unreadable,
          executeUnit_unreadable world setting number' live unreadable]
        rfl
      · rw [executeUnit_insertData world setting number live read,
          executeUnit_insertData world setting number' live read]
        have stay : ∀ i < quads.length, move (number, 0 + i) = (number', 0 + i) :=
          fun i _ => moves (0 + i)
        have inserted := insertQuads_relocate world setting quads stay state
        exact Outcome.next_relabel inserted (fun _ => rfl) (fun _ _ => rfl)
      · rw [executeUnit_unsupported world setting number live read other,
          executeUnit_unsupported world setting number' live read other]
        rfl

theorem executeUnits_relocate {number number' : Nat} (count : Summary → Summary)
    (counts : ∀ summary quads, count (summary.addUnit quads) = (count summary).addUnit quads)
    (summary : Summary) (units : List υ)
    (moves : ∀ k < units.length, ∀ i, move (number + k, i) = (number' + k, i)) (state : σ) :
    executeUnits world setting operationOf number' (count summary) units state =
      Outcome.relabel (relocate move) count
        (executeUnits world setting operationOf number summary units state) := by
  induction units generalizing number number' summary state with
  | nil => rfl
  | cons unit rest ih =>
      have here := moves 0 (by simp)
      have later : ∀ k < rest.length, ∀ i,
          move (number + 1 + k, i) = (number' + 1 + k, i) := by
        intro k inside i
        have moved := moves (k + 1) (by simpa using inside) i
        simpa [Nat.add_assoc, Nat.add_comm 1] using moved
      rw [executeUnits_cons, executeUnits_cons]
      refine Outcome.next_relabel (executeUnit_relocate world setting operationOf here unit state)
        (fun _ => rfl) fun quads middle => ?_
      rw [id, ← counts]
      exact ih (summary.addUnit quads) later middle

end Places

/-! ## Units in two parts -/

/-- The place of a quad when there are more units in front. -/
def raised (count : Nat) (place : Nat × Nat) : Nat × Nat := (place.1 + count, place.2)

theorem execute_append (world : World σ) (literals : LiteralOptions)
    (operationOf : υ → Except ParseError Operation) (prologue : Prologue) (units more : List υ)
    (state : σ) :
    execute world literals operationOf (.update prologue (units ++ more)) state =
      Outcome.next id
        (fun summary middle =>
          Outcome.relabel (relocate (raised units.length)) summary.add
            (execute world literals operationOf (.update prologue more) middle))
        (execute world literals operationOf (.update prologue units) state) := by
  rw [execute, RequestTree.update, executeUnits_append]
  refine congrArg (fun continuation => Outcome.next id continuation _) ?_
  funext summary middle
  have moves : ∀ k < more.length, ∀ i,
      raised units.length (0 + k, i) = (0 + units.length + k, i) := by
    intro k _ i
    simp [raised, Nat.add_comm]
  exact executeUnits_relocate world ⟨literals, .ofPrologue prologue⟩ operationOf summary.add
    summary.add_addUnit .zero more moves middle

/-! ## A block of quads in two blocks -/

/-- The place of a quad after the block that is number `unit` has been cut in two, with so many
quads in the first half. -/
def afterCut (unit quads : Nat) (place : Nat × Nat) : Nat × Nat :=
  if place.1 < unit ∨ place.1 = unit ∧ place.2 < quads then place
  else if place.1 = unit then (place.1 + 1, place.2 - quads)
  else (place.1 + 1, place.2)

def oneMoreUnit (summary : Summary) : Summary := ⟨summary.units + 1, summary.quads⟩

section Cut

variable (world : World σ) (setting : Setting) {operationOf : υ → Except ParseError Operation}
  {first second whole : υ} {quads more : List Quad}

theorem executeUnits_insertData {unit : υ} {state : σ} (live : world.isCancelled state = false)
    (read : operationOf unit = .ok (.insertData quads)) (number : Nat) (summary : Summary)
    (rest : List υ) :
    executeUnits world setting operationOf number summary (unit :: rest) state =
      Outcome.next id
        (fun _ => executeUnits world setting operationOf (number + 1)
          (summary.addUnit quads.length) rest)
        (insertQuads world setting number 0 quads state) := by
  rw [executeUnits_cons, executeUnit_insertData world setting number live read]
  exact Outcome.next_next _

theorem executeUnits_cut (never : ∀ state, world.isCancelled state = false)
    (readFirst : operationOf first = .ok (.insertData quads))
    (readSecond : operationOf second = .ok (.insertData more))
    (readWhole : operationOf whole = .ok (.insertData (quads ++ more)))
    (number : Nat) (summary : Summary) (behind : List υ) (state : σ) :
    executeUnits world setting operationOf number summary (first :: second :: behind) state =
      Outcome.relabel (relocate (afterCut number quads.length)) oneMoreUnit
        (executeUnits world setting operationOf number summary (whole :: behind) state) := by
  -- The first half stays where it was, the second one starts the next unit, the rest comes later.
  have stay : ∀ i < quads.length,
      afterCut number quads.length (number, 0 + i) = (number, 0 + i) := by
    intro i inside
    simp [afterCut, inside]
  have start : ∀ i < more.length,
      afterCut number quads.length (number, 0 + quads.length + i) = (number + 1, 0 + i) := by
    intro i _
    simp [afterCut]
  have later : ∀ k < behind.length, ∀ i,
      afterCut number quads.length (number + 1 + k, i) = (number + 1 + 1 + k, i) := by
    intro k _ i
    have here : ¬ number + 1 + k < number := by omega
    have there : number + 1 + k ≠ number := by omega
    simp [afterCut, here, there]
    omega
  have counted : oneMoreUnit (summary.addUnit (quads ++ more).length) =
      (summary.addUnit quads.length).addUnit more.length := by
    simp [oneMoreUnit, Summary.addUnit, Nat.add_assoc]
  rw [executeUnits_insertData world setting (never _) readFirst,
    executeUnits_insertData world setting (never _) readWhole, insertQuads_append,
    Outcome.next_next]
  refine Outcome.next_relabel (insertQuads_relocate world setting quads stay state)
    (fun _ => rfl) fun _ middle => ?_
  rw [executeUnits_insertData world setting (never _) readSecond]
  refine Outcome.next_relabel (insertQuads_relocate world setting more start middle)
    (fun _ => rfl) fun _ last => ?_
  rw [← counted]
  exact executeUnits_relocate world setting operationOf oneMoreUnit (fun _ _ => rfl) _ behind later
    last

theorem execute_cut (never : ∀ state, world.isCancelled state = false)
    (readFirst : operationOf first = .ok (.insertData quads))
    (readSecond : operationOf second = .ok (.insertData more))
    (readWhole : operationOf whole = .ok (.insertData (quads ++ more)))
    (literals : LiteralOptions) (prologue : Prologue) (front behind : List υ) (state : σ) :
    execute world literals operationOf (.update prologue (front ++ first :: second :: behind))
        state =
      Outcome.relabel (relocate (afterCut front.length quads.length)) oneMoreUnit
        (execute world literals operationOf (.update prologue (front ++ whole :: behind))
          state) := by
  have stay : ∀ k < front.length, ∀ i,
      afterCut front.length quads.length (0 + k, i) = (0 + k, i) := by
    intro k inside i
    simp [afterCut, inside]
  rw [execute, execute, RequestTree.update, RequestTree.update, executeUnits_append,
    executeUnits_append, Nat.zero_add]
  have front := executeUnits_relocate world ⟨literals, .ofPrologue prologue⟩ operationOf id
    (fun _ _ => rfl) .zero front stay state
  exact Outcome.next_relabel front (fun _ => rfl) fun summary middle =>
    executeUnits_cut world _ never readFirst readSecond readWhole _ summary behind middle

end Cut

/-- An update is its units one after the other: executing some units and then, if they succeed, some
more on the state that they leave is executing them all. The summaries add up, and a failure of the
second part is reported as many units later as the first part has. A block of quads may be cut in
two as long as nobody cancels: there is one unit more, and quads behind the cut are counted anew. -/
theorem execute_composed (world : World σ) (literals : LiteralOptions)
    (operationOf : υ → Except ParseError Operation) (prologue : Prologue) (record : Record σ) :
    (∀ (token : Record σ → Bool) (units more : List υ),
      let run units := execute (world.recorded token) literals operationOf (.update prologue units)
      run (units ++ more) record =
        Outcome.next id
          (fun summary middle =>
            Outcome.relabel (relocate (raised units.length)) summary.add (run more middle))
          (run units record)) ∧
      ∀ (front behind : List υ) (first second whole : υ) (quads more : List Quad),
        operationOf first = .ok (.insertData quads) →
        operationOf second = .ok (.insertData more) →
        operationOf whole = .ok (.insertData (quads ++ more)) →
        let run units :=
          execute (world.recorded Record.never) literals operationOf (.update prologue units)
        run (front ++ first :: second :: behind) record =
          Outcome.relabel (relocate (afterCut front.length quads.length)) oneMoreUnit
            (run (front ++ whole :: behind) record) := by
  constructor
  · intro token units more
    exact execute_append (world.recorded token) literals operationOf prologue units more record
  · intro front behind first second whole quads more readFirst readSecond readWhole
    exact execute_cut (world.recorded Record.never) (fun _ => rfl) readFirst readSecond readWhole
      literals prologue front behind record

/-- An update without declarations, on an empty memory. -/
def trial (units : List Operation) : Outcome (Record Memory) ExecutionError Summary :=
  execute ((Memory.world false).recorded Record.never) {} .ok (.update {} units) (.start .empty)

def plain : Quad := ⟨.uri (.absolute "a"), .uri (.absolute "p"), .uri (.absolute "b"), none⟩

def blank : Quad := ⟨.blankNode "x", .uri (.absolute "p"), .uri (.absolute "a"), none⟩

/-- A blank node is found in the second half of a block. -/
theorem execute_composed_blank :
    (trial [.insertData [], .insertData [plain, blank]]).1 =
        .error (.quadInsertion 1 1 (.normalization .subject (.unsupportedTermKind "blanknode"))) ∧
      (trial [.insertData [], .insertData [plain], .insertData [blank]]).1 =
        .error (.quadInsertion 2 0 (.normalization .subject (.unsupportedTermKind "blanknode"))) ∧
      trial [.insertData [], .insertData [plain], .insertData [blank]] =
        Outcome.relabel (relocate (afterCut 1 1)) oneMoreUnit
          (trial [.insertData [], .insertData [plain, blank]]) :=
  ⟨rfl, rfl,
    (execute_composed (Memory.world false) {} .ok {} (.start .empty)).2
      [.insertData []] [] _ _ _ _ _ rfl rfl rfl⟩

end Update

end RdfDataset
