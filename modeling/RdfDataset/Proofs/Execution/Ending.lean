import RdfDataset.Proofs.Execution.Attempt

/-!
# How an execution ends

An execution that fails does so at one place: everything before that place succeeded, and what is
behind it has no influence. An execution that succeeds has inserted all quads of all units, one
after the other, and has made no other calls.
-/

set_option autoImplicit false

namespace RdfDataset.Update

open Insertion (Attempt)

variable {σ υ : Type}

/-! ## The place of a failure -/

section Places

variable (world : World σ) (setting : Setting) (operationOf : υ → Except ParseError Operation)

theorem insertQuads_append (unit quad : Nat) (quads more : List Quad) (state : σ) :
    insertQuads world setting unit quad (quads ++ more) state =
      Outcome.next id (fun _ => insertQuads world setting unit (quad + quads.length) more)
        (insertQuads world setting unit quad quads state) := by
  induction quads generalizing quad state with
  | nil => rfl
  | cons first rest ih =>
      rw [List.cons_append, insertQuads_cons, insertQuads_cons]
      cases Insertion.insertQuad world setting first state with
      | mk answer middle =>
          cases answer with
          | error cause => rfl
          | ok _ =>
              rw [Outcome.next, ih, List.length_cons, Nat.add_right_comm]
              rfl

theorem executeUnits_append (number : Nat) (summary : Summary) (units more : List υ) (state : σ) :
    executeUnits world setting operationOf number summary (units ++ more) state =
      Outcome.next id
        (fun summary =>
          executeUnits world setting operationOf (number + units.length) summary more)
        (executeUnits world setting operationOf number summary units state) := by
  induction units generalizing number summary state with
  | nil => rfl
  | cons first rest ih =>
      rw [List.cons_append, executeUnits_cons, executeUnits_cons]
      cases executeUnit world setting operationOf number first state with
      | mk answer middle =>
          cases answer with
          | error cause => rfl
          | ok _ =>
              rw [Outcome.next, ih, List.length_cons, Nat.add_right_comm]
              rfl

/-- Only what the units are read as matters. -/
theorem executeUnits_map (number : Nat) (summary : Summary) (units : List υ) (state : σ) :
    executeUnits world setting operationOf number summary units state =
      executeUnits world setting id number summary (units.map operationOf) state := by
  induction units generalizing number summary state with
  | nil => rfl
  | cons first rest ih =>
      have same : executeUnit world setting operationOf number first state =
          executeUnit world setting id number (operationOf first) state := rfl
      rw [List.map_cons, executeUnits_cons, executeUnits_cons, same]
      congr 1
      funext quads middle
      exact ih (number + 1) (summary.addUnit quads) middle

variable {world setting operationOf}

theorem insertQuads_stops {unit start : Nat} {quads : List Quad} {state final : σ}
    {error : ExecutionError}
    (stopped : insertQuads world setting unit start quads state = (.error error, final)) :
    ∃ done last rest cause middle, quads = done ++ last :: rest ∧
      error = failure unit (start + done.length) cause ∧
      insertQuads world setting unit start done state = (.ok (), middle) ∧
      Insertion.insertQuad world setting last middle = (.error cause, final) := by
  induction quads generalizing start state with
  | nil => cases stopped
  | cons first rest ih =>
      rw [insertQuads_cons] at stopped
      cases outcome : Insertion.insertQuad world setting first state with
      | mk answer next =>
          rw [outcome] at stopped
          cases answer with
          | error cause =>
              cases stopped
              exact ⟨[], first, rest, cause, state, rfl, rfl, rfl, outcome⟩
          | ok key =>
              obtain ⟨done, last, rest', cause, middle, rfl, rfl, before, here⟩ := ih stopped
              refine ⟨first :: done, last, rest', cause, middle, rfl, ?_, ?_, here⟩
              · rw [List.length_cons, Nat.add_right_comm]
                rfl
              · rw [insertQuads_cons, outcome]
                exact before

theorem executeUnits_stops {number : Nat} {summary : Summary} {units : List υ} {state final : σ}
    {error : ExecutionError}
    (stopped : executeUnits world setting operationOf number summary units state =
      (.error error, final)) :
    ∃ before unit behind reached middle, units = before ++ unit :: behind ∧
      executeUnits world setting operationOf number summary before state = (.ok reached, middle) ∧
      executeUnit world setting operationOf (number + before.length) unit middle =
        (.error error, final) := by
  induction units generalizing number summary state with
  | nil => cases stopped
  | cons first rest ih =>
      rw [executeUnits_cons] at stopped
      cases outcome : executeUnit world setting operationOf number first state with
      | mk answer next =>
          rw [outcome] at stopped
          cases answer with
          | error cause =>
              cases stopped
              exact ⟨[], first, rest, summary, state, rfl, rfl, outcome⟩
          | ok quads =>
              obtain ⟨before, unit, behind, reached, middle, rfl, front, here⟩ := ih stopped
              refine ⟨first :: before, unit, behind, reached, middle, rfl, ?_, ?_⟩
              · rw [executeUnits_cons, outcome]
                exact front
              · rw [List.length_cons, ← Nat.add_assoc, Nat.add_right_comm]
                exact here

/-- A unit that fails without having been cancelled is unreadable, or no insertion of data, or has a
quad that fails. -/
theorem executeUnit_stops {number : Nat} {unit : υ} {state final : σ} {error : ExecutionError}
    (live : world.isCancelled state = false)
    (stopped : executeUnit world setting operationOf number unit state = (.error error, final)) :
    (∃ cause, operationOf unit = .error cause ∧ error = .parsing cause ∧ final = state) ∨
      (∃ operation, operationOf unit = .ok operation ∧ (∀ quads, operation ≠ .insertData quads) ∧
        error = .unsupportedUnit operation.kind ∧ final = state) ∨
      ∃ done last rest cause middle, operationOf unit = .ok (.insertData (done ++ last :: rest)) ∧
        error = failure number done.length cause ∧
        insertQuads world setting number 0 done state = (.ok (), middle) ∧
        Insertion.insertQuad world setting last middle = (.error cause, final) := by
  rcases operation_cases operationOf unit with
    ⟨cause, unreadable⟩ | ⟨quads, read⟩ | ⟨operation, read, other⟩
  · rw [executeUnit_unreadable world setting number live unreadable] at stopped
    cases stopped
    exact Or.inl ⟨cause, unreadable, rfl, rfl⟩
  · right
    right
    rw [executeUnit_insertData world setting number live read] at stopped
    cases outcome : insertQuads world setting number 0 quads state with
    | mk answer next =>
        rw [outcome] at stopped
        cases answer with
        | ok _ => cases stopped
        | error cause =>
            cases stopped
            obtain ⟨done, last, rest, cause', middle, rfl, same, before, here⟩ :=
              insertQuads_stops outcome
            rw [Nat.zero_add] at same
            exact ⟨done, last, rest, cause', middle, read, same, before, here⟩
  · rw [executeUnit_unsupported world setting number live read other] at stopped
    cases stopped
    exact Or.inr (Or.inl ⟨operation, read, other, rfl, rfl⟩)

/-- The quad stands at this place of the units. -/
def HasQuad (operationOf : υ → Except ParseError Operation) (units : List υ) (unit place : Nat)
    (quad : Quad) : Prop :=
  ∃ written quads, units[unit]? = some written ∧ operationOf written = .ok (.insertData quads) ∧
    quads[place]? = some quad

theorem hasQuad_of_split {units before behind : List υ} {unit : υ} {done rest : List Quad}
    {last : Quad} (split : units = before ++ unit :: behind)
    (read : operationOf unit = .ok (.insertData (done ++ last :: rest))) :
    HasQuad operationOf units before.length done.length last := by
  refine ⟨unit, _, ?_, read, ?_⟩
  · simp [split]
  · simp

/-- Only an insertion of data succeeds. -/
theorem executeUnit_ok {number quads : Nat} {unit : υ} {state final : σ}
    (succeeded : executeUnit world setting operationOf number unit state = (.ok quads, final)) :
    ∃ block, operationOf unit = .ok (.insertData block) ∧ quads = block.length ∧
      insertQuads world setting number 0 block state = (.ok (), final) := by
  by_cases live : world.isCancelled state = true
  · rw [executeUnit_cancelled world setting number unit live] at succeeded
    cases succeeded
  · rw [Bool.not_eq_true] at live
    rcases operation_cases operationOf unit with
      ⟨cause, unreadable⟩ | ⟨block, read⟩ | ⟨operation, read, other⟩
    · rw [executeUnit_unreadable world setting number live unreadable] at succeeded
      cases succeeded
    · rw [executeUnit_insertData world setting number live read] at succeeded
      cases outcome : insertQuads world setting number 0 block state with
      | mk answer next =>
          rw [outcome] at succeeded
          cases answer with
          | error cause => cases succeeded
          | ok _ =>
              cases succeeded
              exact ⟨block, read, rfl, outcome⟩
    · rw [executeUnit_unsupported world setting number live read other] at succeeded
      cases succeeded

end Places

/-! ## The calls of an execution -/

section Calls

variable (world : World σ) (token : Record σ → Bool) (setting : Setting)
  (operationOf : υ → Except ParseError Operation)

theorem insertQuads_continues (unit quad : Nat) (quads : List Quad) (record : Record σ) :
    ∃ calls, record.Continues world
      (insertQuads (world.recorded token) setting unit quad quads record).2 calls := by
  induction quads generalizing quad record with
  | nil => exact ⟨[], .refl record⟩
  | cons first rest ih =>
      obtain ⟨calls, step, _⟩ := Insertion.insertQuad_attempt world token setting first record
      rw [insertQuads_cons]
      exact Outcome.next_continues ⟨calls, step⟩ fun _ middle => ih (quad + 1) middle

theorem executeUnit_continues (number : Nat) (unit : υ) (record : Record σ) :
    ∃ calls, record.Continues world
      (executeUnit (world.recorded token) setting operationOf number unit record).2 calls := by
  cases live : (world.recorded token).isCancelled record with
  | true =>
      rw [executeUnit_cancelled _ setting number unit live]
      exact ⟨[], .refl record⟩
  | false =>
      rcases operation_cases operationOf unit with
        ⟨cause, unreadable⟩ | ⟨quads, read⟩ | ⟨operation, read, other⟩
      · rw [executeUnit_unreadable _ setting number live unreadable]
        exact ⟨[], .refl record⟩
      · rw [executeUnit_insertData _ setting number live read]
        exact Outcome.next_continues
          (insertQuads_continues world token setting number 0 quads record)
          fun _ middle => ⟨[], .refl middle⟩
      · rw [executeUnit_unsupported _ setting number live read other]
        exact ⟨[], .refl record⟩

theorem executeUnits_continues (number : Nat) (summary : Summary) (units : List υ)
    (record : Record σ) :
    ∃ calls, record.Continues world
      (executeUnits (world.recorded token) setting operationOf number summary units record).2
      calls := by
  induction units generalizing number summary record with
  | nil => exact ⟨[], .refl record⟩
  | cons unit rest ih =>
      rw [executeUnits_cons]
      exact Outcome.next_continues
        (executeUnit_continues world token setting operationOf number unit record)
        fun quads middle => ih (number + 1) (summary.addUnit quads) middle

theorem execute_makes (literals : LiteralOptions)
    (operationOf : υ → Except ParseError Operation) (tree : RequestTree υ) (state : σ) :
    world.Makes state
      (execute (world.recorded token) literals operationOf tree (.start state)).2.calls
      (execute (world.recorded token) literals operationOf tree (.start state)).2.state := by
  obtain ⟨calls, step⟩ := executeUnits_continues world token
    ⟨literals, .ofPrologue tree.prologue⟩ operationOf 0 .zero tree.units (.start state)
  rw [execute, step.calls_of_start]
  exact step.makes

/-! ## Successful executions -/

/-- The calls that insert quads one after the other, and the keys that the quads get. -/
inductive Inserted : List Quad → List Key → List Call → Prop
  | nil : Inserted [] [] []
  | cons {quad : Quad} {quads : List Quad} {key : Key} {keys : List Key} {calls more : List Call}
      (first : Attempt token setting quad (.ok key) calls) (rest : Inserted quads keys more) :
      Inserted (quad :: quads) (key :: keys) (calls ++ more)

/-- The units are insertions of these blocks of quads. -/
def ReadsAs (units : List υ) (blocks : List (List Quad)) : Prop :=
  units.map operationOf = blocks.map fun quads => .ok (.insertData quads)

variable {world token setting operationOf}

theorem Inserted.append {quads quads' : List Quad} {keys keys' : List Key}
    {calls calls' : List Call} (first : Inserted token setting quads keys calls)
    (second : Inserted token setting quads' keys' calls') :
    Inserted token setting (quads ++ quads') (keys ++ keys') (calls ++ calls') := by
  induction first with
  | nil => exact second
  | cons attempt _ ih =>
      rw [List.append_assoc]
      exact .cons attempt ih

theorem insertQuads_ok {unit quad : Nat} {quads : List Quad} {record final : Record σ}
    (succeeded : insertQuads (world.recorded token) setting unit quad quads record =
      (.ok (), final)) :
    ∃ keys calls, record.Continues world final calls ∧
      Inserted token setting quads keys calls := by
  induction quads generalizing quad record with
  | nil =>
      cases succeeded
      exact ⟨[], [], .refl _, .nil⟩
  | cons first rest ih =>
      obtain ⟨calls, step, attempt⟩ :=
        Insertion.insertQuad_attempt world token setting first record
      rw [insertQuads_cons] at succeeded
      cases outcome : Insertion.insertQuad (world.recorded token) setting first record with
      | mk answer middle =>
          rw [outcome] at succeeded step attempt
          cases answer with
          | error cause => cases succeeded
          | ok key =>
              obtain ⟨keys, more, step', inserted⟩ := ih succeeded
              exact ⟨key :: keys, calls ++ more, step.trans step', .cons attempt inserted⟩

theorem executeUnits_ok {number : Nat} {summary reached : Summary} {units : List υ}
    {record final : Record σ}
    (succeeded : executeUnits (world.recorded token) setting operationOf number summary units
      record = (.ok reached, final)) :
    ∃ blocks keys calls, ReadsAs operationOf units blocks ∧
      reached = ⟨summary.units + units.length, summary.quads + blocks.flatten.length⟩ ∧
      record.Continues world final calls ∧
      Inserted token setting blocks.flatten keys calls := by
  induction units generalizing number summary record with
  | nil =>
      cases succeeded
      exact ⟨[], [], [], rfl, rfl, .refl _, .nil⟩
  | cons unit rest ih =>
      rw [executeUnits_cons] at succeeded
      cases outcome : executeUnit (world.recorded token) setting operationOf number unit record with
      | mk answer middle =>
          rw [outcome] at succeeded
          cases answer with
          | error cause => cases succeeded
          | ok quads =>
              obtain ⟨block, read, rfl, front⟩ := executeUnit_ok outcome
              obtain ⟨keys, calls, step, inserted⟩ := insertQuads_ok front
              obtain ⟨blocks, keys', more, reads, sum, step', inserted'⟩ := ih succeeded
              refine ⟨block :: blocks, keys ++ keys', calls ++ more, ?_, ?_, step.trans step',
                inserted.append inserted'⟩
              · unfold ReadsAs at reads ⊢
                rw [List.map_cons, List.map_cons, read, reads]
              · rw [sum]
                simp only [Summary.addUnit, List.length_cons, List.flatten_cons,
                  List.length_append, Summary.mk.injEq]
                omega

end Calls

end RdfDataset.Update
