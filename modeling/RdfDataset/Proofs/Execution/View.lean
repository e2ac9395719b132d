import RdfDataset.Proofs.Execution.Stage

/-!
# Views of a world

Where a world answers like another one as soon as its states are looked at in a certain way, every
execution in it looks like the one in the other world. Recording is the first instance: a recorded
world under a token that nobody cancels runs like the world itself.
-/

set_option autoImplicit false

namespace RdfDataset

variable {σ τ : Type}

def Outcome.view {ε α : Type} (look : σ → τ) (outcome : Outcome σ ε α) : Outcome τ ε α :=
  (outcome.1, look outcome.2)

theorem Outcome.view_next {ε δ α β : Type} (look : σ → τ) (wrap : ε → δ)
    {continuation : α → σ → Outcome σ δ β} {continuation' : α → τ → Outcome τ δ β}
    (same : ∀ answer state,
      continuation' answer (look state) = (continuation answer state).view look)
    (outcome : Outcome σ ε α) :
    (outcome.view look).next wrap continuation' = (outcome.next wrap continuation).view look := by
  obtain ⟨answer, state⟩ := outcome
  cases answer with
  | error cause => rfl
  | ok answer => exact same answer state

/-- Through `look`, the states of `fine` behave like those of `coarse`. -/
structure World.Shows (fine : World σ) (coarse : World τ) (look : σ → τ) : Prop where
  register (entry : Entry) (state : σ) : coarse.register entry (look state) =
    ((fine.register entry state).1, look (fine.register entry state).2)
  index (key : Key) (state : σ) : coarse.index key (look state) =
    ((fine.index key state).1, look (fine.index key state).2)
  isCancelled (state : σ) : coarse.isCancelled (look state) = fine.isCancelled state

theorem World.recorded_shows (world : World σ) :
    (world.recorded Record.never).Shows world.uncancelled Record.state where
  register _ _ := rfl
  index _ _ := rfl
  isCancelled _ := rfl

namespace World.Shows

variable {υ : Type} {fine : World σ} {coarse : World τ} {look : σ → τ}

theorem normalize (shows : fine.Shows coarse look) (setting : Setting) (term : Term) (state : σ) :
    Insertion.normalize coarse setting term (look state) =
      Outcome.view look (Insertion.normalize fine setting term state) := by
  cases known : setting.entry term with
  | error cause =>
      rw [Insertion.normalize_unknown coarse setting (look state) known,
        Insertion.normalize_unknown fine setting state known]
      rfl
  | ok entry =>
      cases live : fine.isCancelled state with
      | true =>
          rw [Insertion.normalize_cancelled fine setting known live,
            Insertion.normalize_cancelled coarse setting known
              ((shows.isCancelled state).trans live)]
          rfl
      | false =>
          rw [Insertion.normalize_registered fine setting known live,
            Insertion.normalize_registered coarse setting known
              ((shows.isCancelled state).trans live), shows.register]
          rfl

theorem normalizeGraph (shows : fine.Shows coarse look) (setting : Setting) (graph : Option Term)
    (state : σ) :
    Insertion.normalizeGraph coarse setting graph (look state) =
      Outcome.view look (Insertion.normalizeGraph fine setting graph state) := by
  cases graph with
  | none => rfl
  | some term => exact shows.normalize setting term state

theorem key (shows : fine.Shows coarse look) (setting : Setting) (quad : Quad) (state : σ) :
    Insertion.key coarse setting quad (look state) =
      Outcome.view look (Insertion.key fine setting quad state) := by
  simp only [Insertion.key, shows.normalizeGraph, shows.normalize, Outcome.view]

theorem store (shows : fine.Shows coarse look) (key : Key) (state : σ) :
    Insertion.store coarse key (look state) =
      Outcome.view look (Insertion.store fine key state) := by
  cases live : fine.isCancelled state with
  | true =>
      rw [Insertion.store_cancelled fine key live,
        Insertion.store_cancelled coarse key ((shows.isCancelled state).trans live)]
      rfl
  | false =>
      rw [Insertion.store_indexed fine key live,
        Insertion.store_indexed coarse key ((shows.isCancelled state).trans live), shows.index]
      rfl

theorem insertQuad (shows : fine.Shows coarse look) (setting : Setting) (quad : Quad) (state : σ) :
    Insertion.insertQuad coarse setting quad (look state) =
      Outcome.view look (Insertion.insertQuad fine setting quad state) := by
  rw [Insertion.insertQuad_eq_next, Insertion.insertQuad_eq_next, shows.key]
  exact Outcome.view_next look id shows.store _

theorem insertQuads (shows : fine.Shows coarse look) (setting : Setting) (unit quad : Nat)
    (quads : List Quad) (state : σ) :
    Update.insertQuads coarse setting unit quad quads (look state) =
      Outcome.view look (Update.insertQuads fine setting unit quad quads state) := by
  induction quads generalizing quad state with
  | nil => rfl
  | cons first rest ih =>
      rw [Update.insertQuads_cons, Update.insertQuads_cons, shows.insertQuad]
      exact Outcome.view_next look _ (fun _ middle => ih (quad + 1) middle) _

theorem executeUnit (shows : fine.Shows coarse look) (setting : Setting)
    (operationOf : υ → Except ParseError Operation) (number : Nat) (unit : υ) (state : σ) :
    Update.executeUnit coarse setting operationOf number unit (look state) =
      Outcome.view look (Update.executeUnit fine setting operationOf number unit state) := by
  cases live : fine.isCancelled state with
  | true =>
      rw [Update.executeUnit_cancelled fine setting number unit live,
        Update.executeUnit_cancelled coarse setting number unit
          ((shows.isCancelled state).trans live)]
      rfl
  | false =>
      have live' : coarse.isCancelled (look state) = false := (shows.isCancelled state).trans live
      rcases Update.operation_cases operationOf unit with
        ⟨cause, unreadable⟩ | ⟨quads, read⟩ | ⟨operation, read, other⟩
      · rw [Update.executeUnit_unreadable fine setting number live unreadable,
          Update.executeUnit_unreadable coarse setting number live' unreadable]
        rfl
      · rw [Update.executeUnit_insertData fine setting number live read,
          Update.executeUnit_insertData coarse setting number live' read, shows.insertQuads]
        exact Outcome.view_next look id (fun _ _ => rfl) _
      · rw [Update.executeUnit_unsupported fine setting number live read other,
          Update.executeUnit_unsupported coarse setting number live' read other]
        rfl

theorem executeUnits (shows : fine.Shows coarse look) (setting : Setting)
    (operationOf : υ → Except ParseError Operation) (number : Nat) (summary : Summary)
    (units : List υ) (state : σ) :
    Update.executeUnits coarse setting operationOf number summary units (look state) =
      Outcome.view look
        (Update.executeUnits fine setting operationOf number summary units state) := by
  induction units generalizing number summary state with
  | nil => rfl
  | cons unit rest ih =>
      rw [Update.executeUnits_cons, Update.executeUnits_cons, shows.executeUnit]
      exact Outcome.view_next look id
        (fun quads middle => ih (number + 1) (summary.addUnit quads) middle) _

theorem execute (shows : fine.Shows coarse look) (literals : LiteralOptions)
    (operationOf : υ → Except ParseError Operation) (tree : RequestTree υ) (state : σ) :
    Update.execute coarse literals operationOf tree (look state) =
      Outcome.view look (Update.execute fine literals operationOf tree state) :=
  shows.executeUnits ⟨literals, .ofPrologue tree.prologue⟩ operationOf 0 .zero tree.units state

theorem update (shows : fine.Shows coarse look) (literals : LiteralOptions)
    (reader : RequestReader υ) (text : String) (state : σ) :
    Dispatch.update coarse literals reader text (look state) =
      Outcome.view look (Dispatch.update fine literals reader text state) := by
  rw [Dispatch.update, Dispatch.update]
  cases reader.tree text with
  | error cause => rfl
  | ok tree =>
      obtain ⟨token, kind, prologue, units⟩ := tree
      cases token <;> cases kind
      case query.update => exact shows.execute literals reader.operation _ state
      all_goals rfl

end World.Shows

end RdfDataset
