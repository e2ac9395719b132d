import Mathlib.Data.List.Forall2
import RdfDataset.Proofs.Execution.Stage

/-!
# Updates that mean the same

An execution looks at the terms of a request only through their entries. Two requests whose quads
agree, each under its own setting, make the same calls with the same answers in every world, and end
in the same way.
-/

set_option autoImplicit false

namespace RdfDataset

/-- Position by position, the two quads have the same entries or fail alike. -/
structure Quad.Agree (setting setting' : Setting) (quad quad' : Quad) : Prop where
  subject : setting.entry quad.subject = setting'.entry quad'.subject
  predicate : setting.entry quad.predicate = setting'.entry quad'.predicate
  object : setting.entry quad.object = setting'.entry quad'.object
  graph : setting.graphEntry quad.graph = setting'.graphEntry quad'.graph

variable {σ υ υ' : Type} (world : World σ) {setting setting' : Setting}

namespace Insertion

theorem normalize_agree {term term' : Term} (same : setting.entry term = setting'.entry term')
    (state : σ) :
    normalize world setting term state = normalize world setting' term' state := by
  have same : term.entry setting.literals setting.namespaces =
      term'.entry setting'.literals setting'.namespaces := same
  rw [normalize, normalize, same]

theorem graphEntry_ne_missing (setting : Setting) (term : Term) :
    setting.graphEntry (some term) ≠ .ok none := by
  intro missing
  rw [Setting.graphEntry] at missing
  cases entry : setting.entry term <;> rw [entry] at missing <;> cases missing

theorem entry_eq_of_graphEntry {term term' : Term}
    (same : setting.graphEntry (some term) = setting'.graphEntry (some term')) :
    setting.entry term = setting'.entry term' := by
  rw [Setting.graphEntry, Setting.graphEntry] at same
  cases entry : setting.entry term <;> cases entry' : setting'.entry term' <;>
    rw [entry, entry'] at same <;> cases same <;> rfl

theorem normalizeGraph_agree {graph graph' : Option Term}
    (same : setting.graphEntry graph = setting'.graphEntry graph') (state : σ) :
    normalizeGraph world setting graph state = normalizeGraph world setting' graph' state := by
  cases graph with
  | none =>
      cases graph' with
      | none => rfl
      | some term' => exact absurd same.symm (graphEntry_ne_missing setting' term')
  | some term =>
      cases graph' with
      | none => exact absurd same (graphEntry_ne_missing setting term)
      | some term' => exact normalize_agree world (entry_eq_of_graphEntry same) state

theorem insertQuad_agree {quad quad' : Quad} (agree : quad.Agree setting setting' quad')
    (state : σ) :
    insertQuad world setting quad state = insertQuad world setting' quad' state := by
  have keys : key world setting quad state = key world setting' quad' state := by
    simp only [key, normalizeGraph_agree world agree.graph, normalize_agree world agree.subject,
      normalize_agree world agree.predicate, normalize_agree world agree.object]
  rw [insertQuad, insertQuad, keys]

end Insertion

namespace Update

/-- Two units are read as the same operation, or as insertions of quads that agree one by one. -/
inductive Alike (setting setting' : Setting) :
    Except ParseError Operation → Except ParseError Operation → Prop
  | same {reading : Except ParseError Operation}
      (other : ∀ quads, reading ≠ .ok (.insertData quads)) : Alike setting setting' reading reading
  | insertData {quads quads' : List Quad}
      (agree : List.Forall₂ (Quad.Agree setting setting') quads quads') :
      Alike setting setting' (.ok (.insertData quads)) (.ok (.insertData quads'))

theorem insertQuads_agree {quads quads' : List Quad}
    (agree : List.Forall₂ (Quad.Agree setting setting') quads quads') (unit quad : Nat)
    (state : σ) :
    insertQuads world setting unit quad quads state =
      insertQuads world setting' unit quad quads' state := by
  induction agree generalizing quad state with
  | nil => rfl
  | cons first _ ih =>
      rw [insertQuads_cons, insertQuads_cons, Insertion.insertQuad_agree world first]
      congr 1
      funext _ middle
      exact ih (quad + 1) middle

variable {operationOf : υ → Except ParseError Operation}
  {operationOf' : υ' → Except ParseError Operation}

theorem executeUnit_alike {unit : υ} {unit' : υ'}
    (alike : Alike setting setting' (operationOf unit) (operationOf' unit')) (number : Nat)
    (state : σ) :
    executeUnit world setting operationOf number unit state =
      executeUnit world setting' operationOf' number unit' state := by
  cases live : world.isCancelled state with
  | true =>
      rw [executeUnit_cancelled world setting number unit live,
        executeUnit_cancelled world setting' number unit' live]
  | false =>
      cases read : operationOf unit <;> cases read' : operationOf' unit' <;>
        rw [read, read'] at alike
      case error.error cause cause' =>
        cases alike
        rw [executeUnit_unreadable world setting number live read,
          executeUnit_unreadable world setting' number live read']
      case error.ok => cases alike
      case ok.error => cases alike
      case ok.ok operation operation' =>
        cases alike with
        | same other =>
            have other' : ∀ quads, operation ≠ .insertData quads := fun quads equal =>
              other quads (congrArg Except.ok equal)
            rw [executeUnit_unsupported world setting number live read other',
              executeUnit_unsupported world setting' number live read' other']
        | insertData agree =>
            rw [executeUnit_insertData world setting number live read,
              executeUnit_insertData world setting' number live read',
              insertQuads_agree world agree, agree.length_eq]

theorem executeUnits_alike {units : List υ} {units' : List υ'}
    (alike : List.Forall₂
      (fun unit unit' => Alike setting setting' (operationOf unit) (operationOf' unit'))
      units units')
    (number : Nat) (summary : Summary) (state : σ) :
    executeUnits world setting operationOf number summary units state =
      executeUnits world setting' operationOf' number summary units' state := by
  induction alike generalizing number summary state with
  | nil => rfl
  | cons first _ ih =>
      rw [executeUnits_cons, executeUnits_cons, executeUnit_alike world first]
      congr 1
      funext quads middle
      exact ih (number + 1) (summary.addUnit quads) middle

end Update

end RdfDataset
