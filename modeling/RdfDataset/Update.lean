import RdfDataset.Insertion

/-!
# Execution of an update

The units of an update are executed one after the other, and so are the quads of a unit. The first
failure ends the update; what has been inserted before stays. A unit is turned into an operation
only when its turn comes.
-/

set_option autoImplicit false

namespace RdfDataset

structure Summary where
  units : Nat
  quads : Nat
deriving DecidableEq

namespace Summary

def zero : Summary := ⟨0, 0⟩

/-- Counts a unit with its quads, repeated ones included. -/
def addUnit (summary : Summary) (quads : Nat) : Summary :=
  ⟨summary.units + 1, summary.quads + quads⟩

end Summary

namespace Update

variable {σ υ : Type}

/-- The failure of a request whose quad could not be inserted. A cancellation has no place in the
request. -/
def failure (unit quad : Nat) : InsertionError → ExecutionError
  | .cancelled => .cancelled
  | cause => .quadInsertion unit quad cause

/-- Inserts the quads of a unit, which is number `unit`, counting them from `quad` on. -/
def insertQuads (world : World σ) (setting : Setting) (unit : Nat) :
    Nat → List Quad → σ → Except ExecutionError Unit × σ
  | _, [], state => (.ok (), state)
  | quad, first :: rest, state =>
    match Insertion.insertQuad world setting first state with
    | (.error cause, state) => (.error (failure unit quad cause), state)
    | (.ok _, state) => insertQuads world setting unit (quad + 1) rest state

/-- Executes one unit. The answer is the number of its quads. -/
def executeUnit (world : World σ) (setting : Setting)
    (operationOf : υ → Except ParseError Operation) (number : Nat) (unit : υ) (state : σ) :
    Except ExecutionError Nat × σ :=
  if world.isCancelled state then (.error .cancelled, state)
  else
    match operationOf unit with
    | .error cause => (.error (.parsing cause), state)
    | .ok (.insertData quads) =>
      match insertQuads world setting number 0 quads state with
      | (.error cause, state) => (.error cause, state)
      | (.ok _, state) => (.ok quads.length, state)
    | .ok operation => (.error (.unsupportedUnit operation.kind), state)

/-- Executes units, counting them from `number` on and adding to a summary. -/
def executeUnits (world : World σ) (setting : Setting)
    (operationOf : υ → Except ParseError Operation) :
    Nat → Summary → List υ → σ → Except ExecutionError Summary × σ
  | _, summary, [], state => (.ok summary, state)
  | number, summary, unit :: rest, state =>
    match executeUnit world setting operationOf number unit state with
    | (.error cause, state) => (.error cause, state)
    | (.ok quads, state) =>
      executeUnits world setting operationOf (number + 1) (summary.addUnit quads) rest state

/-- Executes an update under the namespaces of its prologue. Root and kind of the tree do not
matter here. -/
def execute (world : World σ) (literals : LiteralOptions)
    (operationOf : υ → Except ParseError Operation) (tree : RequestTree υ) (state : σ) :
    Except ExecutionError Summary × σ :=
  executeUnits world ⟨literals, .ofPrologue tree.prologue⟩ operationOf 0 .zero tree.units state

end Update

end RdfDataset
