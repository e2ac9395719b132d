import RdfDataset.Update

/-!
# Dispatch of requests

A request text is read as a tree, and the tree decides what happens: updates are executed, retrieval
queries and trees of any other kind are refused without any effect.
-/

set_option autoImplicit false

namespace RdfDataset

/-- A reader of request texts. The units of a tree keep a form of the reader's own and are turned
into operations one by one. -/
structure RequestReader (υ : Type) where
  tree : String → Except ParseError (RequestTree υ)
  operation : υ → Except ParseError Operation

namespace Dispatch

variable {σ υ : Type}

def retrievalFeature : String := "Execution of retrieval queries"

def update (world : World σ) (literals : LiteralOptions) (reader : RequestReader υ) (text : String)
    (state : σ) : Except ExecutionError Summary × σ :=
  match reader.tree text with
  | .error cause => (.error (.parsing cause), state)
  | .ok tree =>
    match tree.token, tree.kind with
    | .query, .update => Update.execute world literals reader.operation tree state
    | .query, .query => (.error (.notImplemented retrievalFeature), state)
    | token, kind => (.error (.unsupportedTree token kind), state)

def executeWithCancellation (world : World σ) (literals : LiteralOptions) (reader : RequestReader υ)
    (text : String) (state : σ) : Except ExecutionError Unit × σ :=
  let (answer, state) := update world literals reader text state
  (answer.map fun _ => (), state)

/-- Executes a request under a token of its own, which nobody cancels. -/
def execute (world : World σ) (literals : LiteralOptions) (reader : RequestReader υ) (text : String)
    (state : σ) : Except ExecutionError Unit × σ :=
  executeWithCancellation world.uncancelled literals reader text state

end Dispatch

end RdfDataset
