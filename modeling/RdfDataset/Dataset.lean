import RdfDataset.Memory
import RdfDataset.Sparql.Request

/-!
# Datasets

A dataset in memory that is changed by update requests. Insertion of data is the only operation it
carries out; what a failing request has inserted before its failure stays. Whoever holds a dataset
holds all of it, so that there is nothing to be said about copies here.
-/

set_option autoImplicit false

namespace RdfDataset

/-- A dataset with the options under which requests are read and literals are stored. -/
structure Dataset (library : Sparql.Library := Sparql.grammar) where
  options : Options
  /-- Only options that have been accepted make a dataset. -/
  accepted : Sparql.checkOptions library options.texts = .ok ()
  memory : Memory

namespace Dataset

variable {library : Sparql.Library}

def empty : Dataset library := ⟨{}, rfl, .empty⟩

def withOptions (options : Options) : Except ParseError (Dataset library) :=
  match accepted : Sparql.checkOptions library options.texts with
  | .ok () => .ok ⟨options, accepted, .empty⟩
  | .error cause => .error cause

/-- Executes a request, under a token that may be cancelled already. -/
def update (dataset : Dataset library) (text : String) (cancelled : Bool := false) :
    Except ExecutionError Summary × Dataset library :=
  let (answer, memory) := Dispatch.update (Memory.world cancelled) dataset.options.literals
    (Sparql.reader library dataset.options.texts) text dataset.memory
  (answer, { dataset with memory })

end Dataset

end RdfDataset
