import RdfDataset.World

/-!
# Insertion of a quad

A quad is inserted in two steps: its terms are replaced by object ids, position by position, and the
key made of them is handed to the backend. All four positions are attempted even if one of them
fails, so that a failing quad may still leave new entries in the lexicon; the first failing position
is the one that is reported.
-/

set_option autoImplicit false

namespace RdfDataset

/-- What terms are read under: the options for literals and the namespaces of the request. -/
structure Setting where
  literals : LiteralOptions
  namespaces : Namespaces

namespace Insertion

variable {σ : Type}

/-- The object id of a term. A term without an entry fails before the token is looked at; under a
cancelled token nothing is registered. -/
def normalize (world : World σ) (setting : Setting) (term : Term) (state : σ) :
    Except NormalizationError ObjectId × σ :=
  match term.entry setting.literals setting.namespaces with
  | .error cause => (.error cause, state)
  | .ok entry =>
    if world.isCancelled state then (.error .cancelled, state)
    else
      let (id, state) := world.register entry state
      (.ok id, state)

/-- The object id of a graph. A missing graph is the default graph and needs no lexicon. -/
def normalizeGraph (world : World σ) (setting : Setting) (graph : Option Term) (state : σ) :
    Except NormalizationError ObjectId × σ :=
  match graph with
  | none => (.ok ObjectId.defaultGraph, state)
  | some term => normalize world setting term state

/-- The key of four object ids, or the failure of the first position that has none. -/
def assemble (graph subject predicate object : Except NormalizationError ObjectId) :
    Except InsertionError Key := do
  let graph ← graph.mapError (InsertionError.atPosition .graph)
  let subject ← subject.mapError (InsertionError.atPosition .subject)
  let predicate ← predicate.mapError (InsertionError.atPosition .predicate)
  let object ← object.mapError (InsertionError.atPosition .object)
  return { subject, predicate, object, graph }

/-- The key of a quad. The positions are normalized in the order graph, subject, predicate, object.
-/
def key (world : World σ) (setting : Setting) (quad : Quad) (state : σ) :
    Except InsertionError Key × σ :=
  let (graph, state) := normalizeGraph world setting quad.graph state
  let (subject, state) := normalize world setting quad.subject state
  let (predicate, state) := normalize world setting quad.predicate state
  let (object, state) := normalize world setting quad.object state
  (assemble graph subject predicate object, state)

/-- Hands a key to the backend unless the token has been cancelled meanwhile. -/
def store (world : World σ) (key : Key) (state : σ) : Except InsertionError Key × σ :=
  if world.isCancelled state then (.error .cancelled, state)
  else
    let (answer, state) := world.index key state
    ((answer.mapError .backend).map fun _ => key, state)

def insertQuad (world : World σ) (setting : Setting) (quad : Quad) (state : σ) :
    Except InsertionError Key × σ :=
  match key world setting quad state with
  | (.error cause, state) => (.error cause, state)
  | (.ok key, state) => store world key state

end Insertion

end RdfDataset
