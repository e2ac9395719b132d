import RdfDataset.Request

/-!
# Failures

What can go wrong, layer by layer: a term that cannot be stored, a quad that cannot be inserted, a
text that cannot be read, a request that cannot be executed. Every layer has one message per cause,
and a failure of a lower layer stays available in the one that carries it. Cancellation has a cause
of its own in every layer and is never wrapped.
-/

set_option autoImplicit false

namespace RdfDataset

/-- The text of a cancellation is the same in all layers. -/
def cancellationMessage : String := "The operation has been cancelled"

/-- A failure of the storage. It is passed on as it is. -/
inductive StorageError where
  | io (message : String)
  | corruption (message : String)
  | other (message : String)
deriving DecidableEq

namespace StorageError

def message : StorageError → String
  | io m => m
  | corruption m => m
  | other m => m

/-- The causes below a storage failure. Only a failure of the last kind wraps one, which has the
same text. -/
def causes : StorageError → List String
  | other m => [m]
  | _ => []

end StorageError

inductive NormalizationError where
  | unresolvedPrefix (label : String)
  | unsupportedTermKind (kind : String)
  | cancelled
deriving DecidableEq

namespace NormalizationError

def message : NormalizationError → String
  | unresolvedPrefix label =>
    "The prefix " ++ label ++ " cannot be resolved in the current environment"
  | unsupportedTermKind kind => "Token of kind " ++ kind ++ " cannot be normalized"
  | cancelled => cancellationMessage

end NormalizationError

inductive InsertionError where
  | normalization (position : Position) (cause : NormalizationError)
  | backend (cause : StorageError)
  | cancelled
deriving DecidableEq

namespace InsertionError

/-- The failure of a term at a position. A cancellation belongs to no position. -/
def atPosition (position : Position) : NormalizationError → InsertionError
  | .cancelled => cancelled
  | cause => normalization position cause

def message : InsertionError → String
  | normalization position cause =>
    "Cannot normalize the " ++ position.render ++ " of the quad: " ++ cause.message
  | backend cause => cause.message
  | cancelled => cancellationMessage

/-- The texts of the causes below an insertion failure. A storage failure speaks for itself, so that
only its own causes follow. -/
def causes : InsertionError → List String
  | normalization _ cause => [cause.message]
  | backend cause => cause.causes
  | cancelled => []

end InsertionError

inductive Grammar where
  | query
  | update
deriving DecidableEq

/-- Why a text, or the options under which texts are read, are refused. -/
inductive ParseError where
  | malformed (grammar : Grammar)
  | invalidBaseIri (iri : String)
  | invalidPrefix (label iri : String)
  | unsupportedTerm (term : String)
deriving DecidableEq

namespace ParseError

/-- The report on a text or an option. For the options it ends where the defect itself would be
described. -/
def message : ParseError → String
  | malformed .query => "The text does not follow the query grammar"
  | malformed .update => "The text does not follow the update grammar"
  | invalidBaseIri iri => "Invalid base IRI '" ++ iri ++ "': "
  | invalidPrefix label iri => "Invalid namespace '" ++ iri ++ "' for prefix '" ++ label ++ "': "
  | unsupportedTerm term => "The term " ++ term ++ " is not supported in update data"

end ParseError

/-- Why a request failed. `unit` and `quad` count from zero. -/
inductive ExecutionError where
  | parsing (cause : ParseError)
  | notImplemented (feature : String)
  | unsupportedTree (token : RootToken) (kind : RequestKind)
  | unsupportedUnit (kind : String)
  | quadInsertion (unit quad : Nat) (cause : InsertionError)
  | cancelled
deriving DecidableEq

namespace ExecutionError

def message : ExecutionError → String
  | parsing cause => cause.message
  | notImplemented feature => "A feature has not yet been implemented: " ++ feature
  | unsupportedTree token kind =>
    "Unsupported syntax tree with token '" ++ token.render ++ "' and kind '" ++ kind.render ++ "'"
  | unsupportedUnit kind => "The execution unit " ++ kind ++ " is not supported"
  | quadInsertion unit quad cause =>
    "Cannot insert quad " ++ Nat.repr quad ++ " of unit " ++ Nat.repr unit ++ ": " ++ cause.message
  | cancelled => cancellationMessage

def normalizationError? : ExecutionError → Option NormalizationError
  | quadInsertion _ _ (.normalization _ cause) => some cause
  | _ => none

def storageError? : ExecutionError → Option StorageError
  | quadInsertion _ _ (.backend cause) => some cause
  | _ => none

def isCancelled (error : ExecutionError) : Bool := error == cancelled

def causes : ExecutionError → List String
  | quadInsertion _ _ cause => cause.message :: cause.causes
  | _ => []

end ExecutionError

end RdfDataset
