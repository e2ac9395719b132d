/-!
# Cancellation tokens

A token can be cloned, and all clones of a token share its state: cancelling one of them cancels the
whole family. What has been cancelled stays so.
-/

set_option autoImplicit false

namespace RdfDataset.Cancellation

/-- All tokens in the order of their creation, as the family each belongs to, with the number of
families and the families that have been cancelled. -/
structure Tokens where
  family : List Nat := []
  families : Nat := 0
  cancelled : List Nat := []

/-- What can be done with tokens. A token is named by its place in the order of creation. -/
inductive Step where
  | new
  | clone (token : Nat)
  | cancel (token : Nat)
deriving DecidableEq

namespace Tokens

/-- A new token founds a family, a clone joins one, and a cancellation reaches a whole family. A
step that names no token does nothing. -/
def step (tokens : Tokens) : Step → Tokens
  | .new =>
    { tokens with
      family := tokens.family ++ [tokens.families]
      families := tokens.families + 1 }
  | .clone token =>
    match tokens.family[token]? with
    | some family => { tokens with family := tokens.family ++ [family] }
    | none => tokens
  | .cancel token =>
    match tokens.family[token]? with
    | some family => { tokens with cancelled := family :: tokens.cancelled }
    | none => tokens

def isCancelled (tokens : Tokens) (token : Nat) : Bool :=
  match tokens.family[token]? with
  | some family => tokens.cancelled.contains family
  | none => false

def states (tokens : Tokens) : List Bool :=
  tokens.family.map fun family => tokens.cancelled.contains family

def run (tokens : Tokens) : List Step → List Tokens
  | [] => []
  | step :: rest => tokens.step step :: (tokens.step step).run rest

end Tokens

end RdfDataset.Cancellation
