import RdfDataset.Entry
import RdfDataset.Key

/-!
# Worlds

Execution meets the outside in three places: it registers entries in a lexicon, it hands keys to a
backend, and it asks whether it has been cancelled. A world is any way to answer these calls on some
state `σ`. What is stated of all worlds holds whatever the lexicon numbers entries with, whichever
keys the backend refuses, and whenever the token is cancelled.
-/

set_option autoImplicit false

namespace RdfDataset

/-- The answers to the calls of the executor. -/
structure World (σ : Type) where
  register : Entry → σ → ObjectId × σ
  index : Key → σ → Except StorageError Unit × σ
  isCancelled : σ → Bool

namespace World

variable {σ : Type}

/-- The same lexicon and backend under a token that nobody cancels. -/
def uncancelled (world : World σ) : World σ := { world with isCancelled := fun _ => false }

end World

end RdfDataset
