/-!
# Consultations

A text is read with declarations in front of it, and the reading asks them what a label stands for.
What it asks next, and what comes of it in the end, depends on the answers it gets. A consultation
is such a reading before anything is known of the declarations.
-/

set_option autoImplicit false

namespace RdfDataset.Sparql

inductive Consultation (α : Type) where
  | done (a : α)
  | ask (label : String) (next : Option String → Consultation α)

namespace Consultation

variable {α β : Type}

def bind : Consultation α → (α → Consultation β) → Consultation β
  | done a, f => f a
  | ask label next, f => ask label fun answer => (next answer).bind f

instance : Monad Consultation where
  pure := done
  bind := bind

/-- Asks what a label stands for. -/
def space? (label : String) : Consultation (Option String) := ask label done

/-- What comes of it where nothing is declared. -/
def alone : Consultation α → α
  | done a => a
  | ask _ next => (next none).alone

end Consultation

end RdfDataset.Sparql
