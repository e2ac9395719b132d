import RdfDataset.Sparql.Consultation

/-!
# What consultations come to

A declaration in front of a text answers what the reading asks about its label. Nothing comes of
that where the label is not among those that the reading asks for in vain.
-/

set_option autoImplicit false

namespace RdfDataset.Sparql.Consultation

variable {α β : Type}

/-! ## Sequences -/

theorem ask_bind (label : String) (next : Option String → Consultation α)
    (f : α → Consultation β) : ask label next >>= f = ask label fun answer => next answer >>= f :=
  rfl

theorem bind_done (c : Consultation α) : c >>= done = c := by
  induction c with
  | done a => rfl
  | ask label next ih => exact congrArg (ask label) (funext ih)

theorem bind_bind {γ : Type} (c : Consultation α) (f : α → Consultation β)
    (g : β → Consultation γ) : c >>= f >>= g = c >>= fun a => f a >>= g := by
  induction c with
  | done a => rfl
  | ask label next ih => exact congrArg (ask label) (funext ih)

instance : LawfulMonad Consultation :=
  LawfulMonad.mk' Consultation bind_done (fun _ _ => rfl) bind_bind

/-! ## Declarations -/

/-- What is left to be asked where a label is declared. -/
def declare (label space : String) : Consultation α → Consultation α
  | done a => done a
  | ask asked next =>
    if asked = label then (next (some space)).declare label space
    else ask asked fun answer => (next answer).declare label space

/-- The labels that are asked for where nothing is declared. -/
def missed : Consultation α → List String
  | done _ => []
  | ask label next => label :: (next none).missed

section

variable (label space : String)

theorem declare_bind (c : Consultation α) (f : α → Consultation β) :
    (c >>= f).declare label space =
      c.declare label space >>= fun a => (f a).declare label space := by
  induction c with
  | done a => rfl
  | ask asked next ih =>
      rw [ask_bind, declare, declare]
      by_cases same : asked = label
      · rw [if_pos same, if_pos same]
        exact ih (some space)
      · rw [if_neg same, if_neg same]
        exact congrArg (ask asked) (funext ih)

/-- A declaration takes its label from those that are asked for. -/
theorem not_mem_missed_declare (c : Consultation α) : label ∉ (c.declare label space).missed := by
  induction c with
  | done a => exact List.not_mem_nil
  | ask asked next ih =>
      rw [declare]
      by_cases same : asked = label
      · rw [if_pos same]
        exact ih (some space)
      · rw [if_neg same, missed, List.mem_cons]
        exact fun mem => mem.elim (fun eq => same eq.symm) (ih none)

variable {label}

theorem missed_declare {c : Consultation α} (unasked : label ∉ c.missed) :
    (c.declare label space).missed = c.missed := by
  induction c with
  | done a => rfl
  | ask asked next ih =>
      rw [missed, List.mem_cons, not_or] at unasked
      rw [declare, if_neg (Ne.symm unasked.1), missed, missed, ih none unasked.2]

theorem alone_declare {c : Consultation α} (unasked : label ∉ c.missed) :
    (c.declare label space).alone = c.alone := by
  induction c with
  | done a => rfl
  | ask asked next ih =>
      rw [missed, List.mem_cons, not_or] at unasked
      rw [declare, if_neg (Ne.symm unasked.1)]
      exact ih none unasked.2

end

/-! ## Results -/

theorem alone_bind (c : Consultation α) (f : α → Consultation β) :
    (c >>= f).alone = (f c.alone).alone := by
  induction c with
  | done a => rfl
  | ask label next ih => exact ih none

/-- Whatever the answers are, what comes of it has the property. -/
def Every (P : α → Prop) : Consultation α → Prop
  | done a => P a
  | ask _ next => ∀ answer, (next answer).Every P

theorem Every.of_forall {P : α → Prop} (c : Consultation α) (holds : ∀ a, P a) : c.Every P := by
  induction c with
  | done a => exact holds a
  | ask label next ih => exact ih

theorem Every.mono {P Q : α → Prop} {c : Consultation α} (every : c.Every P)
    (weaker : ∀ a, P a → Q a) : c.Every Q := by
  induction c with
  | done a => exact weaker a every
  | ask label next ih => exact fun answer => ih answer (every answer)

theorem Every.bind {P : α → Prop} {Q : β → Prop} {c : Consultation α} {f : α → Consultation β}
    (first : c.Every P) (rest : ∀ a, P a → (f a).Every Q) : (c >>= f).Every Q := by
  induction c with
  | done a => exact rest a first
  | ask label next ih => exact fun answer => ih answer (first answer)

theorem Every.alone {P : α → Prop} {c : Consultation α} (every : c.Every P) : P c.alone := by
  induction c with
  | done a => exact every
  | ask label next ih => exact ih none (every none)

theorem Every.bind_congr {P : α → Prop} {c : Consultation α} {f g : α → Consultation β}
    (every : c.Every P) (same : ∀ a, P a → f a = g a) : c >>= f = c >>= g := by
  induction c with
  | done a => exact same a every
  | ask label next ih => exact congrArg (ask label) (funext fun answer => ih answer (every answer))

end RdfDataset.Sparql.Consultation
