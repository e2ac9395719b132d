import Mathlib.Data.List.Induction
import RdfDataset.Namespace

/-!
# Declared namespaces

An environment that has been made of declarations resolves a label to the namespace of its last
declaration, and does not resolve a label that has not been declared. Nothing else of the
declarations is left in it: two environments are equal exactly if the last declarations of every
label agree, so that a declaration which a later one hides can go, and neighbours of different
labels can change places.
-/

set_option autoImplicit false

namespace RdfDataset

/-! ## The last declaration of a label -/

/-- The namespace of the last declaration of a label. -/
def lastSpace? (declarations : List (String × String)) (label : String) : Option String :=
  ((declarations.filter fun declaration => declaration.1 = label).getLast?).map Prod.snd

def Prologue.space? (prologue : Prologue) (label : String) : Option String :=
  lastSpace? prologue.prefixes label

theorem lastSpace?_concat (declarations : List (String × String)) (label space other : String) :
    lastSpace? (declarations ++ [(label, space)]) other =
      if label = other then some space else lastSpace? declarations other := by
  by_cases same : label = other <;> simp [lastSpace?, same]

/-- The declarations behind decide wherever they declare the label. -/
theorem lastSpace?_append (declarations behind : List (String × String)) (label : String) :
    lastSpace? (declarations ++ behind) label =
      (lastSpace? behind label).or (lastSpace? declarations label) := by
  induction behind using List.reverseRecOn with
  | nil => simp [lastSpace?]
  | append_singleton behind last ih =>
      obtain ⟨other, space⟩ := last
      rw [← List.append_assoc, lastSpace?_concat, lastSpace?_concat, ih]
      by_cases same : other = label <;> simp [same]

theorem lastSpace?_cons (label space other : String) (behind : List (String × String)) :
    lastSpace? ((label, space) :: behind) other =
      (lastSpace? behind other).or (if label = other then some space else none) := by
  have alone : lastSpace? [(label, space)] other = if label = other then some space else none :=
    lastSpace?_concat [] label space other
  rw [← List.singleton_append, lastSpace?_append, alone]

theorem lastSpace?_eq_none_iff (declarations : List (String × String)) (label : String) :
    lastSpace? declarations label = none ↔ ∀ declaration ∈ declarations, declaration.1 ≠ label := by
  simp [lastSpace?]

theorem lastSpace?_eq_some_iff (declarations : List (String × String)) (label space : String) :
    lastSpace? declarations label = some space ↔
      ∃ front behind, declarations = front ++ (label, space) :: behind ∧
        ∀ declaration ∈ behind, declaration.1 ≠ label := by
  constructor
  · intro last
    induction declarations using List.reverseRecOn with
    | nil => cases last
    | append_singleton declarations latest ih =>
        obtain ⟨other, space'⟩ := latest
        rw [lastSpace?_concat] at last
        by_cases same : other = label
        · rw [if_pos same] at last
          cases last
          subst same
          exact ⟨declarations, [], rfl, by simp⟩
        · rw [if_neg same] at last
          obtain ⟨front, behind, rfl, undeclared⟩ := ih last
          refine ⟨front, behind ++ [(other, space')], by simp, ?_⟩
          intro declaration member
          rcases List.mem_append.mp member with earlier | latest
          · exact undeclared declaration earlier
          · rw [List.mem_singleton.mp latest]
            exact same
  · rintro ⟨front, behind, rfl, undeclared⟩
    rw [lastSpace?_append, lastSpace?_cons, (lastSpace?_eq_none_iff behind label).mpr undeclared]
    simp

namespace Namespaces

/-! ## What an environment resolves -/

theorem resolve?_declare (env : Namespaces) (label space other : String) :
    (env.declare label space).resolve? other =
      if label = other then some space else env.resolve? other := by
  rw [resolve?, declare, Std.ExtTreeMap.getElem?_insert]
  simp only [Std.compare_eq_iff_eq]
  rfl

theorem declareAll_append (env : Namespaces) (declarations more : List (String × String)) :
    env.declareAll (declarations ++ more) = (env.declareAll declarations).declareAll more :=
  List.foldl_append

theorem resolve?_declareAll (declarations : List (String × String)) (label : String) :
    (empty.declareAll declarations).resolve? label = lastSpace? declarations label := by
  induction declarations using List.reverseRecOn with
  | nil => rfl
  | append_singleton declarations last ih =>
      obtain ⟨other, space⟩ := last
      have declared : empty.declareAll (declarations ++ [(other, space)]) =
          (empty.declareAll declarations).declare other space :=
        declareAll_append empty declarations [(other, space)]
      rw [declared, resolve?_declare, lastSpace?_concat, ih]

theorem resolve?_ofPrologue (prologue : Prologue) (label : String) :
    (ofPrologue prologue).resolve? label = prologue.space? label :=
  resolve?_declareAll prologue.prefixes label

theorem resolve?_empty (label : String) : empty.resolve? label = none := rfl

/-! ## Equal environments -/

/-- An environment is what it resolves labels to. -/
theorem ext_resolve? {env other : Namespaces}
    (alike : ∀ label, env.resolve? label = other.resolve? label) : env = other := by
  obtain ⟨table⟩ := env
  obtain ⟨table'⟩ := other
  congr
  apply Std.ExtTreeMap.ext_getElem?
  intro label
  exact alike label

theorem ofPrologue_eq_iff (prologue other : Prologue) :
    ofPrologue prologue = ofPrologue other ↔
      ∀ label, prologue.space? label = other.space? label := by
  constructor
  · intro same label
    rw [← resolve?_ofPrologue, ← resolve?_ofPrologue, same]
  · intro alike
    apply ext_resolve?
    intro label
    rw [resolve?_ofPrologue, resolve?_ofPrologue, alike label]

section Places

variable (base : Option String) (front behind : List (String × String))

/-- A part of the declarations can be exchanged if the two parts resolve those labels alike that are
not declared behind. -/
theorem ofPrologue_exchange (part part' : List (String × String))
    (alike : ∀ label, lastSpace? behind label = none →
      lastSpace? part label = lastSpace? part' label) :
    ofPrologue ⟨base, front ++ (part ++ behind)⟩ =
      ofPrologue ⟨base, front ++ (part' ++ behind)⟩ := by
  rw [ofPrologue_eq_iff]
  intro label
  simp only [Prologue.space?, lastSpace?_append]
  cases later : lastSpace? behind label with
  | some space => simp
  | none => rw [alike label later]

theorem ofPrologue_hidden {label : String} (space : String)
    (hidden : ∃ later ∈ behind, later.1 = label) :
    ofPrologue ⟨base, front ++ (label, space) :: behind⟩ =
      ofPrologue ⟨base, front ++ behind⟩ := by
  refine ofPrologue_exchange base front behind [(label, space)] [] ?_
  intro other undeclared
  have apart : label ≠ other := by
    rintro rfl
    obtain ⟨later, member, same⟩ := hidden
    exact (lastSpace?_eq_none_iff behind label).mp undeclared later member same
  rw [lastSpace?_cons, if_neg apart]
  rfl

theorem ofPrologue_swap {label other : String} (apart : label ≠ other) (space space' : String) :
    ofPrologue ⟨base, front ++ (label, space) :: (other, space') :: behind⟩ =
      ofPrologue ⟨base, front ++ (other, space') :: (label, space) :: behind⟩ := by
  refine ofPrologue_exchange base front behind [(label, space), (other, space')]
    [(other, space'), (label, space)] ?_
  intro asked _
  simp only [lastSpace?_cons]
  by_cases first : label = asked
  · subst first
    simp [apart.symm]
  · simp [first]

theorem ofPrologue_swap_eq_iff (label : String) {space space' : String} (apart : space ≠ space') :
    ofPrologue ⟨base, front ++ (label, space) :: (label, space') :: behind⟩ =
        ofPrologue ⟨base, front ++ (label, space') :: (label, space) :: behind⟩ ↔
      ∃ later ∈ behind, later.1 = label := by
  constructor
  · intro same
    have agree := (ofPrologue_eq_iff _ _).mp same label
    simp only [Prologue.space?, lastSpace?_append, lastSpace?_cons, if_true] at agree
    by_contra missing
    have undeclared : lastSpace? behind label = none := by
      rw [lastSpace?_eq_none_iff]
      intro later member same
      exact missing ⟨later, member, same⟩
    rw [undeclared] at agree
    simp [apart.symm] at agree
  · intro hidden
    have one : ∃ later ∈ (label, space') :: behind, later.1 = label :=
      ⟨(label, space'), by simp, rfl⟩
    have other : ∃ later ∈ (label, space) :: behind, later.1 = label :=
      ⟨(label, space), by simp, rfl⟩
    rw [ofPrologue_hidden base front _ space one, ofPrologue_hidden base front _ space' other,
      ofPrologue_hidden base front behind space hidden,
      ofPrologue_hidden base front behind space' hidden]

end Places

/-- The last declarations of the labels are all that is left of a prologue: they are what labels
resolve to, two prologues that agree in them give one environment, and only such prologues do. More
declarations are added one by one. A hidden declaration can go, neighbours of different labels can
change places, and neighbours of one label can exactly if a later declaration hides both. -/
theorem ofPrologue_determined (prologue other : Prologue) :
    (∀ label space, (ofPrologue prologue).resolve? label = some space ↔
        ∃ front behind, prologue.prefixes = front ++ (label, space) :: behind ∧
          ∀ declaration ∈ behind, declaration.1 ≠ label) ∧
      (∀ label, (ofPrologue prologue).resolve? label = none ↔
        ∀ declaration ∈ prologue.prefixes, declaration.1 ≠ label) ∧
      (∀ base, ofPrologue ⟨base, prologue.prefixes ++ other.prefixes⟩ =
        other.prefixes.foldl (fun env (label, space) => env.declare label space)
          (ofPrologue prologue)) ∧
      (ofPrologue prologue = ofPrologue other ↔
        ∀ label, prologue.space? label = other.space? label) ∧
      ∀ base front behind,
        (∀ label space, (∃ later ∈ behind, later.1 = label) →
          ofPrologue ⟨base, front ++ (label, space) :: behind⟩ =
            ofPrologue ⟨base, front ++ behind⟩) ∧
        (∀ label label' space space', label ≠ label' →
          ofPrologue ⟨base, front ++ (label, space) :: (label', space') :: behind⟩ =
            ofPrologue ⟨base, front ++ (label', space') :: (label, space) :: behind⟩) ∧
        ∀ label space space', space ≠ space' →
          (ofPrologue ⟨base, front ++ (label, space) :: (label, space') :: behind⟩ ≠
              ofPrologue ⟨base, front ++ (label, space') :: (label, space) :: behind⟩ ↔
            ∀ later ∈ behind, later.1 ≠ label) := by
  refine ⟨?_, ?_, ?_, ofPrologue_eq_iff prologue other, ?_⟩
  · intro label space
    rw [resolve?_ofPrologue]
    exact lastSpace?_eq_some_iff prologue.prefixes label space
  · intro label
    rw [resolve?_ofPrologue]
    exact lastSpace?_eq_none_iff prologue.prefixes label
  · intro base
    exact declareAll_append empty prologue.prefixes other.prefixes
  · intro base front behind
    refine ⟨?_, ?_, ?_⟩
    · intro label space hidden
      exact ofPrologue_hidden base front behind space hidden
    · intro label label' space space' apart
      exact ofPrologue_swap base front behind apart space space'
    · intro label space space' apart
      rw [ne_eq, ofPrologue_swap_eq_iff base front behind label apart]
      simp only [not_exists, not_and, ne_eq]

end Namespaces

end RdfDataset
