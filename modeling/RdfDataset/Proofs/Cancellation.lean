import Mathlib.Data.List.Induction
import Mathlib.Data.List.Infix
import RdfDataset.Cancellation

/-!
# Families of tokens

Tokens are made one after the other, each of them new or as the clone of an earlier one, and tokens
are cancelled in between. Where a token comes from can be read off the steps alone: a new token is
its own origin, and a clone has the origin of the token it was made from. Main statement: a token is
cancelled exactly if a token of the same origin has been cancelled, before or after it was made.
-/

set_option autoImplicit false

namespace RdfDataset.Cancellation

/-! ## Origins -/

/-- How many tokens a step makes when there are some already. A step that names no token makes
none. -/
def Step.makes (count : Nat) : Step → Nat
  | .new => 1
  | .clone token => if token < count then 1 else 0
  | .cancel _ => 0

/-- The number of tokens there are after some steps. -/
def made (history : List Step) : Nat :=
  history.foldl (fun count step => count + step.makes count) 0

/-- Where a token comes from. Tokens are numbered in the order in which they are made, so that the
next one has as its number how many there are. -/
inductive Origin : List Step → Nat → Nat → Prop
  | new (history : List Step) : Origin (history ++ [.new]) (made history) (made history)
  | clone {history : List Step} {token origin : Nat} (known : Origin history token origin) :
      Origin (history ++ [.clone token]) (made history) origin
  | later {history : List Step} {token origin : Nat} (known : Origin history token origin)
      (step : Step) : Origin (history ++ [step]) token origin

/-- A token of this origin has been cancelled by one of the steps. -/
def Reached (history : List Step) (origin : Nat) : Prop :=
  ∃ before token behind, history = before ++ .cancel token :: behind ∧ Origin before token origin

section Origins

variable {history : List Step} {step : Step} {token origin other : Nat}

theorem made_concat (history : List Step) (step : Step) :
    made (history ++ [step]) = made history + step.makes (made history) := by
  simp [made]

theorem Origin.lt_made (known : Origin history token origin) :
    token < made history ∧ origin < made history := by
  induction known with
  | new history =>
      rw [made_concat, Step.makes]
      omega
  | clone known ih =>
      rw [made_concat, Step.makes, if_pos ih.1]
      omega
  | later known step ih =>
      rw [made_concat]
      omega

/-- The origin of a token is not new with the last step, or the last step has made the token. -/
theorem Origin.of_concat (known : Origin (history ++ [step]) token origin) :
    Origin history token origin ∨
      token = made history ∧ (step = .new ∧ origin = made history ∨
        ∃ source, step = .clone source ∧ Origin history source origin) := by
  generalize whole : history ++ [step] = steps at known
  cases known with
  | new history' =>
      obtain ⟨rfl, last⟩ := List.append_inj' whole rfl
      cases last
      exact Or.inr ⟨rfl, Or.inl ⟨rfl, rfl⟩⟩
  | @clone history' source _ earlier =>
      obtain ⟨rfl, last⟩ := List.append_inj' whole rfl
      cases last
      exact Or.inr ⟨rfl, Or.inr ⟨source, rfl, earlier⟩⟩
  | later earlier step' =>
      obtain ⟨rfl, _⟩ := List.append_inj' whole rfl
      exact Or.inl earlier

theorem exists_origin (inside : token < made history) : ∃ origin, Origin history token origin := by
  induction history using List.reverseRecOn generalizing token with
  | nil => simp [made] at inside
  | append_singleton history step ih =>
      by_cases old : token < made history
      · obtain ⟨origin, known⟩ := ih old
        exact ⟨origin, known.later step⟩
      · rw [made_concat] at inside
        cases step with
        | new =>
            have last : token = made history := by
              rw [Step.makes] at inside
              omega
            rw [last]
            exact ⟨made history, .new history⟩
        | clone source =>
            rw [Step.makes] at inside
            split at inside
            · next there =>
                have last : token = made history := by omega
                obtain ⟨origin, known⟩ := ih there
                rw [last]
                exact ⟨origin, known.clone⟩
            · omega
        | cancel _ =>
            rw [Step.makes] at inside
            omega

theorem Origin.unique (known : Origin history token origin) (known' : Origin history token other) :
    origin = other := by
  induction history using List.reverseRecOn generalizing token with
  | nil =>
      have inside := known.lt_made.1
      simp [made] at inside
  | append_singleton history step ih =>
      -- A token that the last step has made has a number of its own.
      rcases known.of_concat with earlier | ⟨rfl, here⟩
      · rcases known'.of_concat with earlier' | ⟨rfl, _⟩
        · exact ih earlier earlier'
        · exact absurd earlier.lt_made.1 (Nat.lt_irrefl _)
      · rcases known'.of_concat with earlier' | ⟨_, here'⟩
        · exact absurd earlier'.lt_made.1 (Nat.lt_irrefl _)
        · rcases here with ⟨rfl, rfl⟩ | ⟨source, rfl, first⟩
          · rcases here' with ⟨_, rfl⟩ | ⟨_, clone, _⟩
            · rfl
            · cases clone
          · rcases here' with ⟨new, _⟩ | ⟨source', same, second⟩
            · cases new
            · cases same
              exact ih first second

theorem reached_concat : Reached (history ++ [step]) origin ↔
    Reached history origin ∨ ∃ token, step = .cancel token ∧ Origin history token origin := by
  constructor
  · rintro ⟨before, token, behind, split, known⟩
    rcases List.eq_nil_or_concat behind with rfl | ⟨front, last, rfl⟩
    · obtain ⟨rfl, same⟩ := List.append_inj' split rfl
      cases same
      exact Or.inr ⟨token, rfl, known⟩
    · rw [List.concat_eq_append, ← List.cons_append, ← List.append_assoc] at split
      obtain ⟨rfl, _⟩ := List.append_inj' split rfl
      exact Or.inl ⟨before, token, front, rfl, known⟩
  · rintro (⟨before, token, behind, rfl, known⟩ | ⟨token, rfl, known⟩)
    · exact ⟨before, token, behind ++ [step], by simp, known⟩
    · exact ⟨history, token, [], rfl, known⟩

end Origins

theorem Origin.append {history : List Step} {token origin : Nat}
    (known : Origin history token origin) (more : List Step) :
    Origin (history ++ more) token origin := by
  induction more using List.reverseRecOn with
  | nil => simpa using known
  | append_singleton more step ih =>
      rw [← List.append_assoc]
      exact ih.later step

theorem Reached.append {history : List Step} {origin : Nat} (reached : Reached history origin)
    (more : List Step) : Reached (history ++ more) origin := by
  obtain ⟨before, token, behind, rfl, known⟩ := reached
  exact ⟨before, token, behind ++ more, by simp, known⟩

theorem Reached.lt_made {history : List Step} {origin : Nat} (reached : Reached history origin) :
    origin < made history := by
  obtain ⟨before, token, behind, rfl, known⟩ := reached
  exact (known.append (.cancel token :: behind)).lt_made.2

/-! ## What is kept of the steps -/

namespace Tokens

/-- The token that founded a family is the first one in it. -/
def founder (tokens : Tokens) (family : Nat) : Nat := tokens.family.idxOf family

/-- The families are those of the origins: every token has its founder as its origin, and a family
has been cancelled exactly if a token of that origin has been. -/
structure Founded (tokens : Tokens) (history : List Step) : Prop where
  length_eq : tokens.family.length = made history
  family_lt : ∀ family ∈ tokens.family, family < tokens.families
  origin : ∀ token family, tokens.family[token]? = some family →
    Origin history token (tokens.founder family)
  cancelled_mem : ∀ family ∈ tokens.cancelled, family ∈ tokens.family
  cancelled_iff : ∀ family ∈ tokens.family,
    family ∈ tokens.cancelled ↔ Reached history (tokens.founder family)

section Steps

variable {tokens : Tokens} {history : List Step}

theorem founded_nil : ({} : Tokens).Founded [] := by
  constructor <;> simp [made]

theorem founder_concat {family : Nat} (known : family ∈ tokens.family) (last : Nat) :
    (tokens.family ++ [last]).idxOf family = tokens.founder family :=
  List.idxOf_append_of_mem known

/-- A token of a longer list is an old one, or the one that has been added. -/
theorem token_of_concat {families : List Nat} {last token family : Nat}
    (there : (families ++ [last])[token]? = some family) :
    families[token]? = some family ∨ token = families.length ∧ family = last := by
  rw [List.getElem?_append] at there
  split at there
  · exact Or.inl there
  · rw [List.getElem?_singleton] at there
    split at there
    · cases there
      right
      omega
    · cases there

theorem Founded.lt_made (founded : tokens.Founded history) {token family : Nat}
    (there : tokens.family[token]? = some family) : token < made history := by
  rw [← founded.length_eq]
  exact (List.getElem?_eq_some_iff.mp there).1

theorem Founded.new (founded : tokens.Founded history) :
    (tokens.step .new).Founded (history ++ [.new]) := by
  have fresh : tokens.families ∉ tokens.family := by
    intro member
    exact Nat.lt_irrefl _ (founded.family_lt _ member)
  have first : (tokens.family ++ [tokens.families]).idxOf tokens.families = made history := by
    rw [List.idxOf_append_of_notMem fresh, founded.length_eq]
    simp
  constructor
  · simp [step, made_concat, Step.makes, founded.length_eq]
  · intro family member
    simp only [step] at member ⊢
    rcases List.mem_append.mp member with old | last
    · have lower := founded.family_lt family old
      omega
    · rw [List.mem_singleton.mp last]
      omega
  · intro token family there
    simp only [step, founder]
    rcases token_of_concat there with old | ⟨last, rfl⟩
    · rw [founder_concat (List.mem_of_getElem? old)]
      exact (founded.origin token family old).later .new
    · rw [first, last, founded.length_eq]
      exact .new history
  · intro family member
    exact List.mem_append_left _ (founded.cancelled_mem family member)
  · intro family member
    simp only [step, founder] at member ⊢
    rw [reached_concat]
    rcases List.mem_append.mp member with old | last
    · rw [founder_concat old, founded.cancelled_iff family old]
      simp
    · -- Nothing has been done to a family that was not there.
      rw [List.mem_singleton.mp last, first]
      constructor
      · intro cancelled
        exact absurd (founded.cancelled_mem _ cancelled) fresh
      · rintro (reached | ⟨token, cancel, _⟩)
        · exact absurd reached.lt_made (Nat.lt_irrefl _)
        · cases cancel

theorem Founded.clone (founded : tokens.Founded history) {source joined : Nat}
    (found : tokens.family[source]? = some joined) :
    (tokens.step (.clone source)).Founded (history ++ [.clone source]) := by
  have known : joined ∈ tokens.family := List.mem_of_getElem? found
  have old : ∀ family ∈ tokens.family ++ [joined], family ∈ tokens.family := by
    intro family member
    rcases List.mem_append.mp member with old | last
    · exact old
    · rw [List.mem_singleton.mp last]
      exact known
  simp only [step, found]
  constructor
  · simp [made_concat, Step.makes, founded.lt_made found, founded.length_eq]
  · intro family member
    exact founded.family_lt family (old family member)
  · intro token family there
    simp only [founder]
    rw [founder_concat (old family (List.mem_of_getElem? there))]
    rcases token_of_concat there with here | ⟨last, rfl⟩
    · exact (founded.origin token family here).later _
    · rw [last, founded.length_eq]
      exact (founded.origin source family found).clone
  · intro family member
    exact List.mem_append_left _ (founded.cancelled_mem family member)
  · intro family member
    simp only [founder]
    rw [founder_concat (old family member), reached_concat,
      founded.cancelled_iff family (old family member)]
    simp

theorem Founded.cancel (founded : tokens.Founded history) {token joined : Nat}
    (found : tokens.family[token]? = some joined) :
    (tokens.step (.cancel token)).Founded (history ++ [.cancel token]) := by
  have known : joined ∈ tokens.family := List.mem_of_getElem? found
  simp only [step, found]
  constructor
  · simp [made_concat, Step.makes, founded.length_eq]
  · exact founded.family_lt
  · intro other family there
    exact (founded.origin other family there).later _
  · intro family member
    rcases List.mem_cons.mp member with rfl | earlier
    · exact known
    · exact founded.cancelled_mem family earlier
  · intro family member
    -- The token comes from the founder of a family exactly if it belongs to it.
    have joins : Origin history token (tokens.founder family) ↔ family = joined := by
      constructor
      · intro comes
        have same := comes.unique (founded.origin token joined found)
        exact (List.idxOf_inj member).mp same
      · rintro rfl
        exact founded.origin token family found
    rw [reached_concat, List.mem_cons, founded.cancelled_iff family member, ← joins, or_comm]
    simp [founder]

/-- A step that names no token changes nothing. -/
theorem Founded.missing (founded : tokens.Founded history) {step : Step} {token : Nat}
    (names : step = .clone token ∨ step = .cancel token) (missing : tokens.family[token]? = none) :
    (tokens.step step).Founded (history ++ [step]) := by
  have outside : ¬ token < made history := by
    rw [← founded.length_eq]
    simpa using missing
  have same : tokens.step step = tokens := by
    rcases names with rfl | rfl <;> simp only [Tokens.step, missing]
  have unreached : ∀ origin, Reached (history ++ [step]) origin ↔ Reached history origin := by
    intro origin
    rw [reached_concat, or_iff_left]
    rintro ⟨other, rfl, comes⟩
    have here : other = token := by simpa using names
    exact outside (here ▸ comes.lt_made.1)
  rw [same]
  constructor
  · rcases names with rfl | rfl <;> simp [made_concat, Step.makes, outside, founded.length_eq]
  · exact founded.family_lt
  · intro other family there
    exact (founded.origin other family there).later step
  · exact founded.cancelled_mem
  · intro family member
    rw [unreached, founded.cancelled_iff family member]

/-- One step keeps what is known of families and origins. -/
theorem Founded.step (founded : tokens.Founded history) (step : Step) :
    (tokens.step step).Founded (history ++ [step]) := by
  cases step with
  | new => exact founded.new
  | clone source =>
      cases found : tokens.family[source]? with
      | none => exact founded.missing (Or.inl rfl) found
      | some joined => exact founded.clone found
  | cancel token =>
      cases found : tokens.family[token]? with
      | none => exact founded.missing (Or.inr rfl) found
      | some joined => exact founded.cancel found

end Steps

/-! ## Runs -/

/-- The tokens after some steps. -/
def after (history : List Step) : Tokens := history.foldl step {}

theorem after_concat (history : List Step) (last : Step) :
    after (history ++ [last]) = (after history).step last := by
  simp [after]

theorem after_founded (history : List Step) : (after history).Founded history := by
  induction history using List.reverseRecOn with
  | nil => exact founded_nil
  | append_singleton history last ih =>
      rw [after_concat]
      exact ih.step last

/-- What is listed step by step are the tokens after the first steps, one more at a time. -/
theorem run_eq_map (tokens : Tokens) (steps : List Step) :
    tokens.run steps = steps.inits.tail.map fun history => history.foldl step tokens := by
  induction steps generalizing tokens with
  | nil => rfl
  | cons first rest ih =>
      cases rest with
      | nil => rfl
      | cons second rest =>
          rw [run, ih]
          simp [Function.comp_def]

variable {history : List Step} {token : Nat}

/-- A token is cancelled if a token of the same origin has been cancelled. -/
theorem isCancelled_after_iff (history : List Step) (token : Nat) :
    (after history).isCancelled token = true ↔
      ∃ origin, Origin history token origin ∧ Reached history origin := by
  have founded := after_founded history
  cases found : (after history).family[token]? with
  | none =>
      have outside : ¬ token < made history := by
        rw [← founded.length_eq]
        simpa using found
      simp only [isCancelled, found]
      constructor
      · intro cancelled
        cases cancelled
      · rintro ⟨origin, comes, _⟩
        exact absurd comes.lt_made.1 outside
  | some family =>
      have member : family ∈ (after history).family := List.mem_of_getElem? found
      have comes := founded.origin token family found
      simp only [isCancelled, found]
      rw [List.contains_iff_mem, founded.cancelled_iff family member]
      constructor
      · intro reached
        exact ⟨_, comes, reached⟩
      · rintro ⟨origin, comes', reached⟩
        rw [comes.unique comes']
        exact reached

theorem isCancelled_after_append {history : List Step} {token : Nat}
    (cancelled : (after history).isCancelled token = true) (more : List Step) :
    (after (history ++ more)).isCancelled token = true := by
  rw [isCancelled_after_iff] at cancelled ⊢
  obtain ⟨origin, comes, reached⟩ := cancelled
  exact ⟨origin, comes.append more, reached.append more⟩

/-- A cancellation does not reach a token of another origin. -/
theorem isCancelled_after_cancel {history : List Step} {token other : Nat}
    (apart : ∀ origin, Origin history token origin → ¬ Origin history other origin) :
    (after (history ++ [.cancel token])).isCancelled other = (after history).isCancelled other := by
  rw [Bool.eq_iff_iff]
  constructor
  · intro cancelled
    rw [isCancelled_after_iff] at cancelled ⊢
    obtain ⟨origin, comes, reached⟩ := cancelled
    have comes : Origin history other origin := by
      rcases comes.of_concat with earlier | ⟨_, ⟨new, _⟩ | ⟨_, clone, _⟩⟩
      · exact earlier
      · cases new
      · cases clone
    rcases reached_concat.mp reached with before | ⟨named, same, known⟩
    · exact ⟨origin, comes, before⟩
    · cases same
      exact absurd comes (apart origin known)
  · intro cancelled
    exact isCancelled_after_append cancelled [.cancel token]

theorem states_after (history : List Step) :
    (after history).states = (List.range (made history)).map (after history).isCancelled := by
  apply List.ext_getElem?
  intro token
  have length := (after_founded history).length_eq
  by_cases inside : token < made history
  · simp [states, isCancelled, inside, length]
  · simp [states, inside, length]

/-- After every step the tokens made so far have one origin each, and a token is cancelled exactly
if one of the steps has cancelled a token of the same origin, whichever of the two was made first.
So a token stays cancelled, and a cancellation leaves all tokens of other origins as they are. -/
theorem run_shares_by_origin (steps : List Step) :
    ({} : Tokens).run steps = steps.inits.tail.map after ∧
      (after steps).states = (List.range (made steps)).map (after steps).isCancelled ∧
      (∀ token < made steps, ∃! origin, Origin steps token origin) ∧
      (∀ token, (after steps).isCancelled token = true ↔
        ∃ before other behind origin, steps = before ++ .cancel other :: behind ∧
          Origin before other origin ∧ Origin steps token origin) ∧
      (∀ more token, (after steps).isCancelled token = true →
        (after (steps ++ more)).isCancelled token = true) ∧
      ∀ token other, (∀ origin, Origin steps token origin → ¬ Origin steps other origin) →
        (after (steps ++ [.cancel token])).isCancelled other =
          (after steps).isCancelled other := by
  refine ⟨run_eq_map {} steps, states_after steps, ?_, ?_, ?_, ?_⟩
  · intro token inside
    obtain ⟨origin, comes⟩ := exists_origin inside
    exact ⟨origin, comes, fun other comes' => comes'.unique comes⟩
  · intro token
    rw [isCancelled_after_iff]
    constructor
    · rintro ⟨origin, comes, before, other, behind, split, known⟩
      exact ⟨before, other, behind, origin, split, known, comes⟩
    · rintro ⟨before, other, behind, origin, split, known, comes⟩
      exact ⟨origin, comes, before, other, behind, split, known⟩
  · intro more token cancelled
    exact isCancelled_after_append cancelled more
  · intro token other apart
    exact isCancelled_after_cancel apart

/-- A clone of a clone is cancelled through the first token of the family, and one made afterwards
is cancelled from the start. -/
example : (after [.new, .clone 0, .new, .clone 1, .cancel 0, .clone 3]).states =
    [true, true, false, true, true] := by
  decide

end Tokens

end RdfDataset.Cancellation
