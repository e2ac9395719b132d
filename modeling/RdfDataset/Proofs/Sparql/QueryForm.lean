import RdfDataset.Proofs.Text.Word
import RdfDataset.Sparql.QueryForm

/-!
# Texts with the form of a query

The search for the first keyword goes in rounds: white space is dropped, then a comment or a
declaration is skipped, and otherwise the search ends. Every round but the last shortens the text,
so that the search ends. It succeeds exactly if the text is a preamble, which is a sequence of what
the rounds skip, followed by the keyword of a query form.
-/

set_option autoImplicit false

namespace RdfDataset.Sparql

open Text

/-! ## Keywords -/

def IsDeclarationWord (word : List Char) : Prop := InAnyCase "PREFIX" word ∨ InAnyCase "BASE" word

def IsQueryWord (word : List Char) : Prop :=
  ∃ form ∈ ["SELECT", "CONSTRUCT", "DESCRIBE", "ASK"], InAnyCase form word

theorem prefix_capitals : ∀ letter ∈ "PREFIX".toList, letter.isUpper = true := by
  simp

theorem base_capitals : ∀ letter ∈ "BASE".toList, letter.isUpper = true := by
  simp

theorem queryForms_capitals : ∀ form ∈ ["SELECT", "CONSTRUCT", "DESCRIBE", "ASK"],
    ∀ letter ∈ form.toList, letter.isUpper = true := by
  simp

theorem isDeclarationKeyword_iff (word : List Char) :
    isDeclarationKeyword word = true ↔ IsDeclarationWord word := by
  rw [isDeclarationKeyword, List.any_eq_true]
  simp only [List.exists_mem_cons_iff, List.not_mem_nil, false_and, exists_false, or_false]
  rw [sameWord_iff prefix_capitals, sameWord_iff base_capitals, IsDeclarationWord]

theorem isQueryKeyword_iff (word : List Char) : isQueryKeyword word = true ↔ IsQueryWord word := by
  rw [isQueryKeyword, List.any_eq_true]
  constructor
  · rintro ⟨form, listed, same⟩
    exact ⟨form, listed, (sameWord_iff (queryForms_capitals form listed) word).mp same⟩
  · rintro ⟨form, listed, same⟩
    exact ⟨form, listed, (sameWord_iff (queryForms_capitals form listed) word).mpr same⟩

theorem IsDeclarationWord.letters {word : List Char} (declares : IsDeclarationWord word) :
    ∀ c ∈ word, c.isAlpha = true := by
  rcases declares with same | same
  · exact same.letters prefix_capitals
  · exact same.letters base_capitals

theorem IsQueryWord.letters {word : List Char} (queries : IsQueryWord word) :
    ∀ c ∈ word, c.isAlpha = true := by
  obtain ⟨form, listed, same⟩ := queries
  exact same.letters (queryForms_capitals form listed)

theorem not_isDeclarationWord_nil : ¬ IsDeclarationWord [] := by
  rw [← isDeclarationKeyword_iff]
  decide

theorem not_isQueryWord_nil : ¬ IsQueryWord [] := by
  rw [← isQueryKeyword_iff]
  decide

/-- No keyword opens both a declaration and a query form. -/
theorem IsQueryWord.not_declaration {word : List Char} (queries : IsQueryWord word) :
    ¬ IsDeclarationWord word := by
  obtain ⟨form, listed, same⟩ := queries
  have same' := (sameWord_iff (queryForms_capitals form listed) word).mpr same
  have other : sameWord form.toList "PREFIX".toList = false ∧
      sameWord form.toList "BASE".toList = false := by
    clear same same'
    revert form
    decide +kernel
  have clash {keyword : String} (declares : sameWord word keyword.toList = true)
      (differs : sameWord form.toList keyword.toList = false) : False := by
    rw [sameWord, beq_iff_eq] at same' declares
    rw [sameWord, ← same', declares, beq_self_eq_true] at differs
    cases differs
  rintro (declares | declares)
  · exact clash ((sameWord_iff prefix_capitals word).mpr declares) other.1
  · exact clash ((sameWord_iff base_capitals word).mpr declares) other.2

/-! ## The language -/

/-- What the search skips as one piece: a blank, a comment with its line feed, or a declaration,
which is a keyword and everything up to the next closing bracket. -/
inductive Skipped : List Char → Prop
  | blank {c : Char} (blank : isBlank c = true) : Skipped [c]
  | comment {text : List Char} (line : '\n' ∉ text) : Skipped ('#' :: text ++ ['\n'])
  | declaration {word text : List Char} (declares : IsDeclarationWord word) (ends : EndsWord text)
      (unclosed : '>' ∉ text) : Skipped (word ++ text ++ ['>'])

/-- A sequence of pieces that the search skips. -/
inductive Preamble : List Char → Prop
  | nil : Preamble []
  | cons {piece rest : List Char} (first : Skipped piece) (more : Preamble rest) :
      Preamble (piece ++ rest)

/-- A preamble, and behind it the keyword of a query form. -/
def OpensQuery (text : List Char) : Prop :=
  ∃ preamble word behind, text = preamble ++ word ++ behind ∧ Preamble preamble ∧
    IsQueryWord word ∧ EndsWord behind

theorem Preamble.append {first second : List Char} (before : Preamble first)
    (behind : Preamble second) : Preamble (first ++ second) := by
  induction before with
  | nil => exact behind
  | cons piece _ ih =>
      rw [List.append_assoc]
      exact .cons piece ih

theorem OpensQuery.cons {piece text : List Char} (first : Skipped piece) (opens : OpensQuery text) :
    OpensQuery (piece ++ text) := by
  obtain ⟨preamble, word, behind, rfl, skips, queries, ends⟩ := opens
  exact ⟨piece ++ preamble, word, behind, by simp only [List.append_assoc], .cons first skips,
    queries, ends⟩

/-! ## One piece at a time -/

theorem hasQueryForm_nil : hasQueryForm [] = false := by
  rw [hasQueryForm]

theorem hasQueryForm_blank {c : Char} (blank : isBlank c = true) (rest : List Char) :
    hasQueryForm (c :: rest) = hasQueryForm rest := by
  rw [hasQueryForm, if_pos blank]

theorem hasQueryForm_comment (rest : List Char) :
    hasQueryForm ('#' :: rest) = (after? '\n' rest).elim false hasQueryForm := by
  rw [hasQueryForm, if_neg (by decide), if_pos rfl]
  cases after? '\n' rest <;> rfl

theorem hasQueryForm_cons {c : Char} (unblank : isBlank c = false) (unmarked : c ≠ '#')
    (rest : List Char) :
    hasQueryForm (c :: rest) =
      if isDeclarationKeyword (leadingKeyword (c :: rest)) then
        (after? '>' (c :: rest)).elim false hasQueryForm
      else isQueryKeyword (leadingKeyword (c :: rest)) := by
  rw [hasQueryForm, if_neg (Bool.eq_false_iff.mp unblank), if_neg unmarked]
  split
  · cases after? '>' (c :: rest) <;> rfl
  · rfl

theorem hasQueryForm_word {word behind : List Char} (letters : ∀ c ∈ word, c.isAlpha = true)
    (nonempty : word ≠ []) (ends : EndsWord behind) :
    hasQueryForm (word ++ behind) =
      if isDeclarationKeyword word then (after? '>' (word ++ behind)).elim false hasQueryForm
      else isQueryKeyword word := by
  have keyword : leadingKeyword (word ++ behind) = word := takeWhile_letters letters ends
  cases word with
  | nil => exact absurd rfl nonempty
  | cons c word =>
      have letter := letters c List.mem_cons_self
      have unmarked : c ≠ '#' := by
        rintro rfl
        exact absurd letter (by decide)
      rw [List.cons_append] at keyword ⊢
      rw [hasQueryForm_cons (isBlank_of_isAlpha letter) unmarked, keyword]

theorem hasQueryForm_declaration {word text : List Char} (declares : IsDeclarationWord word)
    (ends : EndsWord text) (unclosed : '>' ∉ text) (rest : List Char) :
    hasQueryForm (word ++ text ++ '>' :: rest) = hasQueryForm rest := by
  have letters := declares.letters
  have unmarked : '>' ∉ word := fun inside => absurd (letters '>' inside) (by decide)
  have nonempty : word ≠ [] := by
    rintro rfl
    exact not_isDeclarationWord_nil declares
  have ends' : EndsWord (text ++ '>' :: rest) := by
    intro c first
    cases text with
    | nil =>
        obtain rfl := Option.some.inj first
        decide
    | cons d text => exact ends c first
  have behind : after? '>' (word ++ (text ++ '>' :: rest)) = some rest := by
    rw [← List.append_assoc]
    exact after?_append (by simp [unmarked, unclosed]) rest
  rw [List.append_assoc, hasQueryForm_word letters nonempty ends', behind,
    if_pos ((isDeclarationKeyword_iff word).mpr declares)]
  rfl

theorem hasQueryForm_query {word behind : List Char} (queries : IsQueryWord word)
    (ends : EndsWord behind) : hasQueryForm (word ++ behind) = true := by
  have nonempty : word ≠ [] := by
    rintro rfl
    exact not_isQueryWord_nil queries
  rw [hasQueryForm_word queries.letters nonempty ends,
    if_neg (mt (isDeclarationKeyword_iff word).mp queries.not_declaration),
    (isQueryKeyword_iff word).mpr queries]

theorem Skipped.hasQueryForm {piece : List Char} (skipped : Skipped piece) (rest : List Char) :
    hasQueryForm (piece ++ rest) = hasQueryForm rest := by
  cases skipped with
  | blank blank => exact hasQueryForm_blank blank rest
  | comment line =>
      rw [List.append_assoc, List.cons_append, hasQueryForm_comment, List.singleton_append,
        after?_append line]
      rfl
  | declaration declares ends unclosed =>
      rw [List.append_assoc, List.singleton_append]
      exact hasQueryForm_declaration declares ends unclosed rest

theorem Preamble.hasQueryForm {preamble : List Char} (skips : Preamble preamble)
    (rest : List Char) : hasQueryForm (preamble ++ rest) = hasQueryForm rest := by
  induction skips with
  | nil => rfl
  | cons first _ ih => rw [List.append_assoc, first.hasQueryForm, ih]

/-! ## The search is over -/

/-- A declaration is cut at its closing bracket, which is no letter. -/
theorem takeWhile_letters_of_closed (before rest : List Char) :
    (before ++ '>' :: rest).takeWhile Char.isAlpha = before.takeWhile Char.isAlpha := by
  induction before with
  | nil => rfl
  | cons c before ih =>
      rw [List.cons_append, List.takeWhile_cons, List.takeWhile_cons, ih]

theorem opensQuery_of_hasQueryForm {text : List Char} (found : hasQueryForm text = true) :
    OpensQuery text := by
  fun_induction hasQueryForm text with
  | case1 => cases found
  | case2 c rest blank ih => exact .cons (.blank blank) (ih found)
  | case3 rest behind split _ ih =>
      obtain ⟨line, absent, rfl⟩ := after?_eq_some_iff.mp split
      have opens := OpensQuery.cons (.comment absent) (ih found)
      rwa [List.append_assoc] at opens
  | case4 => cases found
  | case5 c rest _ _ declares behind split ih =>
      obtain ⟨front, absent, whole⟩ := after?_eq_some_iff.mp split
      rw [leadingKeyword, whole, takeWhile_letters_of_closed] at declares
      have unclosed : '>' ∉ front.dropWhile Char.isAlpha := fun inside =>
        absent ((List.dropWhile_sublist _).mem inside)
      have opens := OpensQuery.cons (.declaration ((isDeclarationKeyword_iff _).mp declares)
        (endsWord_dropWhile front) unclosed) (ih found)
      rwa [List.takeWhile_append_dropWhile, List.append_assoc, List.singleton_append,
        ← whole] at opens
  | case6 => cases found
  | case7 c rest _ _ _ =>
      refine ⟨[], leadingKeyword (c :: rest), (c :: rest).dropWhile Char.isAlpha, ?_, .nil,
        (isQueryKeyword_iff _).mp found, endsWord_dropWhile _⟩
      rw [List.nil_append, leadingKeyword, List.takeWhile_append_dropWhile]

theorem hasQueryForm_iff (text : List Char) : hasQueryForm text = true ↔ OpensQuery text := by
  constructor
  · exact opensQuery_of_hasQueryForm
  · rintro ⟨preamble, word, behind, rfl, skips, queries, ends⟩
    rw [List.append_assoc, skips.hasQueryForm, hasQueryForm_query queries ends]

/-! ## Rounds -/

/-- How a round ends: with a shorter text that is searched in its place, or with the answer. -/
inductive Round where
  | again (rest : List Char)
  | answer (found : Bool)

/-- One round of the search. An open comment leaves nothing, and a declaration that is not closed
ends the search. -/
def round (text : List Char) : Round :=
  match text.dropWhile isBlank with
  | '#' :: rest => .again ((after? '\n' rest).getD [])
  | text =>
    if isDeclarationKeyword (leadingKeyword text) then
      match after? '>' text with
      | some rest => .again rest
      | none => .answer false
    else .answer (isQueryKeyword (leadingKeyword text))

/-- The answer that some rounds lead to, if they are enough. -/
def rounds : Nat → List Char → Option Bool
  | 0, _ => none
  | bound + 1, text =>
    match round text with
    | .again rest => rounds bound rest
    | .answer found => some found

def Round.conclude : Round → Bool
  | again rest => hasQueryForm rest
  | answer found => found

theorem round_shortens {text rest : List Char} (more : round text = .again rest) :
    rest.length < text.length := by
  have dropped : (text.dropWhile isBlank).length ≤ text.length :=
    (List.dropWhile_sublist isBlank).length_le
  unfold round at more
  split at more
  · next comment same =>
      cases more
      rw [same, List.length_cons] at dropped
      cases found : after? '\n' comment with
      | none =>
          rw [Option.getD_none, List.length_nil]
          omega
      | some behind =>
          have shorter := length_lt_of_after? found
          rw [Option.getD_some]
          omega
  · split at more
    · split at more
      · next behind found =>
          cases more
          have shorter := length_lt_of_after? found
          omega
      · cases more
    · cases more

theorem hasQueryForm_dropWhile (text : List Char) :
    hasQueryForm (text.dropWhile isBlank) = hasQueryForm text := by
  induction text with
  | nil => rfl
  | cons c rest ih =>
      rw [List.dropWhile_cons]
      split
      · next blank => rw [ih, hasQueryForm_blank blank]
      · rfl

theorem conclude_round (text : List Char) : (round text).conclude = hasQueryForm text := by
  have unblank : ∀ c ∈ (text.dropWhile isBlank).head?, isBlank c = false := by
    intro c first
    have stopped := List.head?_dropWhile_not isBlank text
    rw [Option.mem_def.mp first] at stopped
    simpa using stopped
  rw [← hasQueryForm_dropWhile, round]
  generalize text.dropWhile isBlank = text at unblank
  split
  · next rest =>
      rw [hasQueryForm_comment]
      cases after? '\n' rest with
      | none => exact hasQueryForm_nil
      | some behind => rfl
  · next unmarked =>
      cases text with
      | nil => exact hasQueryForm_nil.symm
      | cons c rest =>
          have marked : c ≠ '#' := fun same => unmarked rest (by rw [same])
          rw [hasQueryForm_cons (unblank c rfl) marked]
          split
          · cases after? '>' (c :: rest) <;> rfl
          · rfl

theorem rounds_eq {bound : Nat} {text : List Char} (enough : text.length < bound) :
    rounds bound text = some (hasQueryForm text) := by
  induction bound generalizing text with
  | zero => exact absurd enough (Nat.not_lt_zero _)
  | succ bound ih =>
      have concluded := conclude_round text
      rw [rounds]
      cases outcome : round text with
      | again rest =>
          have shorter := round_shortens outcome
          rw [outcome, Round.conclude] at concluded
          rw [← concluded]
          exact ih (by omega)
      | answer found =>
          rw [outcome, Round.conclude] at concluded
          rw [concluded]

/-- The search ends on every text, after no more rounds than the text has characters and one. It
finds a query form exactly in the texts that are a preamble followed by the keyword of one, and a
preamble makes no difference to what is found behind it. -/
theorem queryForm_language (text : List Char) :
    rounds (text.length + 1) text = some (hasQueryForm text) ∧
      (hasQueryForm text = true ↔ OpensQuery text) ∧
      ∀ preamble rest, Preamble preamble → text = preamble ++ rest →
        hasQueryForm text = hasQueryForm rest := by
  refine ⟨rounds_eq (Nat.lt_succ_self _), hasQueryForm_iff text, ?_⟩
  rintro preamble rest skips rfl
  exact skips.hasQueryForm rest

/-- A blank, a comment and a declaration that are not set apart. -/
def tightPreamble : List Char := [' ', '#', 'c', '\n', 'b', 'A', 'S', 'E', '<', '#', '>']

theorem tightPreamble_skips : Preamble tightPreamble := by
  have base : IsDeclarationWord ['b', 'A', 'S', 'E'] :=
    (isDeclarationKeyword_iff _).mp (by decide +kernel)
  have declaration : Preamble (['b', 'A', 'S', 'E'] ++ ['<', '#'] ++ ['>'] ++ []) :=
    .cons (.declaration base (by simp [EndsWord]) (by decide)) .nil
  have comment : Skipped ('#' :: ['c'] ++ ['\n']) := .comment (by decide)
  have blank : Skipped [' '] := .blank (by decide)
  exact .cons blank (.cons comment declaration)

theorem queryForm_language_tight :
    Preamble tightPreamble ∧
      hasQueryForm (tightPreamble ++ ['a', 'S', 'k', '{']) = hasQueryForm ['a', 'S', 'k', '{'] ∧
      OpensQuery (tightPreamble ++ ['a', 'S', 'k', '{']) :=
  have language := queryForm_language (tightPreamble ++ ['a', 'S', 'k', '{'])
  ⟨tightPreamble_skips, language.2.2 tightPreamble _ tightPreamble_skips rfl,
    language.2.1.mp (by decide +kernel)⟩

end RdfDataset.Sparql
