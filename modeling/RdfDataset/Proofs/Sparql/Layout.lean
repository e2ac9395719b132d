import RdfDataset.Proofs.Sparql.QueryForm
import RdfDataset.Sparql.Request

/-!
# Prologues as they are laid out

A prologue may be laid out freely: blanks and comments stand around its declarations and between
their tokens, and a comment ends at a carriage return or a line feed. The search for the first
keyword knows none of this. It passes a prologue, whatever follows, exactly if the text of the
prologue is a preamble. A plain layout is enough: no comment between the tokens of a declaration
holds a closing bracket, and behind a comment that ends at a carriage return there is a line feed
before the next declaration or the keyword.
-/

set_option autoImplicit false

namespace RdfDataset.Sparql

open Text

/-! ## Layouts -/

inductive LineEnd where
  | carriageReturn
  | lineFeed

def LineEnd.char : LineEnd → Char
  | carriageReturn => '\r'
  | lineFeed => '\n'

/-- What may stand between two tokens. A comment holds any characters but those that end a line. -/
inductive Spacing where
  | gap (c : Char) (allowed : isGap c = true)
  | comment (text : List Char) (line : ∀ c ∈ text, c ≠ '\r' ∧ c ≠ '\n') (ending : LineEnd)

namespace Spacing

def text : Spacing → List Char
  | gap c _ => [c]
  | comment text _ ending => '#' :: text ++ [ending.char]

/-- The piece ends with a line feed. -/
def Feeds : Spacing → Prop
  | gap c _ => c = '\n'
  | comment _ _ ending => ending = .lineFeed

def Returns : Spacing → Prop
  | gap _ _ => False
  | comment _ _ ending => ending = .carriageReturn

def textOf (spacings : List Spacing) : List Char := spacings.flatMap text

/-- Behind every comment that ends at a carriage return there is a line feed. -/
def Closed : List Spacing → Prop
  | [] => True
  | first :: rest => (first.Returns → ∃ spacing ∈ rest, spacing.Feeds) ∧ Closed rest

/-- No comment holds a closing bracket. -/
def Unbracketed (spacings : List Spacing) : Prop := '>' ∉ textOf spacings

end Spacing

/-- What stands in the angle brackets of a declaration: printable characters of ASCII. -/
structure BracketedText where
  text : List Char
  printable : ∀ c ∈ text, 32 ≤ c.toNat ∧ c.toNat ≤ 126 ∧ c ≠ '<' ∧ c ≠ '>'

/-- A declaration with the spacing between its tokens. A label that is not empty is set apart from
the keyword. -/
inductive Declaration where
  | base (keyword : List Char) (same : InAnyCase "BASE" keyword) (between : List Spacing)
      (iri : BracketedText)
  | space (keyword : List Char) (same : InAnyCase "PREFIX" keyword) (before : List Spacing)
      (label : List Char) (word : ∀ c ∈ label, c.isAlphanum = true)
      (apart : label ≠ [] → before ≠ []) (between : List Spacing) (iri : BracketedText)

namespace Declaration

def text : Declaration → List Char
  | base keyword _ between iri => keyword ++ (Spacing.textOf between ++ '<' :: iri.text) ++ ['>']
  | space keyword _ before label _ _ between iri =>
    keyword
      ++ (Spacing.textOf before ++ label ++ ':' :: (Spacing.textOf between ++ '<' :: iri.text))
      ++ ['>']

def Unbracketed : Declaration → Prop
  | base _ _ between _ => Spacing.Unbracketed between
  | space _ _ before _ _ _ between _ =>
    Spacing.Unbracketed before ∧ Spacing.Unbracketed between

end Declaration

/-- A prologue: spacing, and declarations with the spacing behind each of them. -/
structure Layout where
  start : List Spacing
  declarations : List (Declaration × List Spacing)

namespace Layout

def textOf (declarations : List (Declaration × List Spacing)) : List Char :=
  declarations.flatMap fun (declaration, behind) => declaration.text ++ Spacing.textOf behind

def text (layout : Layout) : List Char := Spacing.textOf layout.start ++ textOf layout.declarations

structure IsPlain (layout : Layout) : Prop where
  start : Spacing.Closed layout.start
  declarations : ∀ declared ∈ layout.declarations,
    declared.1.Unbracketed ∧ Spacing.Closed declared.2

/-- What follows a prologue: a keyword that opens no declaration, and whatever comes behind it. -/
structure Continuation where
  word : List Char
  letters : ∀ c ∈ word, c.isAlpha = true
  nonempty : word ≠ []
  opens : ¬ IsDeclarationWord word
  behind : List Char
  ends : EndsWord behind

/-- Whatever follows, the search finds the keyword behind the prologue. -/
def IsPassed (layout : Layout) : Prop :=
  ∀ next : Continuation,
    hasQueryForm (layout.text ++ next.word ++ next.behind) = true ↔ IsQueryWord next.word

end Layout

/-! ## Plain layouts are skipped -/

theorem isBlank_of_isGap {c : Char} (gap : isGap c = true) : isBlank c = true := by
  simp only [isGap, Bool.or_eq_true, beq_iff_eq] at gap
  rcases gap with ((rfl | rfl) | rfl) | rfl <;> decide

theorem Preamble.single {piece : List Char} (skipped : Skipped piece) : Preamble piece := by
  have one := Preamble.cons skipped .nil
  rwa [List.append_nil] at one

namespace Spacing

theorem textOf_cons (first : Spacing) (rest : List Spacing) :
    textOf (first :: rest) = first.text ++ textOf rest :=
  List.flatMap_cons

theorem Feeds.text {spacing : Spacing} (feeds : spacing.Feeds) :
    ∃ front, spacing.text = front ++ ['\n'] ∧ '\n' ∉ front := by
  cases spacing with
  | gap c allowed =>
      cases feeds
      exact ⟨[], rfl, List.not_mem_nil⟩
  | comment text line ending =>
      cases feeds
      refine ⟨'#' :: text, rfl, ?_⟩
      rw [List.mem_cons, not_or]
      exact ⟨by decide, fun inside => (line _ inside).2 rfl⟩

theorem text_of_not_feeds {spacing : Spacing} (other : ¬ spacing.Feeds) :
    '\n' ∉ spacing.text := by
  cases spacing with
  | gap c allowed =>
      intro inside
      exact other (List.mem_singleton.mp inside).symm
  | comment text line ending =>
      cases ending with
      | lineFeed => exact absurd rfl other
      | carriageReturn =>
          intro inside
          rcases List.mem_append.mp inside with inside | inside
          · rcases List.mem_cons.mp inside with same | inside
            · cases same
            · exact (line _ inside).2 rfl
          · exact absurd (List.mem_singleton.mp inside) (by decide)

/-- The search takes a comment up to the next line feed, wherever that stands in the spacing. Both
statements are proved together: the second one is about the text behind the start of a comment
that goes on. -/
theorem preamble_of_closed (spacings : List Spacing) (closed : Closed spacings) :
    Preamble (textOf spacings) ∧
      ∀ front, '\n' ∉ front → (∃ spacing ∈ spacings, spacing.Feeds) →
        Preamble ('#' :: front ++ textOf spacings) := by
  induction spacings with
  | nil =>
      refine ⟨.nil, ?_⟩
      rintro front _ ⟨_, ⟨⟩, _⟩
  | cons first rest ih =>
      obtain ⟨here, behind⟩ := ih closed.2
      rw [textOf_cons]
      constructor
      · cases first with
        | gap c allowed => exact .cons (.blank (isBlank_of_isGap allowed)) here
        | comment text line ending =>
            have unfed : '\n' ∉ text := fun inside => (line _ inside).2 rfl
            cases ending with
            | lineFeed => exact .cons (.comment unfed) here
            | carriageReturn =>
                have open_comment := behind (text ++ ['\r']) (by simp [unfed]) (closed.1 rfl)
                rwa [← List.cons_append] at open_comment
      · rintro front unfed ⟨spacing, member, feeds⟩
        by_cases now : first.Feeds
        · obtain ⟨line, same, unfed'⟩ := now.text
          have comment : Skipped ('#' :: (front ++ line) ++ ['\n']) :=
            .comment (by simp [unfed, unfed'])
          have whole := Preamble.cons comment here
          rw [same]
          simpa only [List.cons_append, List.append_assoc] using whole
        · have later : ∃ spacing ∈ rest, spacing.Feeds := by
            rcases List.mem_cons.mp member with rfl | member
            · exact absurd feeds now
            · exact ⟨spacing, member, feeds⟩
          have whole := behind (front ++ first.text) (by simp [unfed, text_of_not_feeds now]) later
          simpa only [List.cons_append, List.append_assoc] using whole

theorem endsWord_text (spacing : Spacing) (rest : List Char) : EndsWord (spacing.text ++ rest) := by
  cases spacing with
  | gap c allowed =>
      intro d first
      obtain rfl := Option.some.inj first
      simp only [isGap, Bool.or_eq_true, beq_iff_eq] at allowed
      rcases allowed with ((rfl | rfl) | rfl) | rfl <;> decide
  | comment text line ending =>
      intro d first
      obtain rfl := Option.some.inj first
      decide

/-- Behind a word, spacing or a mark that is no letter ends it. -/
theorem endsWord_textOf (spacings : List Spacing) {rest : List Char} (ends : EndsWord rest) :
    EndsWord (textOf spacings ++ rest) := by
  cases spacings with
  | nil => exact ends
  | cons first more =>
      rw [textOf_cons, List.append_assoc]
      exact first.endsWord_text _

end Spacing

theorem BracketedText.unclosed (iri : BracketedText) : '>' ∉ iri.text :=
  fun inside => (iri.printable _ inside).2.2.2 rfl

theorem endsWord_cons {c : Char} (other : c.isAlpha = false) (rest : List Char) :
    EndsWord (c :: rest) := by
  intro d first
  obtain rfl := Option.some.inj first
  exact other

theorem Declaration.skipped {declaration : Declaration} (plain : declaration.Unbracketed) :
    Skipped declaration.text := by
  cases declaration with
  | base keyword same between iri =>
      refine .declaration (.inr same) (Spacing.endsWord_textOf between (endsWord_cons rfl _)) ?_
      simp [show '>' ∉ Spacing.textOf between from plain, iri.unclosed]
  | space keyword same before label word apart between iri =>
      have unlabelled : '>' ∉ label := fun inside => absurd (word _ inside) (by decide)
      refine .declaration (.inl same) ?_ ?_
      · rw [List.append_assoc]
        cases before with
        | nil =>
            have empty : label = [] := by
              by_contra nonempty
              exact apart nonempty rfl
            rw [empty]
            exact endsWord_cons rfl _
        | cons first more =>
            rw [Spacing.textOf_cons, List.append_assoc]
            exact first.endsWord_text _
      · simp [show '>' ∉ Spacing.textOf before from plain.1,
          show '>' ∉ Spacing.textOf between from plain.2, unlabelled, iri.unclosed]

theorem Layout.IsPlain.preamble {layout : Layout} (plain : layout.IsPlain) :
    Preamble layout.text := by
  refine (Spacing.preamble_of_closed _ plain.start).1.append ?_
  have declarations := plain.declarations
  generalize layout.declarations = declared at declarations
  induction declared with
  | nil => exact .nil
  | cons first rest ih =>
      rw [List.forall_mem_cons] at declarations
      obtain ⟨⟨unbracketed, closed⟩, more⟩ := declarations
      have here := (Preamble.single (Declaration.skipped unbracketed)).append
        (Spacing.preamble_of_closed _ closed).1
      exact here.append (ih more)

/-! ## What is passed is skipped -/

/-- A text after which a word can begin: its last character is no letter. -/
def AllowsWord (text : List Char) : Prop := ∀ c ∈ text.getLast?, c.isAlpha = false

theorem AllowsWord.append {first second : List Char} (before : AllowsWord first)
    (behind : AllowsWord second) : AllowsWord (first ++ second) := by
  intro c last
  rw [List.getLast?_append] at last
  cases found : second.getLast? with
  | none =>
      rw [found, Option.none_or] at last
      exact before c last
  | some d =>
      rw [found, Option.some_or] at last
      exact behind c (found.trans last)

theorem allowsWord_concat {c : Char} (other : c.isAlpha = false) (text : List Char) :
    AllowsWord (text ++ [c]) := by
  intro d last
  rw [List.getLast?_concat] at last
  obtain rfl := Option.some.inj last
  exact other

theorem isAlpha_of_isBlank {c : Char} (blank : isBlank c = true) : c.isAlpha = false := by
  cases letter : c.isAlpha with
  | false => rfl
  | true =>
      rw [isBlank_of_isAlpha letter] at blank
      cases blank

theorem Preamble.allowsWord {preamble : List Char} (skips : Preamble preamble) :
    AllowsWord preamble := by
  induction skips with
  | nil => rintro c ⟨⟩
  | cons first _ ih =>
      refine AllowsWord.append ?_ ih
      cases first with
      | blank blank => exact allowsWord_concat (isAlpha_of_isBlank blank) []
      | comment _ => exact allowsWord_concat rfl _
      | declaration _ _ _ => exact allowsWord_concat rfl _

theorem Spacing.allowsWord_textOf (spacings : List Spacing) : AllowsWord (textOf spacings) := by
  induction spacings with
  | nil => rintro c ⟨⟩
  | cons first rest ih =>
      rw [textOf_cons]
      refine AllowsWord.append ?_ ih
      cases first with
      | gap c allowed =>
          exact allowsWord_concat (isAlpha_of_isBlank (isBlank_of_isGap allowed)) []
      | comment text line ending => cases ending <;> exact allowsWord_concat rfl _

theorem Layout.allowsWord (layout : Layout) : AllowsWord layout.text := by
  refine (Spacing.allowsWord_textOf _).append ?_
  generalize layout.declarations = declared
  induction declared with
  | nil => rintro c ⟨⟩
  | cons first rest ih =>
      have here : AllowsWord first.1.text := by
        cases first.1 <;> exact allowsWord_concat rfl _
      exact (here.append (Spacing.allowsWord_textOf _)).append ih

/-- A word behind the text cannot be part of what is in front of it. -/
theorem AllowsWord.eq_nil_of_letters {text front last : List Char} (allows : AllowsWord text)
    (split : text = front ++ last) (letters : ∀ c ∈ last, c.isAlpha = true) : last = [] := by
  cases found : last.getLast? with
  | none => exact List.getLast?_eq_none_iff.mp found
  | some c =>
      have inside := letters c (List.mem_of_getLast? found)
      rw [allows c (by rw [split, List.getLast?_append, found]; rfl)] at inside
      cases inside

/-- Where the keyword of a query form is found behind a text although it would not be found for
other keywords, the text has been skipped. -/
theorem preamble_of_opensQuery {text word : List Char} (allows : AllowsWord text)
    (letters : ∀ c ∈ word, c.isAlpha = true) (opens : OpensQuery (text ++ word))
    (other : List Char) (refused : ¬ OpensQuery (text ++ other)) : Preamble text := by
  obtain ⟨preamble, form, behind, whole, skips, queries, ends⟩ := opens
  rw [List.append_assoc] at whole
  rcases List.append_eq_append_iff.mp whole with ⟨front, rfl, split⟩ | ⟨rest, rfl, split⟩
  · -- The preamble goes on into the word. It ends with no letter, so it goes nowhere.
    have within : ∀ c ∈ front, c.isAlpha = true := fun c inside =>
      letters c (by rw [split]; exact List.mem_append_left _ inside)
    rw [skips.allowsWord.eq_nil_of_letters rfl within, List.append_nil] at skips
    exact skips
  · rcases List.append_eq_append_iff.mp split with ⟨inner, rfl, rfl⟩ | ⟨outer, rfl, _⟩
    · -- The keyword stands inside the text, so that it is found whatever follows.
      exfalso
      cases inner with
      | nil =>
          rw [List.append_nil] at allows
          rw [allows.eq_nil_of_letters rfl queries.letters] at queries
          exact not_isQueryWord_nil queries
      | cons c inner =>
          refine refused ⟨preamble, form, c :: inner ++ other, ?_, skips, queries, ends⟩
          simp only [List.append_assoc]
    · have within : ∀ c ∈ rest, c.isAlpha = true := fun c inside =>
        queries.letters c (List.mem_append_left _ inside)
      rw [allows.eq_nil_of_letters rfl within, List.append_nil]
      exact skips

namespace Layout

/-- Two keywords, of which only the first one opens a query form. -/
def select : Continuation where
  word := "SELECT".toList
  letters := by simp
  nonempty := by simp
  opens := by
    rw [← isDeclarationKeyword_iff]
    decide +kernel
  behind := []
  ends := by rintro c ⟨⟩

def clear : Continuation where
  word := "CLEAR".toList
  letters := by simp
  nonempty := by simp
  opens := by
    rw [← isDeclarationKeyword_iff]
    decide +kernel
  behind := []
  ends := by rintro c ⟨⟩

theorem select_queries : IsQueryWord select.word :=
  (isQueryKeyword_iff _).mp (by decide +kernel)

theorem isPassed_iff (layout : Layout) : layout.IsPassed ↔ Preamble layout.text := by
  constructor
  · intro passed
    have found := passed select
    have refused := passed clear
    rw [List.append_assoc, hasQueryForm_iff] at found refused
    have other : ¬ IsQueryWord clear.word := by
      rw [← isQueryKeyword_iff]
      decide +kernel
    rw [show select.behind = [] from rfl, List.append_nil] at found
    rw [show clear.behind = [] from rfl, List.append_nil] at refused
    exact preamble_of_opensQuery layout.allowsWord select.letters (found.mpr select_queries)
      clear.word (mt refused.mp other)
  · intro skips next
    rw [List.append_assoc, skips.hasQueryForm, hasQueryForm_word next.letters next.nonempty
      next.ends, if_neg (mt (isDeclarationKeyword_iff _).mp next.opens), isQueryKeyword_iff]

/-- The text of a request with a prologue. -/
def request (layout : Layout) (next : Continuation) : String :=
  String.ofList (layout.text ++ next.word ++ next.behind)

/-- A request that cannot be read is reported under the grammar that its first keyword is for. -/
theorem IsPassed.report {layout : Layout} (passed : layout.IsPassed) {library : Library}
    {options : TextOptions} {next : Continuation} {cause : ParseError}
    (refused : readTree library options (layout.request next) = .error cause) :
    ∃ grammar, cause = .malformed grammar ∧ (grammar = .query ↔ IsQueryWord next.word) := by
  refine ⟨intendedGrammar (layout.request next), ?_, ?_⟩
  · rw [readTree] at refused
    split at refused
    · cases refused
    · split at refused
      · cases refused
      · exact (Except.error.inj refused).symm
  · rw [← passed next, intendedGrammar, request, String.toList_ofList]
    split
    · next found => simp only [found]
    · next missed => simp only [missed, reduceCtorEq]

/-- The search passes a prologue, whatever follows, exactly if the prologue is a preamble as a text,
and it passes every plain layout. Whatever the library cannot read behind such a prologue is then
reported under the grammar that its first keyword belongs to. -/
theorem prologue_passed_iff (layout : Layout) :
    (layout.IsPassed ↔ Preamble layout.text) ∧
      (layout.IsPlain → layout.IsPassed) ∧
      (layout.IsPassed → ∀ library options next cause,
        readTree library options (layout.request next) = .error cause →
          ∃ grammar, cause = .malformed grammar ∧ (grammar = .query ↔ IsQueryWord next.word)) := by
  refine ⟨layout.isPassed_iff, fun plain => ?_, fun passed library options next cause =>
    passed.report⟩
  exact layout.isPassed_iff.mpr plain.preamble

/-- `PREFIX#c` and a carriage return, `e:<i>#d` and both ends of a line. -/
def twoEnds : Layout where
  start := []
  declarations :=
    [(.space "PREFIX".toList ((sameWord_iff prefix_capitals _).mp (by decide +kernel))
        [.comment ['c'] (by simp) .carriageReturn] ['e'] (by simp) (by simp) [] ⟨['i'], by simp⟩,
      [.comment ['d'] (by simp) .carriageReturn, .gap '\n' (by decide)])]

theorem twoEnds_plain : twoEnds.IsPlain where
  start := trivial
  declarations := by
    rintro declared member
    obtain rfl := List.mem_singleton.mp member
    refine ⟨⟨?_, ?_⟩, fun _ => ⟨_, List.mem_singleton_self _, rfl⟩, fun fed => fed.elim, trivial⟩
    · simp [Spacing.Unbracketed, Spacing.textOf, Spacing.text, LineEnd.char]
    · simp [Spacing.Unbracketed, Spacing.textOf]

/-- A library that cannot read anything. -/
def unable : Library where
  isIri _ := false
  isQuery _ _ := false
  update? _ _ := none

theorem prologue_passed_iff_twoEnds :
    twoEnds.IsPlain ∧ readTree unable {} (twoEnds.request select) = .error (.malformed .query) ∧
      ∃ grammar, ParseError.malformed .query = .malformed grammar ∧
        (grammar = .query ↔ IsQueryWord select.word) :=
  have passes := prologue_passed_iff twoEnds
  have intended : intendedGrammar (twoEnds.request select) = .query := by decide +kernel
  have refused : readTree unable {} (twoEnds.request select) = .error (.malformed .query) := by
    rw [← intended]
    rfl
  ⟨twoEnds_plain, refused, passes.2.2 (passes.2.1 twoEnds_plain) unable {} select _ refused⟩

/-- `PREFIX#>`, a line feed, and `e:<i>`. -/
def bracketInComment : Layout where
  start := []
  declarations :=
    [(.space "PREFIX".toList ((sameWord_iff prefix_capitals _).mp (by decide +kernel))
        [.comment ['>'] (by simp) .lineFeed] ['e'] (by simp) (by simp) [] ⟨['i'], by simp⟩, [])]

/-- `BASE<i>#c` and a carriage return. -/
def returnBehind : Layout where
  start := []
  declarations :=
    [(.base "BASE".toList ((sameWord_iff base_capitals _).mp (by decide +kernel)) []
        ⟨['i'], by simp⟩,
      [.comment ['c'] (by simp) .carriageReturn])]

/-- Not every prologue is passed: neither a closing bracket in a comment of a declaration nor a
carriage return at the end of a comment is seen for what it is. -/
theorem prologue_not_passed : ¬ bracketInComment.IsPassed ∧ ¬ returnBehind.IsPassed := by
  constructor
  · intro passed
    exact absurd ((passed select).mpr select_queries) (by decide +kernel)
  · intro passed
    exact absurd ((passed select).mpr select_queries) (by decide +kernel)

end Layout

end RdfDataset.Sparql
