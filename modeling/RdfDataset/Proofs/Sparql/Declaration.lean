import RdfDataset.Sparql.Request
import RdfDataset.Proofs.Iri
import RdfDataset.Proofs.Sparql.Outcome

/-!
# Declarations in front of a request

A label that follows the grammar and an IRI make up a line that the prologue of a request reads as
the declaration of that label, from the first character to the blanks behind the line. So lines in
front of a text are declarations in front of those of the text.
-/

set_option autoImplicit false

namespace RdfDataset.Sparql

/-- A label that can be declared: nothing at all, or a letter followed by characters of names and by
dots, where a dot is not the last. -/
def isSpaceLabel : List Char → Bool
  | [] => true
  | first :: rest =>
    isNameStart first && rest.all (fun c => isNameCharacter c || c == '.')
      && rest.getLast? != some '.'

namespace Reader

/-! ## Labels -/

theorem picks_dot : Picks (character (· == '.')) (· == '.') id :=
  picks_character _

theorem picks_name : Picks (one isNameCharacter) isNameCharacter fun c => [c] :=
  picks_one _

theorem flatten_singletons (text : List Char) : (text.map fun c => [c]).flatten = text := by
  induction text with
  | nil => rfl
  | cons c text ih => rw [List.map_cons, List.flatten_cons, ih, List.singleton_append]

theorem head_dropWhile (allowed : Char → Bool) (text : List Char) :
    ∀ c ∈ (text.dropWhile allowed).head?, allowed c = false := by
  intro c first
  have stopped := List.head?_dropWhile_not allowed text
  rwa [Option.mem_def.mp first] at stopped

/-- Behind a dot that is not the last character there are more dots, and then a name. -/
theorem exists_dotGroup {tail : List Char}
    (all : ∀ c ∈ tail, (isNameCharacter c || c == '.') = true)
    (last : ('.' :: tail).getLast? ≠ some '.') :
    ∃ dots d names behind, tail = dots ++ (d :: names ++ behind) ∧
      (∀ c ∈ dots, (c == '.') = true) ∧ (∀ c ∈ d :: names, isNameCharacter c = true) ∧
      ∀ c ∈ behind.head?, isNameCharacter c = false := by
  have joined := List.takeWhile_append_dropWhile (p := (· == '.')) (l := tail)
  have dots := List.all_eq_true.mp (List.all_takeWhile (p := (· == '.')) (l := tail))
  have stopped := head_dropWhile (· == '.') tail
  cases after : tail.dropWhile (· == '.') with
  | nil =>
      rw [after, List.append_nil] at joined
      rw [joined] at dots
      have same := List.getLast_mem (List.cons_ne_nil '.' tail)
      rw [List.getLast?_eq_some_getLast (List.cons_ne_nil '.' tail)] at last
      rcases List.mem_cons.mp same with same | mem
      · exact absurd (congrArg some same) last
      · exact absurd (congrArg some (beq_iff_eq.mp (dots _ mem))) last
  | cons d more =>
      rw [after] at joined stopped
      have name : isNameCharacter d = true := by
        have here := all d (joined ▸ List.mem_append_right _ List.mem_cons_self)
        rwa [stopped d rfl, Bool.or_false] at here
      refine ⟨tail.takeWhile (· == '.'), d, more.takeWhile isNameCharacter,
        more.dropWhile isNameCharacter, ?_, dots, ?_, head_dropWhile _ _⟩
      · rw [List.cons_append, List.takeWhile_append_dropWhile, joined]
      · exact List.forall_mem_cons.mpr ⟨name, List.all_eq_true.mp List.all_takeWhile⟩

theorem head_append_colon {text : List Char} (ends : ∀ c ∈ text.head?, isNameCharacter c = false)
    (rest : List Char) : ∀ c ∈ (text ++ ':' :: rest).head?, isNameCharacter c = false := by
  cases text with
  | nil =>
      rintro c ⟨⟩
      decide
  | cons d text => exact ends

theorem getLast?_of_append {front text : List Char} (last : (front ++ text).getLast? ≠ some '.') :
    text.getLast? ≠ some '.' := by
  intro same
  rw [List.getLast?_append, same] at last
  exact last rfl

/-- A dot, more of them, and the name behind them. -/
theorem takes_dotGroup {dots names rest : List Char} {d : Char} {cursor : Cursor}
    (text : cursor.rest = '.' :: dots ++ (d :: names ++ rest))
    (alike : ∀ c ∈ dots, (c == '.') = true) (all : ∀ c ∈ d :: names, isNameCharacter c = true)
    (ends : ∀ c ∈ rest.head?, isNameCharacter c = false) :
    (dotGroup (one isNameCharacter)).Takes cursor ('.' :: dots ++ d :: names)
      { cursor with rest } := by
  have dot : isNameCharacter '.' = false := by decide
  have other : ∀ c ∈ (d :: names ++ rest).head?, (c == '.') = false := by
    rintro c ⟨⟩
    refine beq_eq_false_iff_ne.mpr fun same => ?_
    have here := all d List.mem_cons_self
    rw [same, dot] at here
    cases here
  have first : (many1 (character (· == '.'))).Takes cursor (('.' :: dots).map id)
      { cursor with rest := d :: names ++ rest } :=
    picks_dot.many1 (List.forall_mem_cons.mpr ⟨rfl, alike⟩) other text
  have second : (many1 (one isNameCharacter)).Takes { cursor with rest := d :: names ++ rest }
      ((d :: names).map fun c => [c]) { cursor with rest } :=
    picks_name.many1 all ends rfl
  refine first.bind (second.bind ?_)
  rw [List.map_id, flatten_singletons]
  exact takes_pure

theorem takes_noDotGroup {rest : List Char} {cursor : Cursor} (text : cursor.rest = ':' :: rest)
    (bound : Nat) :
    ∃ groups, (upTo (dotGroup (one isNameCharacter)) bound).Takes cursor groups
      { cursor with rest := ':' :: rest } ∧ groups.flatten = [] := by
  have refuses : (dotGroup (one isNameCharacter)).Refuses cursor :=
    Refuses.bind (Refuses.bind (picks_dot.refuses (by rw [text]; rintro c ⟨⟩; decide)))
  refine ⟨[], ?_, rfl⟩
  rw [← text]
  exact refuses.upTo bound

/-- Dots and names that follow each other are read up to the colon behind them. -/
theorem takes_dotGroups (n : Nat) {here rest : List Char} (cursor : Cursor) (bound : Nat)
    (short : here.length ≤ n) (all : ∀ c ∈ here, (isNameCharacter c || c == '.') = true)
    (last : here.getLast? ≠ some '.') (first : ∀ c ∈ here.head?, isNameCharacter c = false)
    (text : cursor.rest = here ++ ':' :: rest) (enough : here.length ≤ bound) :
    ∃ groups, (upTo (dotGroup (one isNameCharacter)) bound).Takes cursor groups
      { cursor with rest := ':' :: rest } ∧ groups.flatten = here := by
  -- A group takes any number of characters, so the induction is on a bound for those that are left.
  induction n generalizing here cursor bound with
  | zero =>
      obtain rfl := List.eq_nil_of_length_eq_zero (Nat.le_zero.mp short)
      exact takes_noDotGroup text bound
  | succ n ih =>
      cases here with
      | nil => exact takes_noDotGroup text bound
      | cons c tail =>
          rw [List.forall_mem_cons] at all
          have dot : c = '.' := by simpa [first c rfl] using all.1
          subst dot
          obtain ⟨dots, d, names, behind, rfl, alike, named, ends⟩ := exists_dotGroup all.2 last
          have ends' := head_append_colon ends rest
          have last' : behind.getLast? ≠ some '.' := by
            rw [← List.cons_append, ← List.append_assoc] at last
            exact getLast?_of_append last
          simp only [List.length_cons, List.length_append] at short enough
          have group : (dotGroup (one isNameCharacter)).Takes cursor ('.' :: dots ++ d :: names)
              { cursor with rest := behind ++ ':' :: rest } := by
            refine takes_dotGroup ?_ alike named ends'
            rw [text]
            simp only [List.cons_append, List.append_assoc]
          obtain ⟨bound, rfl⟩ := Nat.exists_eq_add_of_lt (show 0 < bound by omega)
          rw [List.forall_mem_append, List.forall_mem_append] at all
          obtain ⟨groups, more, joined⟩ := ih { cursor with rest := behind ++ ':' :: rest }
            (0 + bound) (by omega) all.2.2.2 last' ends rfl (by omega)
          refine ⟨('.' :: dots ++ d :: names) :: groups, (group.bind ?_).orElse, ?_⟩
          · exact more.bind takes_pure
          · rw [List.flatten_cons, joined]
            simp only [List.cons_append, List.append_assoc]

theorem takes_dotted {here rest : List Char} {cursor : Cursor}
    (all : ∀ c ∈ here, (isNameCharacter c || c == '.') = true) (last : here.getLast? ≠ some '.')
    (text : cursor.rest = here ++ ':' :: rest) :
    (dotted (one isNameCharacter)).Takes cursor here { cursor with rest := ':' :: rest } := by
  have joined := List.takeWhile_append_dropWhile (p := isNameCharacter) (l := here)
  have named := List.all_eq_true.mp (List.all_takeWhile (p := isNameCharacter) (l := here))
  have ends := head_dropWhile isNameCharacter here
  generalize here.takeWhile isNameCharacter = front at joined named
  generalize here.dropWhile isNameCharacter = tail at joined ends
  subst joined
  rw [List.append_assoc] at text
  rw [List.forall_mem_append] at all
  obtain ⟨groups, more, joined⟩ := takes_dotGroups tail.length
    { cursor with rest := tail ++ ':' :: rest } (tail ++ ':' :: rest).length (Nat.le_refl _) all.2
    (getLast?_of_append last) ends rfl (by rw [List.length_append]; exact Nat.le_add_right _ _)
  have first : (many (one isNameCharacter)).Takes cursor (front.map fun c => [c])
      { cursor with rest := tail ++ ':' :: rest } :=
    picks_name.many named (head_append_colon ends rest) text
  have second : (many (dotGroup (one isNameCharacter))).Takes
      { cursor with rest := tail ++ ':' :: rest } groups { cursor with rest := ':' :: rest } :=
    fun marks => more marks
  refine first.bind (second.bind ?_)
  rw [flatten_singletons, joined]
  exact takes_pure

theorem takes_spaceLabel {label rest : List Char} {cursor : Cursor}
    (proper : isSpaceLabel label = true) (text : cursor.rest = label ++ ':' :: rest) :
    spaceLabel.Takes cursor (String.ofList label) { cursor with rest } := by
  have colon : (symbol ":").Takes { cursor with rest := ':' :: rest } () { cursor with rest } :=
    takes_symbol rfl
  cases label with
  | nil =>
      have refuses : (character isNameStart).Refuses cursor :=
        (picks_character _).refuses (by rw [text]; rintro c ⟨⟩; decide)
      have none : ((do
          let first ← character isNameStart
          let rest ← dotted (one isNameCharacter)
          return first :: rest) <|> pure []).Takes cursor []
          { cursor with rest := ':' :: rest } := by
        have same : { cursor with rest := ':' :: rest } = cursor := by
          rw [← List.nil_append (_ :: _), ← text]
        rw [same]
        exact refuses.bind.orElse takes_pure
      exact none.bind (colon.bind takes_pure)
  | cons first tail =>
      simp only [isSpaceLabel, Bool.and_eq_true, List.all_eq_true, bne_iff_ne] at proper
      obtain ⟨⟨start, all⟩, last⟩ := proper
      have here : (character isNameStart).Takes cursor first
          { cursor with rest := tail ++ ':' :: rest } := (picks_character _).takes text start
      have body : (dotted (one isNameCharacter)).Takes
          { cursor with rest := tail ++ ':' :: rest } tail { cursor with rest := ':' :: rest } :=
        takes_dotted all last rfl
      have whole : ((do
          let first ← character isNameStart
          let rest ← dotted (one isNameCharacter)
          return first :: rest) <|> pure []).Takes cursor (first :: tail)
          { cursor with rest := ':' :: rest } := by
        refine (here.bind ?_).orElse
        exact body.bind takes_pure
      exact whole.bind (colon.bind takes_pure)

/-! ## IRIs in brackets -/

theorem decodeCodePoints_eq_self {text : List Char} (plain : ∀ c ∈ text, c ≠ '\\') :
    decodeCodePoints text = text := by
  unfold decodeCodePoints
  induction text with
  | nil => rfl
  | cons c text ih =>
      rw [List.forall_mem_cons] at plain
      have none : escapedCodePoint? signedCodePoint? (c :: text) = none := by
        unfold escapedCodePoint?
        split
        next same => exact absurd (List.cons.inj same).1 plain.1
        next same => exact absurd (List.cons.inj same).1 plain.1
        next => rfl
      rw [List.length_cons, decodeCodePoints.go, none]
      exact congrArg (c :: ·) (ih plain.2)

theorem takes_iriReference {iri : String} (isIri : Iri.isIri iri = true) {cursor : Cursor}
    {rest : List Char} (text : cursor.rest = '<' :: (iri.toList ++ '>' :: rest)) :
    iriReference.Takes cursor iri { cursor with rest } := by
  have tame := Iri.isTame_of_isIri isIri
  have opening : (symbol "<").Takes cursor () { cursor with rest := iri.toList ++ '>' :: rest } :=
    takes_symbol text
  have inside : (run (· ≠ '>')).Takes { cursor with rest := iri.toList ++ '>' :: rest } iri.toList
      { cursor with rest := '>' :: rest } :=
    takes_run rfl (fun c mem => decide_eq_true (tame c mem).1) (by rintro c ⟨⟩; decide)
  have closing : (symbol ">").Takes { cursor with rest := '>' :: rest } () { cursor with rest } :=
    takes_symbol rfl
  refine opening.bind (inside.bind (closing.bind fun marks => ?_))
  rw [decodeCodePoints_eq_self fun c mem => (tame c mem).2, String.ofList_toList]
  rw [outcome_get, Iri.resolve?_of_isIri isIri]
  rfl

/-! ## Lines -/

def declaration : Reader Unit := lexeme (baseDeclaration <|> spaceDeclaration)

theorem toList_declarationLine (label iri : String) (behind : List Char) :
    (declarationLine label iri).toList ++ behind = "PREFIX".toList ++ ' ' ::
      (label.toList ++ ':' :: ' ' :: '<' :: (iri.toList ++ '>' :: '\n' :: behind)) := by
  unfold declarationLine
  simp only [String.toList_append, List.append_assoc]
  rfl

theorem spanBlank_stops {c : Char} (gap : isGap c = false) (comment : c ≠ '#')
    (rest : List Char) : spanBlank false (c :: rest) = ([], c :: rest) := by
  rw [spanBlank, if_neg Bool.false_ne_true, if_neg (by rw [gap]; exact Bool.false_ne_true),
    if_neg comment]

theorem spanBlank_gap {c : Char} (gap : isGap c = true) (rest : List Char) :
    (spanBlank false (c :: rest)).2 = (spanBlank false rest).2 := by
  rw [spanBlank, if_neg Bool.false_ne_true, if_pos gap]

theorem spanBlank_label {label : List Char} (proper : isSpaceLabel label = true)
    (rest : List Char) : (spanBlank false (label ++ ':' :: rest)).2 = label ++ ':' :: rest := by
  cases label with
  | nil => rfl
  | cons first tail =>
      simp only [isSpaceLabel, Bool.and_eq_true] at proper
      have start := proper.1.1
      have other (c : Char) (refused : isNameStart c = false) : first ≠ c := by
        rintro rfl
        exact Bool.false_ne_true (refused.symm.trans start)
      have gap : isGap first = false := by
        simp only [isGap, Bool.or_eq_false_iff, beq_eq_false_iff_ne]
        exact ⟨⟨⟨other _ (by decide), other _ (by decide)⟩, other _ (by decide)⟩,
          other _ (by decide)⟩
      rw [List.cons_append, spanBlank_stops gap (other _ (by decide))]

theorem takes_declarationLine {label iri : String} (proper : isSpaceLabel label.toList = true)
    (isIri : Iri.isIri iri = true) {cursor : Cursor} {behind : List Char}
    (text : cursor.rest = (declarationLine label iri).toList ++ behind) :
    declaration.Takes cursor () { cursor with
      rest := (spanBlank false behind).2, spaces := (label, iri) :: cursor.spaces } := by
  rw [toList_declarationLine] at text
  have noBase : baseDeclaration.Refuses cursor :=
    Refuses.bind (Refuses.bind (refuses_ofText (by rw [text]; rfl)))
  have word : (word "PREFIX").Takes cursor () { cursor with
      rest := label.toList ++ ':' :: ' ' :: '<' :: (iri.toList ++ '>' :: '\n' :: behind) } := by
    refine (takes_keyword text).bind ((takes_blank _).bind ?_)
    dsimp only
    rw [spanBlank_gap (by decide), spanBlank_label proper]
    exact takes_pure
  have name : (lexeme spaceLabel).Takes { cursor with
        rest := label.toList ++ ':' :: ' ' :: '<' :: (iri.toList ++ '>' :: '\n' :: behind) }
      label { cursor with rest := '<' :: (iri.toList ++ '>' :: '\n' :: behind) } := by
    have read : spaceLabel.Takes { cursor with
          rest := label.toList ++ ':' :: ' ' :: '<' :: (iri.toList ++ '>' :: '\n' :: behind) }
        (String.ofList label.toList)
        { cursor with rest := ' ' :: '<' :: (iri.toList ++ '>' :: '\n' :: behind) } :=
      takes_spaceLabel proper rfl
    rw [String.ofList_toList] at read
    refine read.bind ((takes_blank _).bind ?_)
    dsimp only
    rw [spanBlank_gap (by decide), spanBlank_stops (by decide) (by decide)]
    exact takes_pure
  have reference : iriReference.Takes
      { cursor with rest := '<' :: (iri.toList ++ '>' :: '\n' :: behind) } iri
      { cursor with rest := '\n' :: behind } := takes_iriReference isIri rfl
  have line : spaceDeclaration.Takes cursor ()
      { cursor with rest := '\n' :: behind, spaces := (label, iri) :: cursor.spaces } :=
    word.bind (name.bind (reference.bind fun _ => rfl))
  refine (noBase.orElse line).bind ((takes_blank _).bind ?_)
  dsimp only
  rw [spanBlank_gap (by decide)]
  exact takes_pure

end Reader

end RdfDataset.Sparql
