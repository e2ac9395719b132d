import RdfDataset.Proofs.Sparql.Declaration
import RdfDataset.Proofs.Sparql.Scoped.Request

/-!
# Requests behind a declaration

The prologue of a request passes a line that declares something, and goes on with what follows as if
the declaration had been there from the start. As the grammar is scoped, that is what the request by
itself comes to where the declaration answers for its label.
-/

set_option autoImplicit false

namespace RdfDataset.Sparql.Reader

variable {α β : Type}

/-! ## How far readers get -/

/-- Where the reader succeeds it has taken at least `n` characters. -/
def Consumes (n : Nat) (reader : Reader α) : Prop :=
  ∀ cursor marks, (reader.outcome cursor marks).Every fun answer =>
    ∀ read ∈ answer.1, read.2.rest.length + n ≤ cursor.rest.length

theorem consumes_pure (a : α) : (pure a : Reader α).Consumes 0 := by
  rintro cursor marks read ⟨⟩
  exact Nat.le_refl _

theorem Consumes.mono {m n : Nat} {reader : Reader α} (taken : reader.Consumes n) (le : m ≤ n) :
    reader.Consumes m :=
  fun cursor marks => (taken cursor marks).mono fun _ short read found =>
    Nat.le_trans (Nat.add_le_add_left le _) (short read found)

theorem consumes_failure (n : Nat) : (failure : Reader α).Consumes n := by
  rintro cursor marks read ⟨⟩

theorem Consumes.bind {n : Nat} {reader : Reader β} {next : β → Reader α}
    (first : reader.Consumes n) (rest : ∀ b, (next b).Consumes 0) :
    (reader >>= next).Consumes n := by
  intro cursor marks
  rw [outcome_bind]
  refine (first cursor marks).bind fun (answer, marks) here => ?_
  cases answer with
  | none => exact fun read none => nomatch none
  | some answer =>
      have short := here answer rfl
      exact (rest answer.1 answer.2 marks).mono fun _ behind read found =>
        Nat.le_trans (Nat.add_le_add_right (behind read found) n) short

theorem Consumes.orElse {n : Nat} {first second : Reader α} (left : first.Consumes n)
    (right : second.Consumes n) : (first <|> second).Consumes n := by
  intro cursor marks
  rw [outcome_orElse]
  refine (left cursor marks).bind fun (answer, marks) here => ?_
  cases answer with
  | none => exact right cursor marks
  | some answer => exact here

theorem consumes_get {n : Nat} {next : Cursor → Reader α}
    (each : ∀ cursor, (next cursor).Consumes n) :
    (get >>= next).Consumes n :=
  fun cursor marks => each cursor cursor marks

theorem consumes_modify {f : Cursor → Cursor} (kept : ∀ cursor, (f cursor).rest = cursor.rest) :
    (modify f : Reader Unit).Consumes 0 := by
  rintro cursor marks read ⟨⟩
  exact Nat.le_of_eq (congrArg List.length (kept cursor))

theorem consumes_ofText {n : Nat} {step : List Char → Option (α × List Char)}
    (shorter : ∀ text a rest, step text = some (a, rest) → rest.length + n ≤ text.length) :
    (ofText step).Consumes n := by
  intro cursor marks
  rw [outcome_ofText]
  rintro read found
  obtain ⟨⟨a, rest⟩, taken, rfl⟩ := Option.map_eq_some_iff.mp found
  exact shorter _ a rest taken

theorem Consumes.upTo {reader : Reader α} (each : reader.Consumes 0) (bound : Nat) :
    (upTo reader bound).Consumes 0 := by
  induction bound with
  | zero => exact consumes_pure []
  | succ bound ih =>
      exact (each.bind fun _ => ih.bind fun _ => consumes_pure _).orElse (consumes_pure [])

theorem Consumes.many {reader : Reader α} (each : reader.Consumes 0) : (many reader).Consumes 0 :=
  consumes_get fun _ => each.upTo _

theorem Consumes.many1 {reader : Reader α} (each : reader.Consumes 0) :
    (many1 reader).Consumes 0 :=
  each.bind fun _ => each.many.bind fun _ => consumes_pure _

/-! ### The parts of a declaration -/

theorem length_dropText {same : Char → Char → Bool} {expected text rest : List Char}
    (dropped : dropText same expected text = some rest) :
    rest.length + expected.length = text.length := by
  fun_induction dropText same expected text with
  | case1 => rw [Option.some.inj dropped]; rfl
  | case2 => cases dropped
  | case3 a expected b text _ ih => rw [List.length_cons, List.length_cons, ← ih dropped]; rfl
  | case4 => cases dropped

theorem consumes_symbol (expected : String) : (symbol expected).Consumes expected.toList.length :=
  consumes_ofText fun text a rest taken => by
    obtain ⟨_, dropped, same⟩ := Option.map_eq_some_iff.mp taken
    cases same
    exact Nat.le_of_eq (length_dropText dropped)

theorem consumes_keyword (expected : String) :
    (keyword expected).Consumes expected.toList.length :=
  consumes_ofText fun text a rest taken => by
    obtain ⟨_, dropped, same⟩ := Option.map_eq_some_iff.mp taken
    cases same
    exact Nat.le_of_eq (length_dropText dropped)

theorem length_spanBlank (inComment : Bool) (text : List Char) :
    (spanBlank inComment text).2.length ≤ text.length := by
  induction text generalizing inComment with
  | nil => exact Nat.le_refl _
  | cons c text ih =>
      rw [spanBlank]
      split
      · exact Nat.le_succ_of_le (ih _)
      · split
        · exact Nat.le_succ_of_le (ih _)
        · split
          · exact Nat.le_succ_of_le (ih _)
          · exact Nat.le_refl _

theorem consumes_blank : blank.Consumes 0 := by
  refine Consumes.bind (consumes_ofText fun text run rest taken => ?_) fun _ => consumes_pure ()
  have short := length_spanBlank false text
  rwa [Option.some.inj taken] at short

theorem Consumes.lexeme {n : Nat} {reader : Reader α} (taken : reader.Consumes n) :
    (lexeme reader).Consumes n :=
  taken.bind fun _ => consumes_blank.bind fun _ => consumes_pure _

theorem consumes_word {expected : String} (letters : expected.toList ≠ []) :
    (word expected).Consumes 1 :=
  ((consumes_keyword expected).mono (List.length_pos_iff.mpr letters)).lexeme

theorem consumes_character (allowed : Char → Bool) : (character allowed).Consumes 0 :=
  consumes_ofText fun text c rest taken => by
    cases text with
    | nil => cases taken
    | cons d text =>
        dsimp only at taken
        split at taken
        · cases taken
          exact Nat.le_succ _
        · cases taken

theorem consumes_one (allowed : Char → Bool) : (one allowed).Consumes 0 :=
  (consumes_character allowed).bind fun _ => consumes_pure _

theorem consumes_run (allowed : Char → Bool) : (run allowed).Consumes 0 :=
  consumes_ofText fun text here rest taken => by
    rw [List.span_eq_takeWhile_dropWhile] at taken
    cases taken
    exact (List.dropWhile_suffix allowed).length_le

theorem consumes_spaceLabel : spaceLabel.Consumes 0 := by
  have dots := (consumes_character (· == '.')).many1
  have name := consumes_one isNameCharacter
  have group : (dotGroup (one isNameCharacter)).Consumes 0 :=
    dots.bind fun _ => name.many1.bind fun _ => consumes_pure _
  have dotted : (dotted (one isNameCharacter)).Consumes 0 :=
    name.many.bind fun _ => group.many.bind fun _ => consumes_pure _
  refine Consumes.bind (Consumes.orElse ?_ (consumes_pure [])) fun _ =>
    ((consumes_symbol ":").mono (Nat.zero_le _)).bind fun _ => consumes_pure _
  exact (consumes_character isNameStart).bind fun _ => dotted.bind fun _ => consumes_pure _

theorem consumes_iriReference : iriReference.Consumes 0 := by
  refine ((consumes_symbol "<").mono (Nat.zero_le _)).bind fun _ => (consumes_run _).bind fun _ =>
    ((consumes_symbol ">").mono (Nat.zero_le _)).bind fun _ => consumes_get fun _ => ?_
  split
  · exact consumes_pure _
  · exact consumes_failure 0

theorem consumes_declaration : declaration.Consumes 1 := by
  have base : baseDeclaration.Consumes 1 :=
    (consumes_word (by decide)).bind fun _ => consumes_iriReference.bind fun _ =>
      consumes_modify fun _ => rfl
  have space : spaceDeclaration.Consumes 1 :=
    (consumes_word (by decide)).bind fun _ => consumes_spaceLabel.lexeme.bind fun _ =>
      consumes_iriReference.bind fun _ => consumes_modify fun _ => rfl
  exact (base.orElse space).lexeme

/-! ## Repetitions -/

/-- A bound makes no difference as long as there is room for every character. -/
theorem outcome_upTo_congr {reader : Reader α} (taking : reader.Consumes 1)
    (ends : ∀ cursor : Cursor, cursor.rest = [] → reader.Refuses cursor) {m n : Nat}
    (cursor : Cursor) (marks : Marks) (room : cursor.rest.length ≤ m)
    (room' : cursor.rest.length ≤ n) :
    (upTo reader m).outcome cursor marks = (upTo reader n).outcome cursor marks := by
  have atEnd {cursor : Cursor} (empty : cursor.rest.length ≤ 0) (bound : Nat) (marks : Marks) :
      (upTo reader bound).outcome cursor marks = pure (some ([], cursor), marks) :=
    (ends cursor (List.eq_nil_of_length_eq_zero (Nat.le_zero.mp empty))).upTo bound marks
  induction m generalizing n cursor marks with
  | zero => rw [atEnd room, atEnd room]
  | succ m ih =>
      cases n with
      | zero => rw [atEnd room', atEnd room']
      | succ n =>
          rw [upTo, upTo, outcome_orElse, outcome_orElse, outcome_bind, outcome_bind]
          congr 1
          refine (taking cursor marks).bind_congr fun answer short => ?_
          obtain ⟨answer, marks⟩ := answer
          cases answer with
          | none => rfl
          | some answer =>
              have less : answer.2.rest.length + 1 ≤ cursor.rest.length := short answer rfl
              change (upTo reader m >>= _).outcome answer.2 marks =
                (upTo reader n >>= _).outcome answer.2 marks
              have same : (upTo reader m).outcome answer.2 marks =
                  (upTo reader n).outcome answer.2 marks :=
                ih answer.2 marks (by omega) (by omega)
              rw [outcome_bind, outcome_bind, same]

theorem every_upTo (reader : Reader α) (bound : Nat) (cursor : Cursor) (marks : Marks) :
    ((upTo reader bound).outcome cursor marks).Every fun answer => answer.1.isSome := by
  cases bound with
  | zero => exact rfl
  | succ bound =>
      rw [upTo, outcome_orElse]
      have any : ((reader >>= fun a => upTo reader bound >>= fun rest =>
          pure (a :: rest)).outcome cursor marks).Every fun _ => True :=
        .of_forall _ fun _ => trivial
      refine any.bind fun answer _ => ?_
      obtain ⟨answer, marks⟩ := answer
      cases answer <;> exact rfl

/-- The first round of a repetition whose results are not kept. -/
theorem outcome_upTo_succ {reader : Reader α} {a : α} {cursor middle : Cursor}
    (first : reader.Takes cursor a middle) (bound : Nat) (marks : Marks) :
    (upTo reader (bound + 1) >>= fun _ => pure ()).outcome cursor marks =
      (upTo reader bound >>= fun _ => pure ()).outcome middle marks := by
  rw [upTo, outcome_bind, outcome_orElse, outcome_bind, first marks, pure_bind, bind_assoc]
  change (upTo reader bound >>= fun rest => pure (a :: rest)).outcome middle marks >>= _ = _
  rw [outcome_bind, outcome_bind, bind_assoc]
  -- What follows the first round succeeds in any case, so that nothing is tried again.
  refine (every_upTo reader bound middle marks).bind_congr fun answer found => ?_
  obtain ⟨answer, marks⟩ := answer
  cases answer with
  | none => cases found
  | some answer => rfl

/-! ## The line in front -/

theorem declaration_refuses_end (cursor : Cursor) (empty : cursor.rest = []) :
    declaration.Refuses cursor := by
  have word {expected : String} (more : expected.toList ≠ []) : (word expected).Refuses cursor := by
    refine Refuses.bind (refuses_ofText ?_)
    rw [empty]
    cases letters : expected.toList with
    | nil => exact absurd letters more
    | cons c rest => rfl
  exact Refuses.bind ((word (by decide)).bind.orElseRefuses (word (by decide)).bind)

theorem spanBlank_declarationLine (label iri : String) (behind : List Char) :
    (spanBlank false ((declarationLine label iri).toList ++ behind)).2 =
      (declarationLine label iri).toList ++ behind := by
  rw [toList_declarationLine]
  rfl

/-- What comes first in every request: blanks, and the declarations of the request. -/
def opening : Reader Unit := do
  blank
  prologue

theorem opening_outcome (cursor : Cursor) (marks : Marks) :
    opening.outcome cursor marks =
      (upTo declaration (spanBlank false cursor.rest).2.length >>= fun _ => pure ()).outcome
        { cursor with rest := (spanBlank false cursor.rest).2 } marks := by
  unfold opening
  rw [outcome_bind, takes_blank]
  rfl

section Line

variable {label iri : String} (proper : isSpaceLabel label.toList = true)
  (isIri : Iri.isIri iri = true)

include proper isIri

/-- The line is passed, and its declaration has been made. -/
theorem opening_declared (cursor : Cursor) (text : List Char) (marks : Marks) :
    opening.outcome { cursor with rest := (declarationLine label iri).toList ++ text } marks =
      opening.outcome { cursor with rest := text, spaces := (label, iri) :: cursor.spaces }
        marks := by
  have line : declaration.Takes
      { cursor with rest := (declarationLine label iri).toList ++ text } ()
      { cursor with rest := (spanBlank false text).2, spaces := (label, iri) :: cursor.spaces } :=
    takes_declarationLine proper isIri rfl
  have short := length_spanBlank false text
  have room : text.length + 1 ≤ ((declarationLine label iri).toList ++ text).length := by
    rw [toList_declarationLine]
    simp only [List.length_append, List.length_cons]
    omega
  obtain ⟨bound, whole⟩ :
      ∃ bound, ((declarationLine label iri).toList ++ text).length = bound + 1 :=
    Nat.exists_eq_add_of_le' (Nat.le_of_add_left_le room)
  rw [opening_outcome, opening_outcome]
  dsimp only
  rw [spanBlank_declarationLine, whole, outcome_upTo_succ line, outcome_bind, outcome_bind]
  congr 1
  refine outcome_upTo_congr consumes_declaration declaration_refuses_end _ marks ?_ ?_
  · dsimp only
    omega
  · exact Nat.le_refl _

/-- Whatever follows the prologue, the line answers what is asked for its label. -/
theorem run?_declared {reader : Reader α} [holds : Scoped reader]
    (opens : ∃ body, reader = opening >>= fun _ => body) (base : Option String)
    (text : List Char) :
    reader.run? ((declarationLine label iri).toList ++ text) base =
      Option.map (fun (a, cursor) => (a, cursor.under label iri)) <$>
        (reader.run? text base).declare label iri := by
  have passed : reader.outcome (.start ((declarationLine label iri).toList ++ text) base) .none =
      reader.outcome ((Cursor.start text base).under label iri) .none := by
    obtain ⟨body, rfl⟩ := opens
    rw [outcome_bind, outcome_bind]
    exact congrArg (· >>= _) (opening_declared proper isIri (Cursor.start text base) text .none)
  unfold Reader.run?
  rw [passed, holds.outcome_under, Consultation.declare_bind, map_eq_pure_bind, bind_assoc,
    map_eq_pure_bind, bind_assoc]
  refine congrArg _ (funext fun answer => ?_)
  obtain ⟨answer, marks⟩ := answer
  cases answer with
  | none => rfl
  | some answer =>
      refine congrArg Consultation.done ?_
      change Option.filter _ (some (answer.1, answer.2.under label iri)) =
        Option.map _ (Option.filter _ (some answer))
      rw [Option.filter_some, Option.filter_some]
      change (if answer.2.rest.isEmpty = true then _ else _) = _
      split <;> rfl

theorem query_declared (base : Option String) (text : String) :
    query base (declarationLine label iri ++ text) = (query base text).declare label iri := by
  have opens : ∃ body, queryRequest = opening >>= fun _ => body := ⟨_, (bind_assoc _ _ _).symm⟩
  have read := run?_declared proper isIri opens base text.toList
  unfold query
  rw [String.toList_append, read, Consultation.declare_bind, map_eq_pure_bind, bind_assoc]
  refine congrArg _ (funext fun answer => ?_)
  cases answer <;> rfl

theorem update_declared (base : Option String) (text : String) :
    update base (declarationLine label iri ++ text) = (update base text).declare label iri := by
  have opens : ∃ body, updateRequest = opening >>= fun _ => body := ⟨_, (bind_assoc _ _ _).symm⟩
  have read := run?_declared proper isIri opens base text.toList
  unfold update
  rw [String.toList_append, read, Consultation.declare_bind, map_eq_pure_bind, bind_assoc]
  refine congrArg _ (funext fun answer => ?_)
  cases answer <;> rfl

end Line

end RdfDataset.Sparql.Reader
