import Mathlib.Data.List.TakeDrop
import Mathlib.Data.List.TakeWhile
import RdfDataset.Sparql.Name
import RdfDataset.Proofs.Sparql.Yield

/-!
# What readers do at one place

A reader takes a text at a place if it succeeds there whatever the marks are, leaves them, and asks
nothing. It refuses a place if it fails there in the same way. One rule for each way of making
readers follows the reading of a text that is known.
-/

set_option autoImplicit false

namespace RdfDataset.Sparql.Reader

variable {α β : Type}

def Takes (reader : Reader α) (cursor : Cursor) (a : α) (behind : Cursor) : Prop :=
  ∀ marks, reader.outcome cursor marks = pure (some (a, behind), marks)

def Refuses (reader : Reader α) (cursor : Cursor) : Prop :=
  ∀ marks, reader.outcome cursor marks = pure (none, marks)

/-! ## Sequences and choices -/

section

variable {cursor middle behind : Cursor} {a : α} {b : β}

theorem takes_pure : (pure a : Reader α).Takes cursor a cursor :=
  fun _ => rfl

theorem Takes.bind {reader : Reader β} {next : β → Reader α} (first : reader.Takes cursor b middle)
    (rest : (next b).Takes middle a behind) : (reader >>= next).Takes cursor a behind := by
  intro marks
  rw [outcome_bind, first marks]
  exact rest marks

theorem Refuses.bind {reader : Reader β} {next : β → Reader α} (first : reader.Refuses cursor) :
    (reader >>= next).Refuses cursor := by
  intro marks
  rw [outcome_bind, first marks]
  rfl

theorem Takes.orElse {first second : Reader α} (left : first.Takes cursor a behind) :
    (first <|> second).Takes cursor a behind := by
  intro marks
  rw [outcome_orElse, left marks]
  rfl

theorem Refuses.orElse {first second : Reader α} (left : first.Refuses cursor)
    (right : second.Takes cursor a behind) : (first <|> second).Takes cursor a behind := by
  intro marks
  rw [outcome_orElse, left marks]
  exact right marks

theorem Refuses.orElseRefuses {first second : Reader α} (left : first.Refuses cursor)
    (right : second.Refuses cursor) : (first <|> second).Refuses cursor := by
  intro marks
  rw [outcome_orElse, left marks]
  exact right marks

end

/-! ## Single steps -/

theorem outcome_get (next : Cursor → Reader α) (cursor : Cursor) (marks : Marks) :
    (get >>= next).outcome cursor marks = (next cursor).outcome cursor marks := rfl

theorem outcome_ofText (step : List Char → Option (α × List Char)) (cursor : Cursor)
    (marks : Marks) :
    (ofText step).outcome cursor marks =
      pure ((step cursor.rest).map fun (a, rest) => (a, { cursor with rest }), marks) := by
  unfold ofText
  rw [outcome_get]
  cases step cursor.rest <;> rfl

theorem takes_ofText {step : List Char → Option (α × List Char)} {cursor : Cursor} {a : α}
    {rest : List Char} (taken : step cursor.rest = some (a, rest)) :
    (ofText step).Takes cursor a { cursor with rest } := by
  intro marks
  rw [outcome_ofText, taken]
  rfl

theorem refuses_ofText {step : List Char → Option (α × List Char)} {cursor : Cursor}
    (refused : step cursor.rest = none) : (ofText step).Refuses cursor := by
  intro marks
  rw [outcome_ofText, refused]
  rfl

theorem takes_blank (cursor : Cursor) :
    blank.Takes cursor () { cursor with rest := (spanBlank false cursor.rest).2 } :=
  (takes_ofText rfl).bind takes_pure

theorem dropText_append {same : Char → Char → Bool} (reflexive : ∀ c, same c c = true)
    (expected rest : List Char) : dropText same expected (expected ++ rest) = some rest := by
  induction expected with
  | nil => rfl
  | cons c expected ih => rw [List.cons_append, dropText, if_pos (reflexive c), ih]

theorem takes_symbol {expected : String} {cursor : Cursor} {rest : List Char}
    (text : cursor.rest = expected.toList ++ rest) :
    (symbol expected).Takes cursor () { cursor with rest } :=
  takes_ofText (by rw [text, dropText_append (fun c => beq_self_eq_true c), Option.map_some])

theorem takes_keyword {expected : String} {cursor : Cursor} {rest : List Char}
    (text : cursor.rest = expected.toList ++ rest) :
    (keyword expected).Takes cursor () { cursor with rest } := by
  have reflexive : ∀ c, (fun a b : Char => a.toLower == b.toLower) c c = true :=
    fun c => beq_self_eq_true c.toLower
  exact takes_ofText (by rw [text, dropText_append reflexive, Option.map_some])

theorem takes_run {allowed : Char → Bool} {cursor : Cursor} {here rest : List Char}
    (text : cursor.rest = here ++ rest) (all : ∀ c ∈ here, allowed c = true)
    (ends : ∀ c ∈ rest.head?, allowed c = false) :
    (run allowed).Takes cursor here { cursor with rest } := by
  refine takes_ofText ?_
  rw [text, List.span_eq_takeWhile_dropWhile, List.takeWhile_append_of_pos all,
    List.dropWhile_append_of_pos all]
  cases rest with
  | nil => simp
  | cons c rest =>
      have other := ends c rfl
      rw [List.takeWhile_cons_of_neg (by simp [other]), List.append_nil,
        List.dropWhile_cons_of_neg (by simp [other])]

theorem Refuses.upTo {reader : Reader α} {cursor : Cursor} (refuses : reader.Refuses cursor)
    (bound : Nat) : (upTo reader bound).Takes cursor [] cursor := by
  cases bound with
  | zero => exact takes_pure
  | succ bound => exact refuses.bind.orElse takes_pure

/-! ## Runs of characters -/

/-- The reader takes single characters of a class, and makes something of each. -/
structure Picks (reader : Reader α) (allowed : Char → Bool) (f : Char → α) : Prop where
  takes {cursor : Cursor} {c : Char} {rest : List Char} (text : cursor.rest = c :: rest)
    (here : allowed c = true) : reader.Takes cursor (f c) { cursor with rest }
  refuses {cursor : Cursor} (ends : ∀ c ∈ cursor.rest.head?, allowed c = false) :
    reader.Refuses cursor

theorem picks_character (allowed : Char → Bool) : Picks (character allowed) allowed id where
  takes text here := takes_ofText (by rw [text]; exact if_pos here)
  refuses {cursor} ends := refuses_ofText (by
    cases text : cursor.rest with
    | nil => rfl
    | cons c rest =>
        rw [text] at ends
        exact if_neg (by simp [ends c rfl]))

theorem picks_one (allowed : Char → Bool) : Picks (one allowed) allowed fun c => [c] where
  takes text here := ((picks_character allowed).takes text here).bind takes_pure
  refuses ends := ((picks_character allowed).refuses ends).bind

section Runs

variable {reader : Reader α} {allowed : Char → Bool} {f : Char → α}

theorem Picks.upTo (picks : Picks reader allowed f) {here rest : List Char}
    (all : ∀ c ∈ here, allowed c = true) (ends : ∀ c ∈ rest.head?, allowed c = false)
    {cursor : Cursor} (text : cursor.rest = here ++ rest) {bound : Nat}
    (room : here.length ≤ bound) :
    (upTo reader bound).Takes cursor (here.map f) { cursor with rest } := by
  induction here generalizing cursor bound with
  | nil =>
      have refuses : reader.Refuses cursor := picks.refuses (by rw [text]; exact ends)
      rw [show { cursor with rest } = cursor by rw [← List.nil_append rest, ← text]]
      exact refuses.upTo bound
  | cons c here ih =>
      rw [List.forall_mem_cons] at all
      cases bound with
      | zero => cases room
      | succ bound =>
          have more : (Reader.upTo reader bound).Takes { cursor with rest := here ++ rest }
              (here.map f) { cursor with rest } := ih all.2 rfl (Nat.le_of_succ_le_succ room)
          refine ((picks.takes text all.1).bind ?_).orElse
          exact more.bind takes_pure

theorem Picks.many (picks : Picks reader allowed f) {here rest : List Char}
    (all : ∀ c ∈ here, allowed c = true) (ends : ∀ c ∈ rest.head?, allowed c = false)
    {cursor : Cursor} (text : cursor.rest = here ++ rest) :
    (many reader).Takes cursor (here.map f) { cursor with rest } := by
  intro marks
  have room : here.length ≤ cursor.rest.length := by
    rw [text, List.length_append]
    exact Nat.le_add_right _ _
  exact picks.upTo all ends text room marks

theorem Picks.many1 (picks : Picks reader allowed f) {c : Char} {here rest : List Char}
    (all : ∀ d ∈ c :: here, allowed d = true) (ends : ∀ c ∈ rest.head?, allowed c = false)
    {cursor : Cursor} (text : cursor.rest = c :: here ++ rest) :
    (many1 reader).Takes cursor ((c :: here).map f) { cursor with rest } := by
  rw [List.forall_mem_cons] at all
  have more : (Reader.many reader).Takes { cursor with rest := here ++ rest } (here.map f)
      { cursor with rest } := picks.many all.2 ends rfl
  refine (picks.takes text all.1).bind ?_
  exact more.bind takes_pure

end Runs

end RdfDataset.Sparql.Reader
