import RdfDataset.Memory
import RdfDataset.Proofs.Execution.Agreement
import RdfDataset.Proofs.Namespace

/-!
# Abbreviated names

A namespace label abbreviates the namespace of its last declaration. `Expands` relates what is
written with abbreviations to the same thing written in full, level by level from a URI to a whole
request: declared labels are replaced, and nothing needs to be declared any more. Labels that are
not declared stay, unless the lenient policy takes the suffix of a datatype for its name.

A request and the same request in full are executed alike in every world.
-/

set_option autoImplicit false

namespace RdfDataset

section Terms

variable (policy : DatatypePolicy) (prologue : Prologue)

inductive Uri.Expands : Uri → Uri → Prop
  | full (text : String) : Expands (.absolute text) (.absolute text)
  | declared {label suffix space : String} (known : prologue.space? label = some space) :
      Expands (.prefixed label suffix) (.absolute (space ++ suffix))
  | undeclared {label suffix : String} (unknown : prologue.space? label = none) :
      Expands (.prefixed label suffix) (.prefixed label suffix)

/-- A datatype that is written in full may be marked as resolved. -/
inductive Datatype.Expands : Datatype → Datatype → Prop
  | absolute (text : String) : Expands (.absolute text) (.absolute text)
  | resolved (text : String) : Expands (.resolved text) (.resolved text)
  | declared {label suffix space : String} (known : prologue.space? label = some space) :
      Expands (.prefixed label suffix) (.absolute (space ++ suffix))
  | declaredResolved {label suffix space : String} (known : prologue.space? label = some space) :
      Expands (.prefixed label suffix) (.resolved (space ++ suffix))
  | lenient {label suffix : String} (unknown : prologue.space? label = none)
      (lenient : policy = .lenient) : Expands (.prefixed label suffix) (.absolute suffix)
  | strict {label suffix : String} (unknown : prologue.space? label = none)
      (strict : policy = .strict) : Expands (.prefixed label suffix) (.prefixed label suffix)

structure Literal.Expands (literal full : Literal) : Prop where
  value_eq : full.value = literal.value
  language_eq : full.language = literal.language
  datatype : Option.Rel (Datatype.Expands policy prologue) literal.datatype full.datatype

inductive Term.Expands : Term → Term → Prop
  | uri {uri full : Uri} (expands : uri.Expands prologue full) : Expands (.uri uri) (.uri full)
  | literal {literal full : Literal} (expands : literal.Expands policy prologue full) :
      Expands (.literal literal) (.literal full)
  | blankNode (label : String) : Expands (.blankNode label) (.blankNode label)

structure Quad.Expands (quad full : Quad) : Prop where
  subject : quad.subject.Expands policy prologue full.subject
  predicate : quad.predicate.Expands policy prologue full.predicate
  object : quad.object.Expands policy prologue full.object
  graph : Option.Rel (Term.Expands policy prologue) quad.graph full.graph

/-- Only insertions of data have anything to write in full. -/
inductive Operation.Expands :
    Except ParseError Operation → Except ParseError Operation → Prop
  | insertData {quads full : List Quad}
      (expands : List.Forall₂ (Quad.Expands policy prologue) quads full) :
      Expands (.ok (.insertData quads)) (.ok (.insertData full))
  | other {reading : Except ParseError Operation}
      (other : ∀ quads, reading ≠ .ok (.insertData quads)) : Expands reading reading

end Terms

/-- The second request is the first one in full. Its units may have another form, as long as they
are read as the units of the first one in full. -/
structure RequestTree.Expands {υ υ' : Type} (policy : DatatypePolicy)
    (operationOf : υ → Except ParseError Operation)
    (operationOf' : υ' → Except ParseError Operation) (tree : RequestTree υ)
    (full : RequestTree υ') : Prop where
  token_eq : full.token = tree.token
  kind_eq : full.kind = tree.kind
  prologue_eq : full.prologue = { tree.prologue with prefixes := [] }
  units : List.Forall₂
    (fun unit unit' =>
      Operation.Expands policy tree.prologue (operationOf unit) (operationOf' unit'))
    tree.units full.units

/-! ## Everything can be written in full -/

section Existence

variable (policy : DatatypePolicy) (prologue : Prologue)

theorem Uri.exists_expands (uri : Uri) : ∃ full, uri.Expands prologue full := by
  cases uri with
  | absolute text => exact ⟨_, .full text⟩
  | prefixed label suffix =>
      cases declared : prologue.space? label with
      | none => exact ⟨_, .undeclared declared⟩
      | some space => exact ⟨_, .declared declared⟩

theorem Datatype.exists_expands (datatype : Datatype) :
    ∃ full, datatype.Expands policy prologue full := by
  cases datatype with
  | absolute text => exact ⟨_, .absolute text⟩
  | resolved text => exact ⟨_, .resolved text⟩
  | prefixed label suffix =>
      cases declared : prologue.space? label with
      | some space => exact ⟨_, .declared declared⟩
      | none =>
          cases policy with
          | strict => exact ⟨_, .strict declared rfl⟩
          | lenient => exact ⟨_, .lenient declared rfl⟩

theorem exists_option_rel {α : Type} {related : α → α → Prop}
    (each : ∀ a, ∃ b, related a b) (written : Option α) :
    ∃ full, Option.Rel related written full := by
  cases written with
  | none => exact ⟨none, .none⟩
  | some a =>
      obtain ⟨b, here⟩ := each a
      exact ⟨some b, .some here⟩

theorem Term.exists_expands (term : Term) : ∃ full, term.Expands policy prologue full := by
  cases term with
  | uri uri =>
      obtain ⟨full, expands⟩ := uri.exists_expands prologue
      exact ⟨_, .uri expands⟩
  | literal literal =>
      obtain ⟨datatype, expands⟩ :=
        exists_option_rel (Datatype.exists_expands policy prologue) literal.datatype
      exact ⟨.literal { literal with datatype }, .literal ⟨rfl, rfl, expands⟩⟩
  | blankNode label => exact ⟨_, .blankNode label⟩

theorem Quad.exists_expands (quad : Quad) : ∃ full, quad.Expands policy prologue full := by
  obtain ⟨subject, subjectExpands⟩ := quad.subject.exists_expands policy prologue
  obtain ⟨predicate, predicateExpands⟩ := quad.predicate.exists_expands policy prologue
  obtain ⟨object, objectExpands⟩ := quad.object.exists_expands policy prologue
  obtain ⟨graph, graphExpands⟩ :=
    exists_option_rel (Term.exists_expands policy prologue) quad.graph
  exact ⟨⟨subject, predicate, object, graph⟩,
    ⟨subjectExpands, predicateExpands, objectExpands, graphExpands⟩⟩

theorem exists_forall₂ {α β : Type} {related : α → β → Prop} (each : ∀ a, ∃ b, related a b)
    (written : List α) : ∃ full, List.Forall₂ related written full := by
  choose expand here using each
  exact ⟨written.map expand,
    List.forall₂_map_right_iff.mpr (List.forall₂_same.mpr fun a _ => here a)⟩

theorem Operation.exists_expands (reading : Except ParseError Operation) :
    ∃ full, Operation.Expands policy prologue reading full := by
  by_cases inserts : ∃ quads, reading = .ok (.insertData quads)
  · obtain ⟨quads, rfl⟩ := inserts
    obtain ⟨full, expands⟩ := exists_forall₂ (Quad.exists_expands policy prologue) quads
    exact ⟨_, .insertData expands⟩
  · exact ⟨reading, .other fun quads same => inserts ⟨quads, same⟩⟩

theorem RequestTree.exists_expands {υ : Type} (operationOf : υ → Except ParseError Operation)
    (tree : RequestTree υ) :
    ∃ full : RequestTree (Except ParseError Operation),
      tree.Expands policy operationOf id full := by
  obtain ⟨units, expands⟩ := exists_forall₂
    (fun unit => Operation.exists_expands policy tree.prologue (operationOf unit)) tree.units
  exact ⟨⟨tree.token, tree.kind, { tree.prologue with prefixes := [] }, units⟩,
    ⟨rfl, rfl, rfl, expands⟩⟩

end Existence

/-! ## What is written in full means the same -/

section Entries

variable {literals : LiteralOptions} {prologue : Prologue}

theorem Literal.canonical_expands {literal full : Literal}
    (expands : literal.Expands literals.datatypePolicy prologue full) :
    literal.canonical literals (.ofPrologue prologue) = full.canonical literals .empty := by
  obtain ⟨value, language, datatype⟩ := literal
  obtain ⟨_, _, full⟩ := full
  obtain ⟨rfl, rfl, expands⟩ := expands
  cases expands with
  | none => rfl
  | some expands =>
      have space := Namespaces.resolve?_ofPrologue prologue
      cases expands with
      | absolute text => rfl
      | resolved text => rfl
      | declared known => simp [canonical, datatypeSpace, space, known, Except.map]
      | declaredResolved known => simp [canonical, datatypeSpace, space, known, Except.map]
      | lenient unknown lenient =>
          simp [canonical, datatypeSpace, space, unknown, lenient, Except.map]
      | strict unknown strict =>
          simp [canonical, datatypeSpace, space, unknown, strict, Namespaces.resolve?_empty]

theorem Term.Expands.entry_eq {term full : Term}
    (expands : term.Expands literals.datatypePolicy prologue full) :
    Setting.entry ⟨literals, .ofPrologue prologue⟩ term =
      Setting.entry ⟨literals, .empty⟩ full := by
  have space := Namespaces.resolve?_ofPrologue prologue
  cases expands with
  | blankNode label => rfl
  | literal expands =>
      simp only [Setting.entry, Term.entry, Literal.canonical_expands expands]
  | uri expands =>
      cases expands with
      | full text => rfl
      | declared known => simp [Setting.entry, Term.entry, space, known]
      | undeclared unknown =>
          simp [Setting.entry, Term.entry, space, unknown, Namespaces.resolve?_empty]

theorem Quad.Expands.agree {quad full : Quad}
    (expands : quad.Expands literals.datatypePolicy prologue full) :
    quad.Agree ⟨literals, .ofPrologue prologue⟩ ⟨literals, .empty⟩ full where
  subject := expands.subject.entry_eq
  predicate := expands.predicate.entry_eq
  object := expands.object.entry_eq
  graph := by
    have graph := expands.graph
    cases named : quad.graph <;> cases named' : full.graph <;> rw [named, named'] at graph
    case none.none => rfl
    case some.some term full =>
      cases graph with
      | some expands => rw [Setting.graphEntry, Setting.graphEntry, expands.entry_eq]
    all_goals cases graph

theorem Operation.Expands.alike {reading full : Except ParseError Operation}
    (expands : Operation.Expands literals.datatypePolicy prologue reading full) :
    Update.Alike ⟨literals, .ofPrologue prologue⟩ ⟨literals, .empty⟩ reading full := by
  cases expands with
  | insertData expands => exact .insertData (expands.imp fun _ _ => Quad.Expands.agree)
  | other other => exact .same other

end Entries

/-! ## Execution -/

namespace Update

variable {σ υ υ' : Type}

theorem execute_expands (world : World σ) {literals : LiteralOptions}
    {operationOf : υ → Except ParseError Operation}
    {operationOf' : υ' → Except ParseError Operation} {tree : RequestTree υ}
    {full : RequestTree υ'}
    (expands : tree.Expands literals.datatypePolicy operationOf operationOf' full) (state : σ) :
    execute world literals operationOf tree state =
      execute world literals operationOf' full state := by
  have bare : Namespaces.ofPrologue full.prologue = .empty := by
    rw [expands.prologue_eq]
    rfl
  rw [execute, execute, bare]
  exact executeUnits_alike world
    (expands.units.imp fun _ _ => Operation.Expands.alike) 0 .zero state

/-- Every request can be written in full, and however that is done, nothing changes: in every world
and under every token the calls and their answers, the state that is left and the result are those
of the request with its abbreviations. -/
theorem execute_abbreviated (world : World σ) (token : Record σ → Bool) (literals : LiteralOptions)
    (operationOf : υ → Except ParseError Operation) (tree : RequestTree υ) :
    (∃ full : RequestTree (Except ParseError Operation),
        tree.Expands literals.datatypePolicy operationOf id full) ∧
      ∀ (υ' : Type) (operationOf' : υ' → Except ParseError Operation) (full : RequestTree υ'),
        tree.Expands literals.datatypePolicy operationOf operationOf' full →
          (∀ state, execute world literals operationOf tree state =
            execute world literals operationOf' full state) ∧
          ∀ record, execute (world.recorded token) literals operationOf tree record =
            execute (world.recorded token) literals operationOf' full record := by
  refine ⟨tree.exists_expands literals.datatypePolicy operationOf, ?_⟩
  intro υ' operationOf' full expands
  constructor
  · intro state
    exact execute_expands world expands state
  · intro record
    exact execute_expands (world.recorded token) expands record

/-- Two quads under a label that is declared twice and one that is not declared. -/
def shortened : RequestTree Operation :=
  .update ⟨none, [("e", "http://old/"), ("e", "http://e/")]⟩
    [.insertData
      [⟨.uri (.prefixed "e" "s"), .uri (.absolute "http://p"),
          .literal ⟨"1", none, some (.prefixed "e" "int")⟩, none⟩,
        ⟨.uri (.prefixed "x" "s"), .uri (.absolute "http://p"),
          .literal ⟨"2", none, some (.prefixed "x" "int")⟩, some (.uri (.prefixed "e" "g"))⟩],
      .clear]

/-- The same quads in full. The subject of the second one cannot be resolved. -/
def unshortened : RequestTree Operation :=
  .update {}
    [.insertData
      [⟨.uri (.absolute "http://e/s"), .uri (.absolute "http://p"),
          .literal ⟨"1", none, some (.resolved "http://e/int")⟩, none⟩,
        ⟨.uri (.prefixed "x" "s"), .uri (.absolute "http://p"),
          .literal ⟨"2", none, some (.absolute "int")⟩, some (.uri (.absolute "http://e/g"))⟩],
      .clear]

theorem shortened_expands : shortened.Expands .lenient .ok .ok unshortened := by
  have declared : shortened.prologue.space? "e" = some "http://e/" := by decide
  have undeclared : shortened.prologue.space? "x" = none := by decide
  refine ⟨rfl, rfl, rfl, .cons (.insertData (.cons ?_ (.cons ?_ .nil))) (.cons (.other ?_) .nil)⟩
  · exact
      { subject := .uri (.declared declared)
        predicate := .uri (.full _)
        object := .literal ⟨rfl, rfl, .some (.declaredResolved declared)⟩
        graph := .none }
  · exact
      { subject := .uri (.undeclared undeclared)
        predicate := .uri (.full _)
        object := .literal ⟨rfl, rfl, .some (.lenient undeclared rfl)⟩
        graph := .some (.uri (.declared declared)) }
  · rintro quads ⟨⟩

theorem execute_abbreviated_shortened :
    shortened.Expands .lenient .ok .ok unshortened ∧
      (execute ((Memory.world false).recorded Record.never) ⟨.language, .lenient⟩ .ok shortened
          (.start .empty)).1 =
        .error (.quadInsertion 0 1 (.normalization .subject (.unresolvedPrefix "x"))) ∧
      execute ((Memory.world false).recorded Record.never) ⟨.language, .lenient⟩ .ok shortened
          (.start .empty) =
        execute ((Memory.world false).recorded Record.never) ⟨.language, .lenient⟩ .ok unshortened
          (.start .empty) :=
  ⟨shortened_expands, by decide +kernel,
    ((execute_abbreviated (Memory.world false) Record.never ⟨.language, .lenient⟩ .ok
      shortened).2 Operation .ok unshortened shortened_expands).2 (.start .empty)⟩

end Update

end RdfDataset
