import RdfDataset.Proofs.Sparql.Conversion
import RdfDataset.Proofs.Sparql.Yield

/-!
# Operations that the grammar finds

Of all readers of operations only the one for data reads quads to insert, and what it reads is made
of nodes. The grammar has no quoted triples.
-/

set_option autoImplicit false

namespace RdfDataset.Sparql

/-! ## Quads -/

theorem Node.isPlain_of_term? {node : Node} {term : Parsed.Term} (read : node.term? = some term) :
    term.IsPlain := by
  cases node <;> cases read <;> exact fun _ same => nomatch same

theorem Node.isPlain_of_subject? {node : Node} {subject : Parsed.Subject}
    (read : node.subject? = some subject) : subject.term.IsPlain := by
  cases node <;> cases read <;> exact fun _ same => nomatch same

theorem QuadPattern.isPlain_of_data? {pattern : QuadPattern} {quad : Parsed.Quad}
    (read : pattern.data? = some quad) : quad.IsPlain := by
  unfold data? at read
  obtain ⟨subject, subjectRead, read⟩ := Option.bind_eq_some_iff.mp read
  obtain ⟨predicate, -, read⟩ := Option.bind_eq_some_iff.mp read
  obtain ⟨object, objectRead, read⟩ := Option.bind_eq_some_iff.mp read
  obtain ⟨graph, -, read⟩ := Option.bind_eq_some_iff.mp read
  cases read
  exact ⟨Node.isPlain_of_subject? subjectRead, Node.isPlain_of_term? objectRead⟩

theorem QuadPattern.isPlain_of_mapM {patterns : List QuadPattern} {quads : List Parsed.Quad}
    (read : patterns.mapM data? = some quads) : ∀ quad ∈ quads, quad.IsPlain := by
  induction patterns generalizing quads with
  | nil =>
      cases read
      exact List.forall_mem_nil _
  | cons first rest ih =>
      rw [List.mapM_cons] at read
      obtain ⟨quad, here, read⟩ := Option.bind_eq_some_iff.mp read
      obtain ⟨quads', behind, read⟩ := Option.bind_eq_some_iff.mp read
      cases read
      exact List.forall_mem_cons.mpr ⟨isPlain_of_data? here, ih behind⟩

namespace Reader

theorem dataBlock_yields : dataBlock.Yields fun quads => ∀ quad ∈ quads, quad.IsPlain := by
  refine yields_bind fun patterns => ?_
  cases read : patterns.mapM QuadPattern.data? with
  | none => exact yields_failure
  | some quads => exact yields_pure (QuadPattern.isPlain_of_mapM read)

/-! ## Operations -/

/-- The property of all readers of operations. -/
abbrev YieldsPlain (reader : Reader (List Parsed.Operation)) : Prop :=
  reader.Yields fun units => ∀ unit ∈ units, unit.IsPlain

theorem yieldsPlain_single {unit : Parsed.Operation} (plain : unit.IsPlain) :
    YieldsPlain (pure [unit]) :=
  yields_pure (List.forall_mem_singleton.mpr plain)

theorem load_yieldsPlain : YieldsPlain load :=
  yields_bind fun _ => yields_bind fun _ => yields_bind fun _ => yields_bind fun _ =>
    yieldsPlain_single trivial

theorem clear_yieldsPlain : YieldsPlain clear :=
  yields_bind fun _ => yields_bind fun _ => yields_bind fun _ => yieldsPlain_single trivial

theorem drop_yieldsPlain : YieldsPlain drop :=
  yields_bind fun _ => yields_bind fun _ => yields_bind fun _ => yieldsPlain_single trivial

theorem create_yieldsPlain : YieldsPlain create :=
  yields_bind fun _ => yields_bind fun _ => yields_bind fun _ => yieldsPlain_single trivial

theorem transfer_yieldsPlain (name : String) {units : List Parsed.Operation}
    (plain : ∀ unit ∈ units, unit.IsPlain) : YieldsPlain (transfer name units) := by
  refine yields_bind fun _ => yields_bind fun _ => yields_bind fun source => yields_bind fun _ =>
    yields_bind fun target => yields_pure ?_
  split
  · exact List.forall_mem_nil _
  · exact plain

theorem insertData_yieldsPlain : YieldsPlain insertData :=
  yields_bind fun _ => yields_bind fun _ => dataBlock_yields.bind fun _ plain =>
    yieldsPlain_single plain

theorem deleteData_yieldsPlain : YieldsPlain deleteData :=
  yields_bind fun _ => yields_bind fun _ => yields_bind fun _ => yieldsPlain_single trivial

theorem deleteWhere_yieldsPlain : YieldsPlain deleteWhere :=
  yields_bind fun _ => yields_bind fun _ => yields_bind fun _ => yieldsPlain_single trivial

theorem modification_yieldsPlain : YieldsPlain modification :=
  yields_bind fun _ => yields_bind fun _ => yields_bind fun _ => yields_bind fun _ =>
    yields_bind fun _ => yields_bind fun _ => yields_bind fun _ => yieldsPlain_single trivial

theorem operation_yieldsPlain : YieldsPlain operation := by
  refine yields_oneOf ?_
  simp only [List.forall_mem_cons]
  refine ⟨load_yieldsPlain, clear_yieldsPlain, drop_yieldsPlain, transfer_yieldsPlain _ ?_,
    transfer_yieldsPlain _ ?_, transfer_yieldsPlain _ ?_, create_yieldsPlain,
    insertData_yieldsPlain, deleteData_yieldsPlain, deleteWhere_yieldsPlain,
    modification_yieldsPlain, List.forall_mem_nil _⟩
  all_goals simp [Parsed.Operation.IsPlain]

theorem updateRequest_yieldsPlain : YieldsPlain updateRequest := by
  refine yields_bind fun _ => yields_bind fun _ =>
    (operation_yieldsPlain.separated _).bind fun groups plain => yields_bind fun _ =>
      yields_bind fun _ => yields_pure ?_
  intro unit member
  obtain ⟨group, here, inside⟩ := List.mem_flatten.mp member
  exact plain group here unit inside

end Reader

/-! ## Texts -/

theorem grammar_insertsPlain : grammar.InsertsPlain := by
  intro base text update read
  have each := (Reader.updateRequest_yieldsPlain.run? text.toList base).alone
  change (Reader.update base text).alone = some update at read
  rw [Reader.update, Consultation.alone_bind] at read
  obtain ⟨answer, found, rfl⟩ := Option.map_eq_some_iff.mp read
  exact each answer found

end RdfDataset.Sparql
