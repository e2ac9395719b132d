import Mathlib.Algebra.Group.End
import RdfDataset.Proofs.Sparql.BlankLabel
import RdfDataset.Proofs.Sparql.Opening

/-!
# Configured prefixes

A request is read with the configured prefixes declared in front of it. If their labels follow the
grammar, and the request asks for none of them in vain, then this makes no difference to what is
read: the request is read in the same way as without them, or fails in the same way. Labels are not
checked, and one that is no label makes every request fail.
-/

set_option autoImplicit false

namespace RdfDataset.Sparql

/-- How a library reads texts. A text asks for the labels that it uses and does not declare before
it uses them; a declaration in front of it, which is earlier than all of its own, answers what is
asked for its label, with an IRI that the library makes of the one declared. The labels of blank
nodes are up to the library at every text. -/
structure Library.Reading (library : Library) where
  query : Option String → String → Consultation Bool
  update : Option String → String → Consultation (Option Parsed.Update)
  isQuery_eq (base : Option String) (text : String) :
    library.isQuery base text = (query base text).alone
  update?_eq (base : Option String) (text : String) : ∃ rename : Equiv.Perm String,
    library.update? base text = (update base text).alone.map (Parsed.Update.relabel rename)
  query_declared (base : Option String) {label iri : String} (text : String) :
    isSpaceLabel label.toList = true → library.isIri iri = true →
      ∃ space,
        query base (declarationLine label iri ++ text) = (query base text).declare label space
  update_declared (base : Option String) {label iri : String} (text : String) :
    isSpaceLabel label.toList = true → library.isIri iri = true →
      ∃ space,
        update base (declarationLine label iri ++ text) = (update base text).declare label space

namespace Library.Reading

variable {library : Library} (reading : library.Reading)

/-- The labels that are asked for in vain when a text is read by itself. Only a text that is no
query is read as an update. -/
def missed (base : Option String) (text : String) : List String :=
  (reading.query base text).missed
    ++ if (reading.query base text).alone then [] else (reading.update base text).missed

/-- A label that a text declares first is not missed. -/
theorem not_mem_missed_declared {label iri : String} (proper : isSpaceLabel label.toList = true)
    (isIri : library.isIri iri = true) (base : Option String) (text : String) :
    label ∉ reading.missed base (declarationLine label iri ++ text) := by
  obtain ⟨_, query⟩ := reading.query_declared base text proper isIri
  obtain ⟨_, update⟩ := reading.update_declared base text proper isIri
  rw [missed, query, update, List.mem_append, not_or]
  refine ⟨Consultation.not_mem_missed_declare _ _ _, ?_⟩
  split
  · exact List.not_mem_nil
  · exact Consultation.not_mem_missed_declare _ _ _

/-- Of two texts whose readings come to the same, the library finds the same update, up to labels
of blank nodes. -/
theorem update?_of_alone_eq {base : Option String} {text text' : String}
    (same : (reading.update base text).alone = (reading.update base text').alone) :
    ∃ rename : Equiv.Perm String,
      library.update? base text =
        (library.update? base text').map (Parsed.Update.relabel rename) := by
  obtain ⟨rename, before⟩ := reading.update?_eq base text'
  obtain ⟨rename', behind⟩ := reading.update?_eq base text
  refine ⟨rename' * rename⁻¹, ?_⟩
  have chosen : ⇑(rename' * rename⁻¹) ∘ ⇑rename = ⇑rename' := by
    rw [← Equiv.Perm.coe_mul, inv_mul_cancel_right]
  rw [behind, before, same, Option.map_map]
  refine congrArg (Option.map · _) (funext fun update => ?_)
  rw [Function.comp_apply, Parsed.Update.relabel_relabel, chosen]

end Library.Reading

/-! ## Declarations in front of a text -/

section

variable {α : Type} {library : Library} {read : String → Consultation α}
  (declared : ∀ {label iri : String} (text : String), isSpaceLabel label.toList = true →
    library.isIri iri = true → ∃ space, read (declarationLine label iri ++ text) =
      (read text).declare label space)

include declared

/-- Declarations for which the text does not ask change neither what it asks for nor what comes of
it. -/
theorem read_declarations {options : TextOptions}
    (labels : ∀ declaration ∈ options.prefixes, isSpaceLabel declaration.1.toList = true)
    (iris : ∀ declaration ∈ options.prefixes, library.isIri declaration.2 = true) {text : String}
    (found : ∀ declaration ∈ options.prefixes, declaration.1 ∉ (read text).missed) :
    (read (declarations options ++ text)).missed = (read text).missed ∧
      (read (declarations options ++ text)).alone = (read text).alone := by
  obtain ⟨base, prefixes⟩ := options
  induction prefixes with
  | nil => exact ⟨rfl, rfl⟩
  | cons first rest ih =>
      obtain ⟨label, iri⟩ := first
      rw [List.forall_mem_cons] at labels iris found
      obtain ⟨missed, alone⟩ := ih labels.2 iris.2 found.2
      have line : declarations ⟨base, (label, iri) :: rest⟩ ++ text =
          declarationLine label iri ++ (declarations ⟨base, rest⟩ ++ text) := by
        rw [declarations, List.map_cons, String.join_cons, String.append_assoc]
        rfl
      obtain ⟨space, first⟩ := declared (declarations ⟨base, rest⟩ ++ text) labels.1 iris.1
      rw [line, first]
      rw [← missed] at found
      exact ⟨(Consultation.missed_declare space found.1).trans missed,
        (Consultation.alone_declare space found.1).trans alone⟩

end

/-! ## Accepted options -/

section

variable {library : Library}

theorem forM_checkPrefix_iff (prefixes : List (String × String)) :
    prefixes.forM (checkPrefix library) = .ok () ↔
      ∀ declaration ∈ prefixes, library.isIri declaration.2 = true := by
  induction prefixes with
  | nil => exact iff_of_true rfl (List.forall_mem_nil _)
  | cons first rest ih =>
      change (checkPrefix library first >>= fun _ => rest.forM (checkPrefix library)) = .ok () ↔ _
      rw [List.forall_mem_cons, checkPrefix]
      by_cases iri : library.isIri first.2 = true
      · rw [if_pos iri, ← ih]
        exact (and_iff_right iri).symm
      · rw [if_neg iri]
        exact iff_of_false nofun fun both => iri both.1

/-- Options are accepted for their IRIs, whatever the labels are. -/
theorem checkOptions_iff (options : TextOptions) :
    checkOptions library options = .ok () ↔
      (∀ base ∈ options.base, library.isIri base = true) ∧
        ∀ declaration ∈ options.prefixes, library.isIri declaration.2 = true := by
  obtain ⟨base, prefixes⟩ := options
  rw [← forM_checkPrefix_iff]
  cases base with
  | none => exact (and_iff_right nofun).symm
  | some base =>
      cases iri : library.isIri base with
      | false =>
          refine iff_of_false ?_ fun both => ?_
          · rw [checkOptions]
            simp only [iri]
            exact nofun
          · rw [both.1 base rfl] at iri
            cases iri
      | true =>
          rw [checkOptions]
          simp only [iri]
          refine (and_iff_right ?_).symm
          rintro _ ⟨⟩
          exact iri

end

/-! ## Trees of requests -/

/-- The same tree, where other prefixes are reported and the units are changed. -/
def restate {υ : Type} (prefixes : List (String × String)) (change : υ → υ)
    (tree : RequestTree υ) : RequestTree υ where
  token := tree.token
  kind := tree.kind
  prologue := { tree.prologue with prefixes }
  units := tree.units.map change

theorem materialized_restate {library : Library} {options options' : TextOptions} {text : String}
    {rename : String → String} {prefixes : List (String × String)}
    (same : readTree library options text = (readTree library options' text).map
      (restate prefixes (Parsed.Operation.relabel rename))) :
    (reader library options).materialized.tree text =
      ((reader library options').materialized.tree text).map
        (restate prefixes (Operation.relabel rename)) := by
  change (readTree library options text >>= _) = (readTree library options' text >>= _).map _
  rw [same]
  cases readTree library options' text with
  | error cause => rfl
  | ok tree =>
      change (do
        return { restate prefixes _ tree with
          units := ← (tree.units.map (Parsed.Operation.relabel rename)).mapM
            Parsed.Operation.convert } : Except ParseError (RequestTree Operation)) = _
      rw [Parsed.mapM_convert_map (Parsed.Operation.convert_relabel rename)]
      change _ = (tree.units.mapM Parsed.Operation.convert >>= _).map _
      cases tree.units.mapM Parsed.Operation.convert <;> rfl

/-- Accepted prefixes whose labels are labels, and which the request does not ask for in vain, only
show in what is reported: the request is read as it is without them, with the same units up to
labels of blank nodes, or fails as it does without them. -/
theorem readTree_conservative {library : Library} (reading : library.Reading)
    {options : TextOptions} (accepted : checkOptions library options = .ok ())
    (labels : ∀ declaration ∈ options.prefixes, isSpaceLabel declaration.1.toList = true)
    {text : String}
    (found : ∀ declaration ∈ options.prefixes,
      declaration.1 ∉ reading.missed options.base text) :
    ∃ rename : Equiv.Perm String,
      readTree library options text = (readTree library { options with prefixes := [] } text).map
          (restate options.prefixes (Parsed.Operation.relabel rename)) ∧
        (reader library options).materialized.tree text =
          ((reader library { options with prefixes := [] }).materialized.tree text).map
            (restate options.prefixes (Operation.relabel rename)) := by
  have iris := ((checkOptions_iff options).mp accepted).2
  have query := (read_declarations (reading.query_declared options.base) labels iris
    fun declaration mem asked => found declaration mem (List.mem_append_left _ asked)).2
  rw [← reading.isQuery_eq, ← reading.isQuery_eq] at query
  suffices same : ∃ rename : Equiv.Perm String,
      readTree library options text = (readTree library { options with prefixes := [] } text).map
        (restate options.prefixes (Parsed.Operation.relabel rename)) by
    obtain ⟨rename, same⟩ := same
    exact ⟨rename, same, materialized_restate same⟩
  have alone : declarations { options with prefixes := [] } ++ text = text := String.empty_append
  rw [readTree, readTree, query, alone]
  cases isQuery : library.isQuery options.base text with
  | true => exact ⟨1, rfl⟩
  | false =>
      have update := (read_declarations (reading.update_declared options.base) labels iris
        fun declaration mem asked => found declaration mem (List.mem_append_right _ (by
          rwa [← reading.isQuery_eq, isQuery, if_neg Bool.false_ne_true]))).2
      obtain ⟨rename, same⟩ := reading.update?_of_alone_eq update
      refine ⟨rename, ?_⟩
      rw [same]
      cases library.update? options.base text <;> rfl

/-! ## The grammar as a library -/

/-- The grammar reads texts in this way, always with the same labels. -/
def grammarReading : grammar.Reading where
  query := Reader.query
  update := Reader.update
  isQuery_eq _ _ := rfl
  update?_eq base text := by
    refine ⟨1, ?_⟩
    have same : Parsed.Update.relabel ⇑(1 : Equiv.Perm String) = id :=
      funext Parsed.Update.relabel_id
    rw [same, Option.map_id]
    rfl
  query_declared base _ iri text proper isIri :=
    ⟨iri, Reader.query_declared proper isIri base text⟩
  update_declared base _ iri text proper isIri :=
    ⟨iri, Reader.update_declared proper isIri base text⟩

/-- `ex` is declared by the request as well, and `http` is no label in it. -/
def mixedOptions : TextOptions where
  base := some "http://c/"
  prefixes := [("ex", "http://e/"), ("http", "http://f/")]

def mixedText : String := "PREFIX ex: <b#> INSERT DATA \x7b ex:a ex:p <http://d/>, [] \x7d"

theorem readTree_conservative_redeclared :
    checkOptions grammar mixedOptions = .ok () ∧
      (∀ declaration ∈ mixedOptions.prefixes, isSpaceLabel declaration.1.toList = true) ∧
      (∀ declaration ∈ mixedOptions.prefixes,
        declaration.1 ∉ grammarReading.missed mixedOptions.base mixedText) ∧
      (∃ rename : Equiv.Perm String,
        readTree grammar mixedOptions mixedText =
            (readTree grammar { mixedOptions with prefixes := [] } mixedText).map
              (restate mixedOptions.prefixes (Parsed.Operation.relabel rename)) ∧
          (reader grammar mixedOptions).materialized.tree mixedText =
            ((reader grammar { mixedOptions with prefixes := [] }).materialized.tree
              mixedText).map (restate mixedOptions.prefixes (Operation.relabel rename))) ∧
      (readTree grammar mixedOptions mixedText).toBool = true :=
  have accepted : checkOptions grammar mixedOptions = .ok () := by decide +kernel
  have labels : ∀ declaration ∈ mixedOptions.prefixes,
      isSpaceLabel declaration.1.toList = true := by
    decide +kernel
  have found : ∀ declaration ∈ mixedOptions.prefixes,
      declaration.1 ∉ grammarReading.missed mixedOptions.base mixedText := by
    decide +kernel
  ⟨accepted, labels, found, readTree_conservative grammarReading accepted labels found,
    by decide +kernel⟩

/-- A label that the request asks for in vain makes a difference: by itself, the verb `a` and a name
may stand there without a blank between them. -/
example : (readTree grammar {} "PREFIX : <a:> INSERT DATA \x7b <s:> a:b \x7d").toBool = true ∧
    (readTree grammar { prefixes := [("a", "http://a/")] }
      "PREFIX : <a:> INSERT DATA \x7b <s:> a:b \x7d").toBool = false := by decide +kernel

/-! ## Labels that are accepted -/

/-- A request that is read without the configured prefixes is read with them, as a request of the
same kind with the same units, whatever labels are chosen for its blank nodes. -/
def Kept (library : Library) (options : TextOptions) (text : String) : Prop :=
  ∀ tree, (reader library { options with prefixes := [] }).materialized.tree text = .ok tree →
    ∃ tree', (reader library options).materialized.tree text = .ok tree' ∧
      tree'.token = tree.token ∧ tree'.kind = tree.kind ∧
      Operation.standardize tree'.units = Operation.standardize tree.units

/-- A blank in the label makes every request fail. -/
def spacedLabel : TextOptions where
  prefixes := [("e x", "http://a/")]

/-- The label ends its own declaration, and changes the base. -/
def redirectingLabel : TextOptions where
  base := some "http://b/"
  prefixes := [("x: <http://e/> BASE <http://c/> PREFIX y", "http://a/")]

def absoluteText : String := "INSERT DATA \x7b <http://s> <http://p> <http://o> \x7d"

def relativeText : String := "INSERT DATA \x7b <s> <p> <o> \x7d"

/-- The subjects of what is inserted, with standard labels for blank nodes. -/
def subjects (tree : RequestTree Operation) : List Term :=
  (Operation.standardize tree.units).flatMap fun
    | .insertData quads => quads.map Quad.subject
    | _ => []

theorem not_kept_of_failure {library : Library} {options : TextOptions} {text : String}
    (alone : ((reader library { options with prefixes := [] }).materialized.tree text).toBool =
      true)
    (failed : ((reader library options).materialized.tree text).toBool = false) :
    ¬ Kept library options text := by
  intro kept
  cases read : (reader library { options with prefixes := [] }).materialized.tree text with
  | error e =>
      rw [read] at alone
      cases alone
  | ok tree =>
      obtain ⟨tree', read', -⟩ := kept tree read
      rw [read'] at failed
      cases failed

theorem not_kept_of_subjects {library : Library} {options : TextOptions} {text : String}
    {before behind : List Term}
    (alone : ((reader library { options with prefixes := [] }).materialized.tree
      text).toOption.map subjects = some before)
    (changed : ((reader library options).materialized.tree text).toOption.map subjects =
      some behind)
    (differ : before ≠ behind) : ¬ Kept library options text := by
  intro kept
  cases read : (reader library { options with prefixes := [] }).materialized.tree text with
  | error e =>
      rw [read] at alone
      cases alone
  | ok tree =>
      obtain ⟨tree', read', -, -, units⟩ := kept tree read
      rw [read] at alone
      rw [read'] at changed
      have same : subjects tree' = subjects tree := by rw [subjects, units, subjects]
      exact differ ((Option.some.inj alone).symm.trans (same.symm.trans (Option.some.inj changed)))

theorem accepted_labels_not_kept :
    (checkOptions grammar spacedLabel = .ok () ∧ ¬ Kept grammar spacedLabel absoluteText) ∧
      checkOptions grammar redirectingLabel = .ok () ∧
      ¬ Kept grammar redirectingLabel relativeText := by
  have before : ((reader grammar { redirectingLabel with prefixes := [] }).materialized.tree
      relativeText).toOption.map subjects = some [.uri (.absolute "http://b/s")] := by
    decide +kernel
  have behind : ((reader grammar redirectingLabel).materialized.tree
      relativeText).toOption.map subjects = some [.uri (.absolute "http://c/s")] := by
    decide +kernel
  exact ⟨⟨rfl, not_kept_of_failure (by decide +kernel) (by decide +kernel)⟩, rfl,
    not_kept_of_subjects before behind (by decide)⟩

end RdfDataset.Sparql
