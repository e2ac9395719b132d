import RdfDataset.Proofs.Sparql.Scoped
import RdfDataset.Sparql.Path

/-!
# Statements and the declarations in front of a text

Names, literals, nodes, statements, quads and paths are read by scoped readers. Of all readers only
the one for the namespace of a label looks at declarations.
-/

set_option autoImplicit false

namespace RdfDataset.Sparql.Reader

/-! ## Names -/

instance scoped_iriReference : Scoped iriReference := by
  refine @scoped_bind _ _ _ _ _ fun _ => @scoped_bind _ _ _ _ _ fun text =>
    @scoped_bind _ _ _ _ _ fun _ => scoped_get (fun cursor => ?_) fun _ _ _ => rfl
  split <;> infer_instance

instance scoped_dotGroup (item : Reader (List Char)) [Scoped item] : Scoped (dotGroup item) := by
  unfold dotGroup
  infer_instance

instance scoped_dotted (item : Reader (List Char)) [Scoped item] : Scoped (dotted item) := by
  unfold dotted
  infer_instance

instance scoped_one (allowed : Char → Bool) : Scoped (one allowed) := by
  unfold one
  infer_instance

instance scoped_spaceLabel : Scoped spaceLabel := by
  unfold spaceLabel
  infer_instance

instance scoped_localEscape : Scoped localEscape := by
  unfold localEscape
  infer_instance

instance scoped_localItem : Scoped localItem := by
  unfold localItem
  infer_instance

instance scoped_localName : Scoped localName := by
  unfold localName
  infer_instance

theorem outcome_space (label : String) (cursor : Cursor) (marks : Marks) :
    (space label).outcome cursor marks =
      match cursor.spaces.lookup label with
      | some space => pure (some (space, cursor), marks)
      | none => .ask label fun answer => pure (answer.map fun space => (space, cursor), marks) := by
  change Reader.outcome (match cursor.spaces.lookup label with
    | some space => pure space
    | none => liftM (Consultation.space? label) >>= _) cursor marks = _
  cases cursor.spaces.lookup label with
  | some space => rfl
  | none =>
      refine congrArg (Consultation.ask label) (funext fun answer => ?_)
      cases answer <;> rfl

instance scoped_space (label : String) : Scoped (space label) where
  outcome_under declared iri cursor marks := by
    rw [outcome_space, outcome_space]
    change (match (cursor.spaces ++ [(declared, iri)]).lookup label with
      | some space => _
      | none => _) = _
    rw [List.lookup_append]
    cases cursor.spaces.lookup label with
    | some space => rfl
    | none =>
        by_cases same : label = declared
        · subst same
          rw [Option.none_or, List.lookup_cons_self, Consultation.declare, if_pos rfl]
          rfl
        · rw [Option.none_or, List.lookup_cons, beq_eq_false_iff_ne.mpr same,
            Consultation.declare, if_neg same]
          refine congrArg (Consultation.ask label) (funext fun answer => ?_)
          cases answer <;> rfl

instance scoped_abbreviatedName : Scoped abbreviatedName := by
  unfold abbreviatedName
  infer_instance

instance scoped_iri : Scoped iri := by
  unfold iri
  infer_instance

instance scoped_variableName : Scoped variableName := by
  unfold variableName
  infer_instance

instance scoped_blankLabel : Scoped blankLabel := by
  unfold blankLabel
  infer_instance

instance scoped_freshLabel : Scoped freshLabel := ⟨fun _ _ _ _ => rfl⟩

instance scoped_closeLabels : Scoped closeLabels := scoped_modifyMarks _

instance scoped_forgetLabels : Scoped forgetLabels := scoped_modifyMarks _

/-! ## Literals -/

instance scoped_escapedCharacter : Scoped escapedCharacter := by
  refine @scoped_orElse _ _ _ ?_ _
  refine @scoped_bind _ _ _ _ _ fun _ => @scoped_bind _ _ _ _ _ fun c => ?_
  split <;> infer_instance

instance scoped_shortString (quote : Char) : Scoped (shortString quote) := by
  unfold shortString
  infer_instance

theorem scoped_mapM {α β : Type} (f : α → Reader β) [∀ a, Scoped (f a)] (as : List α) :
    Scoped (as.mapM f) := by
  induction as with
  | nil => exact scoped_pure []
  | cons a as ih =>
      rw [List.mapM_cons]
      infer_instance

instance scoped_quotes (quote : Char) (count : Nat) : Scoped (quotes quote count) :=
  scoped_mapM _ _

instance scoped_longString (quote : Char) : Scoped (longString quote) := by
  unfold longString
  infer_instance

instance scoped_string : Scoped string := by
  unfold string
  infer_instance

instance scoped_languageTag : Scoped languageTag := by
  unfold languageTag
  infer_instance

instance scoped_stringLiteral : Scoped stringLiteral := by
  unfold stringLiteral
  infer_instance

instance scoped_digits1 : Scoped digits1 := by
  unfold digits1
  infer_instance

instance scoped_digits : Scoped digits := by
  unfold digits
  infer_instance

instance scoped_exponent : Scoped exponent := by
  unfold exponent
  infer_instance

instance scoped_dot : Scoped dot := by
  unfold dot
  infer_instance

instance scoped_decimalDigits : Scoped decimalDigits := by
  unfold decimalDigits
  infer_instance

instance scoped_doubleDigits : Scoped doubleDigits := by
  unfold doubleDigits
  infer_instance

instance scoped_unsignedNumber : Scoped unsignedNumber := by
  unfold unsignedNumber
  infer_instance

instance scoped_sign : Scoped sign := by
  unfold sign
  infer_instance

instance scoped_numberLiteral : Scoped numberLiteral := by
  unfold numberLiteral
  infer_instance

instance scoped_truthLiteral : Scoped truthLiteral := by
  unfold truthLiteral
  infer_instance

instance scoped_literal : Scoped literal := by
  unfold literal
  infer_instance

/-! ## Nodes -/

instance scoped_emptyPair (opening closing : String) : Scoped (emptyPair opening closing) := by
  unfold emptyPair
  infer_instance

instance scoped_simpleNode : Scoped simpleNode := by
  unfold simpleNode
  infer_instance

instance scoped_variableOrIri : Scoped variableOrIri := by
  unfold variableOrIri
  infer_instance

/-! ## Statements -/

section Statements

variable {π : Type} (verbs : Verbs π) [Scoped verbs.read]

section

variable (object : Reader (Nested π)) [Scoped object]

instance scoped_objects : Scoped (objects verbs object) := by
  unfold objects
  infer_instance

instance scoped_properties : Scoped (properties verbs object) := by
  unfold properties
  infer_instance

instance scoped_nodeList : Scoped (nodeList verbs object) := by
  unfold nodeList
  infer_instance

instance scoped_bracketed : Scoped (bracketed verbs object) := by
  unfold bracketed
  infer_instance

instance scoped_complexNode : Scoped (complexNode verbs object) := by
  unfold complexNode
  infer_instance

end

instance scoped_node (depth : Nat) : Scoped (node verbs depth) := by
  induction depth with
  | zero => exact scoped_failure
  | succ depth ih =>
      unfold node
      infer_instance

instance scoped_anyNode : Scoped (anyNode verbs) :=
  scoped_get (fun _ => inferInstance) fun _ _ _ => rfl

instance scoped_statement : Scoped (statement verbs) := by
  unfold statement
  infer_instance

instance scoped_statements : Scoped (statements verbs) := by
  unfold statements
  infer_instance

end Statements

/-! ## Quads -/

instance scoped_plainVerbs : Scoped plainVerbs.read := by
  unfold plainVerbs
  infer_instance

instance scoped_braced {α : Type} (inner : Reader α) [Scoped inner] : Scoped (braced inner) := by
  unfold braced
  infer_instance

instance scoped_defaultBlock : Scoped defaultBlock := by
  unfold defaultBlock
  infer_instance

instance scoped_namedBlock : Scoped namedBlock := by
  unfold namedBlock
  infer_instance

instance scoped_quadBlock : Scoped quadBlock := by
  unfold quadBlock
  infer_instance

instance scoped_dataBlock : Scoped dataBlock := by
  refine @scoped_bind _ _ _ _ _ fun patterns => ?_
  split <;> infer_instance

instance scoped_groundBlock : Scoped groundBlock := by
  unfold groundBlock
  infer_instance

instance scoped_groundDataBlock : Scoped groundDataBlock := by
  unfold groundDataBlock
  infer_instance

/-! ## Paths -/

instance scoped_pathIri : Scoped pathIri := by
  unfold pathIri
  infer_instance

instance scoped_directedIri : Scoped directedIri := by
  unfold directedIri
  infer_instance

instance scoped_excludedIris : Scoped excludedIris := by
  unfold excludedIris
  infer_instance

instance scoped_pathPrimary (inner : Reader Unit) [Scoped inner] : Scoped (pathPrimary inner) := by
  unfold pathPrimary
  infer_instance

instance scoped_repetition : Scoped repetition := by
  unfold repetition
  infer_instance

instance scoped_pathStep (inner : Reader Unit) [Scoped inner] : Scoped (pathStep inner) := by
  unfold pathStep
  infer_instance

instance scoped_path (depth : Nat) : Scoped (path depth) := by
  induction depth with
  | zero => exact scoped_failure
  | succ depth ih =>
      unfold path
      infer_instance

instance scoped_pathVerbs : Scoped pathVerbs.read :=
  @scoped_orElse _ _ _ (scoped_get (fun _ => inferInstance) fun _ _ _ => rfl) _

end RdfDataset.Sparql.Reader
