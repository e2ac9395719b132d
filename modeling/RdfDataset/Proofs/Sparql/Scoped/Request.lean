import RdfDataset.Proofs.Sparql.Scoped.Statement
import RdfDataset.Sparql.Grammar

/-!
# Requests and the declarations in front of a text

Expressions, patterns, queries and updates are read by scoped readers, whatever depth of nesting
they are read to. So a declaration in front of a request is one that answers what the reading of the
request asks for.
-/

set_option autoImplicit false
-- Some readers take eight steps, and every step doubles what is counted here.
set_option synthInstance.maxSize 1024

namespace RdfDataset.Sparql.Reader

/-- The readers for what stands one level deeper are scoped. -/
class ScopedInner (inner : Inner) : Prop where
  expression : Scoped inner.expression
  group : Scoped inner.group

attribute [instance] ScopedInner.expression ScopedInner.group

instance scoped_openSelect : Scoped openSelect := scoped_modifyMarks _

instance scoped_closeSelect : Scoped closeSelect := scoped_modifyGetMarks _

instance scoped_markAggregate : Scoped markAggregate := by
  refine @scoped_bind _ _ _ _ _ fun marks => ?_
  split <;> infer_instance

section Inner

variable (inner : Inner) [ScopedInner inner]

/-! ## Expressions -/

instance scoped_parenthesized : Scoped (parenthesized inner) := by
  unfold parenthesized
  infer_instance

instance scoped_expressionList1 : Scoped (expressionList1 inner) := by
  unfold expressionList1
  infer_instance

instance scoped_expressionList : Scoped (expressionList inner) := by
  unfold expressionList
  infer_instance

instance scoped_expressions (count : Nat) : Scoped (expressions inner count) := by
  unfold expressions
  split <;> infer_instance

instance scoped_functionName : Scoped functionName := by
  unfold functionName
  infer_instance

instance scoped_arguments (expected : Arguments) : Scoped (arguments inner expected) := by
  unfold arguments
  split
  · infer_instance
  · infer_instance
  · exact scoped_oneOf (List.forall_mem_map.mpr fun _ _ => inferInstance)

instance scoped_functionCall : Scoped (functionCall inner) := by
  refine @scoped_bind _ _ _ _ _ fun name => ?_
  split <;> infer_instance

theorem scoped_aggregated {arguments : List (Reader Unit)}
    (each : ∀ argument ∈ arguments, Scoped argument) : Scoped (aggregated arguments) := by
  refine scoped_oneOf (List.forall_mem_map.mpr ?_)
  have enclosed (argument : Reader Unit) [Scoped argument] : Scoped (do
      token "("
      lexeme argument
      symbol ")") := inferInstance
  refine List.forall_mem_append.mpr ⟨List.forall_mem_map.mpr fun argument mem => ?_,
    fun argument mem => ?_⟩
  · have := each argument mem
    exact enclosed _
  · have := each argument mem
    exact enclosed _

instance scoped_aggregated_single (argument : Reader Unit) [single : Scoped argument] :
    Scoped (aggregated [argument]) :=
  scoped_aggregated (List.forall_mem_singleton.mpr single)

instance scoped_aggregated_pair (first second : Reader Unit) [left : Scoped first]
    [right : Scoped second] : Scoped (aggregated [first, second]) :=
  scoped_aggregated (List.forall_mem_cons.mpr ⟨left, List.forall_mem_singleton.mpr right⟩)

instance scoped_aggregatedValue : Scoped (aggregatedValue inner) := by
  unfold aggregatedValue
  infer_instance

instance scoped_separatorClause : Scoped separatorClause := by
  unfold separatorClause
  infer_instance

instance scoped_standardAggregate : Scoped (standardAggregate inner) := by
  unfold standardAggregate
  infer_instance

instance scoped_iriAggregate : Scoped (iriAggregate inner) := by
  unfold iriAggregate
  infer_instance

instance scoped_aggregate : Scoped (aggregate inner) := by
  unfold aggregate
  infer_instance

instance scoped_existence : Scoped (existence inner) := by
  unfold existence
  infer_instance

instance scoped_builtIn : Scoped (builtIn inner) := by
  unfold builtIn
  infer_instance

instance scoped_iriCall : Scoped (iriCall inner) := by
  unfold iriCall
  infer_instance

instance scoped_iriOrCall : Scoped (iriOrCall inner) := by
  unfold iriOrCall
  infer_instance

instance scoped_primary : Scoped (primary inner) := by
  unfold primary
  infer_instance

instance scoped_signed : Scoped (signed inner) := by
  unfold signed
  infer_instance

instance scoped_chain (operand : Reader Expression) (operator : Reader Unit) [Scoped operand]
    [Scoped operator] : Scoped (chain operand operator) := by
  refine @scoped_bind _ _ _ _ _ fun operands => ?_
  split <;> infer_instance

instance scoped_numeric : Scoped (numeric inner) := by
  unfold numeric
  infer_instance

instance scoped_comparison : Scoped (comparison inner) := by
  unfold comparison
  simp only [List.map_cons, List.map_nil]
  infer_instance

instance scoped_relational : Scoped (relational inner) := by
  refine @scoped_bind _ _ _ _ _ fun left => @scoped_bind _ _ _ _ _ fun right => ?_
  split <;> infer_instance

instance scoped_expression : Scoped (expression inner) := by
  unfold expression
  infer_instance

instance scoped_constraint : Scoped (constraint inner) := by
  unfold constraint
  infer_instance

/-! ## Select clauses -/

instance scoped_dataValue : Scoped dataValue := by
  unfold dataValue
  infer_instance

instance scoped_singleColumn : Scoped singleColumn := by
  unfold singleColumn
  infer_instance

instance scoped_manyColumns : Scoped manyColumns := by
  unfold manyColumns
  infer_instance

instance scoped_inlineData : Scoped inlineData := by
  unfold inlineData
  infer_instance

instance scoped_selected : Scoped (selected inner) := by
  unfold selected
  infer_instance

instance scoped_selectClause : Scoped (selectClause inner) := by
  unfold selectClause
  infer_instance

instance scoped_whereClause : Scoped (whereClause inner) := by
  unfold whereClause
  infer_instance

instance scoped_groupCondition : Scoped (groupCondition inner) := by
  have named (e : Expression) (name : Option String) : Scoped (match e with
    | .var name => return [name]
    | .aggregate => return []
    | .computed _ => return name.toList : Reader Scope) := by
    split <;> infer_instance
  unfold groupCondition
  infer_instance

instance scoped_groupClause : Scoped (groupClause inner) := by
  unfold groupClause
  infer_instance

instance scoped_havingClause : Scoped (havingClause inner) := by
  unfold havingClause
  infer_instance

instance scoped_orderCondition : Scoped (orderCondition inner) := by
  unfold orderCondition
  infer_instance

instance scoped_orderClause : Scoped (orderClause inner) := by
  unfold orderClause
  infer_instance

instance scoped_solutionCount : Scoped solutionCount := by
  unfold solutionCount
  infer_instance

instance scoped_sliceClause : Scoped sliceClause := by
  unfold sliceClause
  infer_instance

instance scoped_modifiers : Scoped (modifiers inner) := by
  unfold modifiers
  infer_instance

instance scoped_queryBody (selection : Selection) (pattern : Reader Scope) [Scoped pattern] :
    Scoped (queryBody inner selection pattern) := by
  refine @scoped_bind _ _ _ _ _ fun pattern => @scoped_bind _ _ _ _ _ fun modifiers =>
    @scoped_bind _ _ _ _ _ fun aggregated => ?_
  split <;> infer_instance

instance scoped_subquery : Scoped (subquery inner) := by
  unfold subquery
  infer_instance

/-! ## Patterns -/

instance scoped_triplesBlock : Scoped triplesBlock := by
  unfold triplesBlock
  infer_instance

instance scoped_unionPart : Scoped (unionPart inner) := by
  unfold unionPart
  infer_instance

instance scoped_optionalPart : Scoped (optionalPart inner) := by
  unfold optionalPart
  infer_instance

instance scoped_minusPart : Scoped (minusPart inner) := by
  unfold minusPart
  infer_instance

instance scoped_graphPart : Scoped (graphPart inner) := by
  unfold graphPart
  infer_instance

instance scoped_servicePart : Scoped (servicePart inner) := by
  unfold servicePart
  infer_instance

instance scoped_filterPart : Scoped (filterPart inner) := by
  unfold filterPart
  infer_instance

instance scoped_assignmentPart : Scoped (assignmentPart inner) := by
  unfold assignmentPart
  infer_instance

instance scoped_groupPart : Scoped (groupPart inner) := by
  unfold groupPart
  infer_instance

instance scoped_groupParts : Scoped (groupParts inner) := by
  refine @scoped_bind _ _ _ _ _ fun first => @scoped_bind _ _ _ _ _ fun rest => ?_
  split <;> infer_instance

instance scoped_group : Scoped (group inner) := by
  have enclosed (content : Reader Scope) [Scoped content] : Scoped (do
      token "\x7b"
      closeLabels
      let scope ← content
      closeLabels
      blank
      symbol "\x7d"
      return scope) := inferInstance
  exact @scoped_orElse _ _ _ (enclosed _) (enclosed _)

end Inner

instance scopedInner_upTo (depth : Nat) : ScopedInner (Inner.upTo depth) := by
  induction depth with
  | zero => exact ⟨scoped_failure, scoped_failure⟩
  | succ depth ih => exact ⟨scoped_expression _, scoped_group _⟩

/-! ## Queries -/

instance scoped_baseDeclaration : Scoped baseDeclaration := by
  have set (iri : String) : Scoped (modify fun cursor => { cursor with base := some iri } :
      Reader Unit) := scoped_modify fun _ _ _ => rfl
  unfold baseDeclaration
  infer_instance

instance scoped_spaceDeclaration : Scoped spaceDeclaration := by
  have declared (label iri : String) : Scoped (modify fun cursor =>
      { cursor with spaces := (label, iri) :: cursor.spaces } : Reader Unit) :=
    scoped_modify fun _ _ _ => rfl
  unfold spaceDeclaration
  infer_instance

instance scoped_prologue : Scoped prologue := by
  unfold prologue
  infer_instance

instance scoped_datasetClauses : Scoped datasetClauses := by
  unfold datasetClauses
  infer_instance

section Forms

variable (inner : Inner) [ScopedInner inner]

instance scoped_selectQuery : Scoped (selectQuery inner) := by
  unfold selectQuery
  infer_instance

instance scoped_constructTemplate : Scoped constructTemplate := by
  unfold constructTemplate
  infer_instance

instance scoped_shortTemplate : Scoped shortTemplate := by
  unfold shortTemplate
  infer_instance

instance scoped_constructQuery : Scoped (constructQuery inner) := by
  unfold constructQuery
  infer_instance

instance scoped_describeQuery : Scoped (describeQuery inner) := by
  have described : Scoped (do
      match ← variableOrIri with
      | .var name => return .var name
      | _ => return .unnamed : Reader Selected) := by
    refine @scoped_bind _ _ _ _ _ fun name => ?_
    split <;> infer_instance
  unfold describeQuery
  infer_instance

instance scoped_askQuery : Scoped (askQuery inner) := by
  unfold askQuery
  infer_instance

end Forms

instance scoped_queryRequest : Scoped queryRequest :=
  @scoped_bind _ _ _ _ _ fun _ => @scoped_bind _ _ _ _ _ fun _ =>
    scoped_get (fun _ => inferInstance) fun _ _ _ => rfl

/-! ## Updates -/

instance scoped_silently : Scoped silently := by
  unfold silently
  infer_instance

instance scoped_namedGraph : Scoped namedGraph := by
  unfold namedGraph
  infer_instance

instance scoped_graphTarget : Scoped graphTarget := by
  unfold graphTarget
  infer_instance

instance scoped_graphOrDefault : Scoped graphOrDefault := by
  unfold graphOrDefault
  infer_instance

instance scoped_load : Scoped load := by
  unfold load
  infer_instance

instance scoped_clear : Scoped clear := by
  unfold clear
  infer_instance

instance scoped_drop : Scoped drop := by
  unfold drop
  infer_instance

instance scoped_create : Scoped create := by
  unfold create
  infer_instance

instance scoped_transfer (name : String) (units : List Parsed.Operation) :
    Scoped (transfer name units) := by
  unfold transfer
  infer_instance

instance scoped_insertData : Scoped insertData := by
  unfold insertData
  infer_instance

instance scoped_deleteData : Scoped deleteData := by
  unfold deleteData
  infer_instance

instance scoped_deleteWhere : Scoped deleteWhere := by
  unfold deleteWhere
  infer_instance

instance scoped_templates : Scoped templates := by
  unfold templates
  infer_instance

instance scoped_usingClauses : Scoped usingClauses := by
  unfold usingClauses
  infer_instance

instance scoped_modification : Scoped modification := by
  have pattern : Scoped (do
      let _ ← (Inner.upTo (← get).rest.length).group
      return [.deleteInsert] : Reader (List Parsed.Operation)) :=
    scoped_get (fun _ => inferInstance) fun _ _ _ => rfl
  unfold modification
  infer_instance

instance scoped_operation : Scoped operation := by
  unfold operation
  infer_instance

instance scoped_updateRequest : Scoped updateRequest := by
  unfold updateRequest
  infer_instance

end RdfDataset.Sparql.Reader
