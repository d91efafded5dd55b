import DqMadeEasy.Gx.Expectation
import DqMadeEasy.Logic.Fallible
import DqMadeEasy.Logic.Grouping
import DqMadeEasy.RuleDsl.Ir

/-!
# Schema assertions for two engines

A schema contract has clauses about the columns of a table: required and forbidden columns, their
types, their number and their order. The SodaCL lowering writes a check for every clause that is
present. The GX lowering writes the column count and the one clause that the measure names; any
other clause is left out without a word.

Both lowerings are read back as constraints on the table, and compared.
-/

namespace DqMadeEasy

namespace RuleDsl

/-- `SodaclExpectationBuildError`. -/
structure SodaclExpectationBuildError where
  message : String
  deriving DecidableEq, Repr

namespace Sodacl

/-- Raises a `SodaclExpectationBuildError`. -/
def raise {α : Type} (message : String) : Except SodaclExpectationBuildError α := .error ⟨message⟩

end Sodacl

/-- `[str(value).strip() for value in columns if str(value).strip()]`. -/
def nonBlank (columns : List Text) : List Text := (columns.map Text.strip).filter (· ≠ [])

/-! ### SodaCL -/

namespace Sodacl

/-- The `details` of a schema check. -/
inductive Details where
  | requiredColumns (columns : List Text)
  | forbiddenColumns (columns : List Text)
  | columnType (column type : Text)
  | columnCount (minColumnCount maxColumnCount : Option ℕ)
  | orderedColumns (columns : List Text)
  deriving DecidableEq

/-- A check of type `schema_assertion`. -/
structure SchemaCheckItem where
  checkName : Text
  details : Details
  text : Text
  ruleId : Text
  deriving DecidableEq

/-- `str(rule_id or artifact_key or "rule-dsl-v2")`. -/
def checkRuleId (ruleId artifactKey : Option Text) : Text :=
  ((ruleId.filter (!·.isEmpty)).or (artifactKey.filter (!·.isEmpty))).getD "rule-dsl-v2"

/-- `_build_schema_check_item`, the text being the check's name with its arguments. -/
def buildSchemaCheckItem (ruleId artifactKey : Option Text) (checkName arguments : Text)
    (details : Details) : SchemaCheckItem where
  checkName := checkName
  details := details
  text := checkName ++ ['('] ++ arguments ++ [')']
  ruleId := checkRuleId ruleId artifactKey

/-- A clause about some columns: nothing when it is absent, and an error when all are blank. -/
def columnsClause (columns : Option (List Text)) (message : String)
    (item : List Text → SchemaCheckItem) : Except SodaclExpectationBuildError (List SchemaCheckItem) :=
  if columns.getD [] = [] then .ok []
  else if nonBlank (columns.getD []) = [] then raise message
  else .ok [item (nonBlank (columns.getD []))]

/-- `typed_entries`: an entry whose column or type is blank is left out, and columns that differ by
white space are one key. -/
def typedEntries (types : List (Text × Text)) : List (Text × Text) :=
  Assoc.assignAll (fun e => Text.strip e.1) (fun e => Text.strip e.2)
    (types.filter fun e => Text.strip e.1 ≠ [] ∧ Text.strip e.2 ≠ []) []

/-- The text of an optional number. -/
def countText (count : Option ℕ) : Text :=
  count.elim "None" fun n => (toString n).toList

variable (ruleId artifactKey : Option Text)

/-- The checks of the column types. -/
def typesClause (types : Option (List (Text × Text))) :
    Except SodaclExpectationBuildError (List SchemaCheckItem) :=
  if types.getD [] = [] then .ok []
  else if typedEntries (types.getD []) = [] then
    raise "schema_assertion column_types_match requires expected_types"
  else
    .ok ((typedEntries (types.getD [])).map fun (column, typeName) =>
      buildSchemaCheckItem ruleId artifactKey "column_types_match"
        (column ++ ": " ++ typeName) (.columnType column typeName))

/-- The check of the number of columns. -/
def countClause (minColumnCount maxColumnCount : Option ℕ) : List SchemaCheckItem :=
  if minColumnCount.isSome ∨ maxColumnCount.isSome then
    [buildSchemaCheckItem ruleId artifactKey "column_count_between"
      ("min=" ++ countText minColumnCount ++ ", max=" ++ countText maxColumnCount)
      (.columnCount minColumnCount maxColumnCount)]
  else []

/-- The checks of the clauses of a contract. -/
def contractChecks (contract : SchemaContractExpectation) :
    Except SodaclExpectationBuildError (List SchemaCheckItem) := do
  let required ← columnsClause contract.requiredColumns
    "schema_assertion required_columns_present requires required_columns" fun columns =>
      buildSchemaCheckItem ruleId artifactKey "required_columns_present"
        (Text.join ", " columns) (.requiredColumns columns)
  let forbidden ← columnsClause contract.forbiddenColumns
    "schema_assertion forbidden_columns_absent requires forbidden_columns" fun columns =>
      buildSchemaCheckItem ruleId artifactKey "forbidden_columns_absent"
        (Text.join ", " columns) (.forbiddenColumns columns)
  let types ← typesClause ruleId artifactKey contract.expectedTypes
  let ordered ← columnsClause contract.orderedColumns
    "schema_assertion column_order_matches requires ordered_columns" fun columns =>
      buildSchemaCheckItem ruleId artifactKey "column_order_matches"
        (Text.join ", " columns) (.orderedColumns columns)
  let checks := required ++ forbidden ++ types ++
    countClause ruleId artifactKey contract.minColumnCount contract.maxColumnCount ++ ordered
  if checks = [] then raise "schema_assertion requires at least one schema clause"
  else .ok checks

def buildSchemaAssertionChecks (rule : Rule) :
    Except SodaclExpectationBuildError (List SchemaCheckItem) :=
  match rule.measure with
  | .schema _ =>
    match rule.expectation with
    | .schemaContract contract =>
      if rule.scope.dataset.isNone then raise "SodaCL lowering requires dataset scope"
      else if rule.scope.rowFilter.isSome || rule.scope.isComposite then
        raise "SodaCL lowering does not yet support row_filter, join, grouping, time_window, or comparison scope"
      else contractChecks ruleId artifactKey contract
    | _ => raise "schema_assertion requires a schema_contract expectation"
  | _ => raise "schema_assertion requires a schema measure"

end Sodacl

/-! ### GX -/

namespace GxLowerer

open Gx (ExpectationKind Bounds)

/-- The expectation of the number of columns. -/
def countExpectation (contract : SchemaContractExpectation) : List ExpectationKind :=
  if contract.minColumnCount.isSome ∨ contract.maxColumnCount.isSome then
    [.columnCount
      { minValue := contract.minColumnCount.elim .none fun n => .int n
        maxValue := contract.maxColumnCount.elim .none fun n => .int n }]
  else []

/-- The columns of a clause, of which there must be some. -/
def requireColumns (columns : Option (List Text)) (message : String) :
    Except GxExpectationBuildError (List Text) :=
  if nonBlank (columns.getD []) = [] then Gx.raise message else .ok (nonBlank (columns.getD []))

def typeExpectation (entry : Text × Text) : Except GxExpectationBuildError ExpectationKind :=
  if Text.strip entry.1 = [] ∨ Text.strip entry.2 = [] then
    Gx.raise "schema_assertion column_types_match requires non-empty column/type entries"
  else .ok (.ofType (Text.strip entry.1) (Text.strip entry.2))

/-- The expectations of the clause that the measure names. -/
def selectedExpectations (contract : SchemaContractExpectation) :
    SchemaAssertion → Except GxExpectationBuildError (List ExpectationKind)
  | .columnCountBetween =>
    if contract.minColumnCount.isNone ∧ contract.maxColumnCount.isNone then
      Gx.raise "schema_assertion column_count_between requires min_column_count or max_column_count"
    else .ok []
  | .columnOrderMatches =>
    (requireColumns contract.orderedColumns
      "schema_assertion column_order_matches requires ordered_columns").map fun columns =>
        [.columnsMatchOrder columns]
  | .columnTypesMatch =>
    if contract.expectedTypes.getD [] = [] then
      Gx.raise "schema_assertion column_types_match requires expected_types"
    else (contract.expectedTypes.getD []).mapM typeExpectation
  | .requiredColumnsPresent =>
    (requireColumns contract.requiredColumns
      "schema_assertion required_columns_present requires required_columns").map fun columns =>
        [.columnsMatchSet columns false]
  | .forbiddenColumnsAbsent =>
    (requireColumns contract.forbiddenColumns
      "schema_assertion forbidden_columns_absent requires forbidden_columns").map fun columns =>
        [.columnsNotContainSet columns]

def buildSchemaAssertionExpectations (ruleId artifactKey : Option Text) (rule : Rule) :
    Except GxExpectationBuildError (List Gx.Expectation) :=
  match rule.measure with
  | .schema schemaAssertion =>
    match rule.expectation with
    | .schemaContract contract =>
      if rule.scope.dataset.isNone then Gx.raise "schema_assertion requires dataset scope"
      else if rule.scope.rowFilter.isSome then
        Gx.raise "GX lowerer does not yet support row_filter for schema_assertion"
      else if rule.scope.isComposite then
        Gx.raise "GX lowerer does not yet support non-dataset scope for schema_assertion"
      else
        (selectedExpectations contract schemaAssertion).map fun selected =>
          (countExpectation contract ++ selected).map fun kind =>
            { kind := kind, tags := Gx.buildMeta ruleId artifactKey }
    | _ => Gx.raise "schema_assertion requires a schema_contract expectation"
  | _ => Gx.raise "schema_assertion requires a schema measure"

end GxLowerer

end RuleDsl

end DqMadeEasy
