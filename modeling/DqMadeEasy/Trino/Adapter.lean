import DqMadeEasy.Trino.Executor

/-!
# Lowering of rules to Trino SQL

A row rule becomes a query that selects rows, an aggregate rule a query that returns one value,
and a query rule carries its own query. Identifiers are quoted when they are not simple, and
values are written as literals.
-/

namespace DqMadeEasy.Trino

/-- The members of `ROW_RULE_TYPES`, `AGGREGATE_RULE_TYPES` and `QUERY_RULE_TYPES`. -/
inductive RuleKind where
  | notNull | isNull | equals | notEqual | between | isIn | notIn
  | min | max
  | count | sum | avg | distinctCount
  | query
  deriving DecidableEq

namespace RuleKind

/-- The kind that a rule type names. -/
def ofText? (ruleType : Text) : Option RuleKind :=
  if ruleType = "not_null" then some notNull
  else if ruleType = "is_null" then some isNull
  else if ruleType = "equals" then some equals
  else if ruleType = "not_equal" then some notEqual
  else if ruleType = "between" then some between
  else if ruleType = "in" then some isIn
  else if ruleType = "not_in" then some notIn
  else if ruleType = "min" then some min
  else if ruleType = "max" then some max
  else if ruleType = "count" then some count
  else if ruleType = "sum" then some sum
  else if ruleType = "avg" then some avg
  else if ruleType = "distinct_count" then some distinctCount
  else if ruleType = "query" then some query
  else none

/-- `ROW_RULE_TYPES`. -/
def isRow : RuleKind → Bool
  | notNull | isNull | equals | notEqual | between | isIn | notIn | min | max => true
  | count | sum | avg | distinctCount | query => false

/-- `AGGREGATE_RULE_TYPES`. -/
def isAggregate : RuleKind → Bool
  | count | sum | avg | min | max | distinctCount => true
  | notNull | isNull | equals | notEqual | between | isIn | notIn | query => false

end RuleKind

/-- A rule document. A key that is absent reads as `None`, absent parameters as empty ones. -/
structure TrinoRule where
  id : Json
  type : Json
  column : Json
  table : Json
  params : Dict

/-- The families of lowered rules. -/
inductive RuleFamily where
  | rowDq
  | aggregateDq
  | queryDq
  deriving DecidableEq

/-- A lowered rule. Only a query rule passes its parameters on. -/
structure LoweredRule where
  engineType : Text
  engineTarget : Text
  ruleType : RuleFamily
  expectation : Text
  actionIfFailed : Text
  params : Option Dict
  query : Text

variable [PyRuntime] [PyNumerals]

def TrinoRule.ruleType (rule : TrinoRule) : Text := PyRuntime.lower rule.type.strippedText

/-- `escape_trino_identifier` on one part of an identifier. -/
def escapePart (identifier part : Text) : Except Raised Text :=
  if part = [] then
    .error (.valueError ("Invalid Trino identifier: " ++ PyNumerals.stringRepr identifier))
  else if Text.isIdent part then .ok part
  else .ok ('"' :: Text.replace ['"'] ['"', '"'] part ++ ['"'])

def escapeTrinoIdentifier (identifier : Text) : Except Raised Text :=
  if identifier = [] then .error (.valueError "Identifier cannot be empty")
  else do
    let escapedParts ← (Text.splitOn '.' identifier).mapM (escapePart identifier)
    return Text.join ['.'] escapedParts

/-- A text between single quotes, with every quote of it doubled. -/
def quoteText (t : Text) : Text := '\'' :: Text.replace ['\''] ['\'', '\''] t ++ ['\'']

/-- `format_trino_literal`. The values of a JSON document hold no dates and times. -/
def formatTrinoLiteral : Json → Text
  | .scalar .none => "NULL"
  | .scalar (.bool b) => if b then "TRUE" else "FALSE"
  | .scalar (.int n) => PyValue.toText (.int n)
  | .scalar (.float f) => PyValue.toText (.float f)
  | .scalar (.str t) => quoteText t
  | value => quoteText value.str

def validateTrinoCompatibility (rule : TrinoRule) : List Text :=
  (if (rule.params.get "expression").isNone then [] else ["custom expression".toList]) ++
  (if (rule.params.get "sql_predicate").isNone then [] else ["SQL predicate".toList]) ++
  (if (rule.params.get "window").isNone then [] else ["window/analytic functions".toList]) ++
  (match (rule.params.get "columns").asList? with
    | some (_ :: _ :: _) => ["multi-column predicates".toList]
    | _ => []) ++
  (match RuleKind.ofText? rule.ruleType with
    | some _ => []
    | none => ["unsupported rule type: ".toList ++ rule.ruleType])

def raiseForUnsupportedTrinoConstructs (rule : TrinoRule) : Except Raised Unit :=
  match validateTrinoCompatibility rule with
  | [] => .ok ()
  | construct :: _ => .error (.valueError ("unsupported trino construct: " ++ construct))

/-- The message `Rule '{id}' requires {what}`. -/
def requires (rule : TrinoRule) (what : String) : Raised :=
  .valueError ("Rule '" ++ rule.id.str ++ "' requires " ++ what.toList)

/-- `_escape_rule_identifier(rule, "column")`. -/
def escapeRuleColumn (rule : TrinoRule) : Except Raised Text :=
  if rule.column.strippedText = [] then .error (requires rule "'column'")
  else escapeTrinoIdentifier rule.column.strippedText

/-- The escaped table, `source` by default. -/
def escapeRuleTable (rule : TrinoRule) : Except Raised Text :=
  let named := Text.strip (rule.table.orElse (Json.text "source")).str
  escapeTrinoIdentifier (if named = [] then "source" else named)

def normalizeFilterSpecs (filters : Json) (clauseName : String) : Except Raised (List Dict) :=
  match filters with
  | .scalar .none => .ok []
  | .dict entries => .ok [entries]
  | .list items =>
    match items.mapM Json.asDict? with
    | some specs => .ok specs
    | none => .error (notSpecs clauseName)
  | _ => .error (notSpecs clauseName)
where
  /-- The message for filters of another type. -/
  notSpecs (clauseName : String) : Raised :=
    .valueError ("Trino '" ++ clauseName.toList ++
      "' filters must be a dictionary or list of dictionaries")

/-- The message `Trino '{clause_name}' filter {what}`. -/
def filterError (clauseName what : String) : Raised :=
  .valueError ("Trino '" ++ clauseName.toList ++ "' filter " ++ what.toList)

/-- The left operand of a filter: its column in a `where` clause, the aggregate expression in a
`having` clause. -/
def filterLeftOperand (spec : Dict) (clauseName : String) :
    Option Text → Except Raised Text
  | none =>
    let column := (spec.get "column").strippedText
    if column = [] then .error (filterError clauseName "requires 'column'")
    else escapeTrinoIdentifier column
  | some aggregate =>
    if (spec.get "column").isNone then .ok aggregate
    else .error (filterError clauseName "cannot specify 'column'")

/-- The operator as it is written in the filter. -/
def rawOperator (spec : Dict) : Text :=
  Text.upper (Text.strip ((spec.get "operator").orElse (Json.text "=")).str)

def literalList (values : List Json) : Text :=
  Text.join ", " (values.map formatTrinoLiteral)

/-- `_TRINO_COMPARISON_OPERATORS`. -/
def comparisonOperators : List Text :=
  ["=", "!=", "<>", ">", ">=", "<", "<="].map String.toList

/-- The predicate of an operator with its operands, or what the filter is missing. -/
def operatorPredicate (spec : Dict) (clauseName : String) (leftOperand raw : Text) :
    Except Raised Text :=
  let operator := if raw = "<>".toList then "!=".toList else raw
  if operator ∈ comparisonOperators then
    match spec.find? "value".toList with
    | none => .error (filterError clauseName "requires 'value'")
    | some value => .ok (leftOperand ++ [' '] ++ operator ++ [' '] ++ formatTrinoLiteral value)
  else if operator = "IN".toList ∨ operator = "NOT IN".toList then
    match spec.get "values" with
    | .list (value :: values) =>
      .ok (leftOperand ++ [' '] ++ operator ++ " (".toList ++ literalList (value :: values) ++
        [')'])
    | _ => .error (filterError clauseName "requires non-empty 'values'")
  else if operator = "BETWEEN".toList then
    match spec.find? "min".toList, spec.find? "max".toList with
    | some low, some high =>
      .ok (leftOperand ++ " BETWEEN ".toList ++ formatTrinoLiteral low ++ " AND ".toList ++
        formatTrinoLiteral high)
    | _, _ => .error (filterError clauseName "requires 'min' and 'max'")
  else if operator = "IS NULL".toList then .ok (leftOperand ++ " IS NULL".toList)
  else if operator = "IS NOT NULL".toList then .ok (leftOperand ++ " IS NOT NULL".toList)
  else
    .error (.valueError ("Unsupported Trino '".toList ++ clauseName.toList ++
      "' filter operator: ".toList ++ raw))

def formatFilterPredicate (clauseName : String) (defaultLeftOperand : Option Text) (spec : Dict) :
    Except Raised Text := do
  let leftOperand ← filterLeftOperand spec clauseName defaultLeftOperand
  operatorPredicate spec clauseName leftOperand (rawOperator spec)

def filterPredicates (clauseName : String) (defaultLeftOperand : Option Text) (filters : Json) :
    Except Raised (List Text) := do
  let specs ← normalizeFilterSpecs filters clauseName
  specs.mapM (formatFilterPredicate clauseName defaultLeftOperand)

/-- Predicates as a clause after `keyword`; no clause without predicates. -/
def clause (keyword : String) (predicates : List Text) : Text :=
  if predicates.isEmpty then []
  else [' '] ++ keyword.toList ++ [' '] ++ Text.join " AND " predicates

def formatWhereClause (filters : Json) : Except Raised Text := do
  return clause "WHERE" (← filterPredicates "where" none filters)

def combineWherePredicates (filters : Json) (expectation : Text) : Except Raised Text := do
  let predicates ← filterPredicates "where" none filters
  return Text.join " AND " (predicates ++ [expectation])

def formatHavingClause (filters : Json) (aggregateExpression : Text) : Except Raised Text := do
  return clause "HAVING" (← filterPredicates "having" (some aggregateExpression) filters)

/-- `for value in values`: a list's items, a text's characters, a dictionary's keys. -/
def iterate : Json → Except Raised (List Json)
  | .list items => .ok items
  | .scalar (.str t) => .ok (t.map fun c => .scalar (.str [c]))
  | .dict entries => .ok (entries.map fun entry => .scalar (.str entry.1))
  | _ => .error .typeError

/-- `params[key]` where the rule requires it. -/
def requiredParam (rule : TrinoRule) (key what : String) : Except Raised Json :=
  match rule.params.find? key.toList with
  | some value => .ok value
  | none => .error (requires rule what)

/-- The expectation of a row rule on its escaped column. -/
def rowExpectation (rule : TrinoRule) (column : Text) : Except Raised Text :=
  match RuleKind.ofText? rule.ruleType with
  | some .notNull => .ok (column ++ " IS NOT NULL")
  | some .isNull => .ok (column ++ " IS NULL")
  | some .equals => do
    let expected ← requiredParam rule "expected" "'expected' parameter"
    return column ++ " = " ++ formatTrinoLiteral expected
  | some .notEqual => do
    let expected ← requiredParam rule "expected" "'expected' parameter"
    return column ++ " != " ++ formatTrinoLiteral expected
  | some .between => do
    let low ← requiredParam rule "min" "'min' and 'max' parameters"
    let high ← requiredParam rule "max" "'min' and 'max' parameters"
    return column ++ " BETWEEN " ++ formatTrinoLiteral low ++ " AND " ++
      formatTrinoLiteral high
  | some .isIn => do
    let values ← requiredParam rule "values" "'values' parameter"
    return column ++ " IN (" ++ literalList (← iterate values) ++ [')']
  | some .notIn => do
    let values ← requiredParam rule "values" "'values' parameter"
    return column ++ " NOT IN (" ++ literalList (← iterate values) ++ [')']
  | some .min => do
    let low ← requiredParam rule "min" "'min' parameter"
    return column ++ " >= " ++ formatTrinoLiteral low
  | some .max => do
    let high ← requiredParam rule "max" "'max' parameter"
    return column ++ " <= " ++ formatTrinoLiteral high
  | _ => .error (.valueError ("Unsupported row rule type: " ++ rule.ruleType))

/-- The record that a lowering returns. -/
def lowered (ruleType : RuleFamily) (expectation : Text) (params : Option Dict) (query : Text) :
    LoweredRule where
  engineType := "trino"
  engineTarget := "trino_sql"
  ruleType := ruleType
  expectation := expectation
  actionIfFailed := "quarantine"
  params := params
  query := query

def lowerRowRuleToTrino (rule : TrinoRule) : Except Raised LoweredRule := do
  raiseForUnsupportedTrinoConstructs rule
  let column ← escapeRuleColumn rule
  let table ← escapeRuleTable rule
  let expectation ← rowExpectation rule column
  let predicates ← combineWherePredicates (rule.params.get "where") expectation
  return lowered .rowDq expectation none
    ("SELECT * FROM " ++ table ++ " WHERE " ++ predicates)

/-- The text of an aggregate rule before its table: the aggregate over the escaped column, the
value it is expected to have, and the name of the result. -/
structure AggregateParts where
  expression : Text
  expected : Json
  resultAlias : Text

/-- An aggregate function over the column of the rule. -/
def columnAggregate (rule : TrinoRule) (key : String) (function resultAlias : String) :
    Except Raised AggregateParts := do
  let expected ← requiredParam rule key ("'" ++ key ++ "' parameter")
  let column ← escapeTrinoIdentifier rule.column.strippedText
  return ⟨function.toList ++ column ++ [')'], expected, resultAlias.toList⟩

/-- The branches of `lower_aggregate_rule_to_trino`. -/
def aggregateParts (rule : TrinoRule) : Except Raised AggregateParts :=
  match RuleKind.ofText? rule.ruleType with
  | some .count => do
    let expected ← requiredParam rule "expected_count" "'expected_count' parameter"
    return ⟨"COUNT(*)", expected, "dq_count"⟩
  | some .sum => columnAggregate rule "expected_value" "SUM(" "dq_sum"
  | some .avg => columnAggregate rule "expected_value" "AVG(" "dq_avg"
  | some .min => columnAggregate rule "expected_value" "MIN(" "dq_min"
  | some .max => columnAggregate rule "expected_value" "MAX(" "dq_max"
  | some .distinctCount => columnAggregate rule "expected_count" "COUNT(DISTINCT " "dq_count"
  | _ => .error (.valueError ("Unsupported aggregate rule type: " ++ rule.ruleType))

def lowerAggregateRuleToTrino (rule : TrinoRule) : Except Raised LoweredRule := do
  raiseForUnsupportedTrinoConstructs rule
  let table ← escapeRuleTable rule
  let parts ← aggregateParts rule
  let whereClause ← formatWhereClause (rule.params.get "where")
  let havingClause ← formatHavingClause (rule.params.get "having") parts.expression
  return lowered .aggregateDq
    (parts.expression ++ " = " ++ formatTrinoLiteral parts.expected) none
    ("SELECT " ++ parts.expression ++ " AS " ++ parts.resultAlias ++
      " FROM " ++ table ++ whereClause ++ havingClause)

def lowerQueryRuleToTrino (rule : TrinoRule) : Except Raised LoweredRule := do
  raiseForUnsupportedTrinoConstructs rule
  let queryText := (rule.params.get "query").strippedText
  if queryText = [] then
    .error (.valueError "Query DQ rule requires 'query' parameter")
  else
    return lowered .queryDq "query result count == expected_count" (some rule.params)
      queryText

end DqMadeEasy.Trino
