import DqMadeEasy.Gx.Expectation
import DqMadeEasy.Text.Pattern

/-!
# Translation of a filter to expectations

A filter is translated predicate by predicate. Two whole-filter shapes are recognised first: the
window text of a uniqueness rule, and a disjunction of context values each with its own
allowlist. A filter with an `OR` gets one expectation for each predicate, and its own row
condition attached to all of them.

Every refusal of the source is kept with its message.
-/

namespace DqMadeEasy

/-- Text of a flat operator. -/
def Operator.name : Operator → String
  | .isNull => "IS NULL"
  | .isNotNull => "IS NOT NULL"
  | .isTrue => "IS TRUE"
  | .eq => "="
  | .ne => "!="
  | .gt => ">"
  | .ge => ">="
  | .lt => "<"
  | .le => "<="
  | .between => "BETWEEN"
  | .notBetween => "NOT BETWEEN"
  | .in_ => "IN"
  | .notIn => "NOT IN"
  | .like => "LIKE"
  | .notLike => "NOT LIKE"
  | .rlike => "RLIKE"
  | .notRlike => "NOT RLIKE"
  | .notTilde => "!~"
  | .other text => String.ofList text

namespace Gx

/-! ### Pieces of the translation -/

def normalizeRegexFlags (flags : Text) : Except GxExpectationBuildError Text :=
  if (Text.removeSpaces flags).all fun c => c == 'i' || c == 'm' || c == 's' then
    .ok (Text.removeSpaces flags)
  else raise "REGEXP_MATCHES only supports regex flags 'i', 'm', and 's'"

def composeRegexPattern (pattern flags : Text) : Text :=
  if flags = [] then pattern else "(?" ++ flags ++ ')' :: pattern

def sqlLikeToRegex (pattern : Text) : Text :=
  Pattern.renderAnchored (Pattern.itemsOfWildcards (stripSqlStringQuotes pattern))

def isCurrentTime (t : Text) : Bool :=
  let reference := (Text.removeSpaces t).map Char.toUpper
  reference == "NOW()" || reference == "CURRENT_DATE" ||
    reference == "CURRENT_DATE()"

/-- `int` of a numeric literal: truncation toward zero. -/
def truncate : PyValue → Option ℤ
  | .bool b => some (if b then 1 else 0)
  | .int n => some n
  | .float (.finite q) => some (if q < 0 then -(-q).floor else q.floor)
  | _ => none

def argumentColumn (argument : Text) : Except GxExpectationBuildError Text := do
  let ref ← parseFieldRef argument
  .ok ref.column

section Calls

variable [PyRuntime]

/-- The whole-number bound of `DATEDIFF` and `TIMESTAMPDIFF`. A float that has no integer part
stops the translation as well, with the error of `int`. -/
def wholeBound (name : String) (value : Text) : Except GxExpectationBuildError ℤ := do
  let literal ← parseSqlLiteral value
  if literal.isNumber then
    match truncate literal with
    | some bound => .ok bound
    | none => raise "cannot convert float to integer"
  else
    raise (name ++ " translation requires a numeric literal, got: " ++ String.ofList value.strip)

/-- The `REGEXP_MATCHES` call. -/
def regexpMatchesKind (operator : Operator) (arguments : List Text) :
    Except GxExpectationBuildError ExpectationKind :=
  if operator ≠ .isTrue then
    raise ("REGEXP_MATCHES translation only supports IS TRUE predicates, got: " ++ operator.name)
  else
    match arguments with
    | [subject, pattern] => do
      let column ← argumentColumn subject
      .ok (.matchRegex false column (stripSqlStringQuotes pattern))
    | [subject, pattern, flags] => do
      let column ← argumentColumn subject
      let flags ← normalizeRegexFlags (stripSqlStringQuotes flags)
      .ok (.matchRegex false column (composeRegexPattern (stripSqlStringQuotes pattern) flags))
    | _ => raise "REGEXP_MATCHES requires an attribute, a pattern, and optional flags"

/-- The `DATEDIFF` call. -/
def dateDiffKind (operator : Operator) (arguments : List Text) (value : Text) :
    Except GxExpectationBuildError ExpectationKind :=
  match arguments with
  | [reference, subject] =>
    if !isCurrentTime reference then
      raise ("DATEDIFF translation only supports NOW() or CURRENT_DATE references, got: " ++
        String.ofList reference)
    else if operator ≠ .le ∧ operator ≠ .lt then
      raise ("DATEDIFF translation only supports <= or < comparisons, got: " ++ operator.name)
    else do
      let bound ← wholeBound "DATEDIFF" value
      let column ← argumentColumn subject
      .ok (.withinPastDays column bound "now")
  | _ => raise "DATEDIFF requires a reference and an attribute"

/-- The `TIMESTAMPDIFF` call. -/
def timestampDiffKind (operator : Operator) (arguments : List Text) (value : Text) :
    Except GxExpectationBuildError ExpectationKind :=
  match arguments with
  | [unit, start, finish] =>
    if (Text.removeSpaces (stripSqlStringQuotes unit)).map Char.toUpper ≠ "HOUR" then
      raise ("TIMESTAMPDIFF translation only supports HOUR units, got: " ++ String.ofList unit)
    else if operator ≠ .le ∧ operator ≠ .lt then
      raise ("TIMESTAMPDIFF translation only supports <= or < comparisons, got: " ++ operator.name)
    else do
      let bound ← wholeBound "TIMESTAMPDIFF" value
      let column ← argumentColumn finish
      let startColumn ← argumentColumn start
      .ok (.maxLagHours column startColumn bound)
  | _ => raise "TIMESTAMPDIFF requires a unit, a start attribute, and an end attribute"

/-- The comparison of a field with the current time. -/
def currentTimeKind (p : FlatPredicate) : Except GxExpectationBuildError (Option ExpectationKind) :=
  if (p.operator = .le ∨ p.operator = .lt) ∧ p.valueType = .expression ∧
      isCurrentTime p.value.strip then do
    let column ← argumentColumn p.field.strip
    .ok (some (.notInFuture column none))
  else .ok none

/-- `_build_expression_based_expectation`. -/
def expressionBasedKind (p : FlatPredicate) :
    Except GxExpectationBuildError (Option ExpectationKind) :=
  match parseFunctionCall p.field.strip with
  | some (name, arguments) =>
    if name = "REGEXP_MATCHES" then do
      let kind ← regexpMatchesKind p.operator arguments
      .ok (some kind)
    else if name = "DATEDIFF" then do
      let kind ← dateDiffKind p.operator arguments p.value.strip
      .ok (some kind)
    else if name = "TIMESTAMPDIFF" then do
      let kind ← timestampDiffKind p.operator arguments p.value.strip
      .ok (some kind)
    else currentTimeKind p
  | none => currentTimeKind p

/-- The pattern the translation writes for a blank text. Its source is a raw string with doubled
backslashes, so it asks for a backslash followed by any number of the letter `s`. -/
def blankTextRegex : Text := "^\\\\s*$"

/-- The bounds of a one-sided comparison. -/
def comparisonBounds (op : Comparison) (literal : PyValue) : Bounds :=
  match op with
  | .gt => { minValue := literal, strictMin := true }
  | .ge => { minValue := literal }
  | .lt => { maxValue := literal, strictMax := true }
  | _ => { maxValue := literal }

/-- The equality and inequality branch. -/
def equalityKind (negated : Bool) (column value : Text) :
    Except GxExpectationBuildError ExpectationKind := do
  let literal ← parseSqlLiteral value
  .ok (.inSet negated column [literal])

/-- The branch of the four order comparisons. -/
def orderKind (op : Comparison) (column value : Text) :
    Except GxExpectationBuildError ExpectationKind := do
  let literal ← parseSqlLiteral value
  if literal.isNumber then .ok (.between false column (comparisonBounds op literal))
  else raise ("Numeric comparison requires numeric literal, got: " ++ String.ofList value.strip)

/-- The branch of ranges. -/
def rangeKind (negated : Bool) (column value : Text) :
    Except GxExpectationBuildError ExpectationKind := do
  let (lower, upper) ← parseBetweenBounds value
  .ok (.between negated column { minValue := lower, maxValue := upper })

def listKind (negated : Bool) (column value : Text) :
    Except GxExpectationBuildError ExpectationKind := do
  let values ← parseInList value
  .ok (.inSet negated column values)

/-- The branch of regular expressions. -/
def rlikeKind (negated : Bool) (column value : Text) :
    Except GxExpectationBuildError ExpectationKind :=
  if stripSqlStringQuotes value = [] then raise "RLIKE regex literal is empty"
  else .ok (.matchRegex negated column (stripSqlStringQuotes value))

/-- The branches of the translation that look at the operator alone. -/
def operatorKind (p : FlatPredicate) (column : Text) :
    Except GxExpectationBuildError ExpectationKind :=
  match p.operator with
  | .isNotNull => .ok (.notBeNull column)
  | .isNull => .ok (.beNull column)
  | .isTrue => .ok (.inSet false column [.bool true])
  | operator =>
    if p.valueType = .expression then nonLiteralOperand p.field p.value
    else
      match operator with
      | .eq => equalityKind false column p.value
      | .ne => equalityKind true column p.value
      | .gt => orderKind .gt column p.value
      | .ge => orderKind .ge column p.value
      | .lt => orderKind .lt column p.value
      | .le => orderKind .le column p.value
      | .between => rangeKind false column p.value
      | .notBetween => rangeKind true column p.value
      | .in_ => listKind false column p.value
      | .notIn => listKind true column p.value
      | .like => .ok (.matchRegex false column (sqlLikeToRegex p.value))
      | .notLike => .ok (.matchRegex true column (sqlLikeToRegex p.value))
      | .rlike => rlikeKind false column p.value
      | .notRlike => rlikeKind true column p.value
      | operator =>
        raise ("Unsupported predicate operator for GX translation: " ++ operator.name)

/-- `TRIM(column)` compared with a string literal. -/
def comparesTrimmed (p : FlatPredicate) (ref : FieldRef) : Bool :=
  ref.wrapper == some .trim && (p.operator == .eq || p.operator == .ne) && p.valueType == .string

/-- The loop body of `build_gx_expectations_from_intermediate_model`. -/
def translatePredicate (p : FlatPredicate) : Except GxExpectationBuildError ExpectationKind := do
  let special ← expressionBasedKind p
  match special with
  | some kind => .ok kind
  | none => do
    let ref ← parseFieldRef p.field
    if comparesTrimmed p ref then do
      let literal ← parseSqlLiteral p.value
      if literal = .str [] then .ok (.matchRegex (p.operator == .ne) ref.column blankTextRegex)
      else operatorKind p ref.column
    else operatorKind p ref.column

end Calls

/-! ### Uniqueness windows -/

/-- At least one white-space character, and the text after all of them. -/
def skipSpaces (t : Text) : Option Text :=
  match t with
  | c :: cs => if isSpace c then some (cs.dropWhile isSpace) else none
  | [] => none

/-- An identifier under `re.IGNORECASE`. -/
def isFoldedIdent : Text → Bool
  | [] => false
  | c :: cs => isIdentStartFolded c && cs.all isIdentRestFolded

/-- `_UNIQUENESS_WINDOW_RE` up to the column list: `COUNT(*) OVER (PARTITION BY`. -/
def uniquenessPrefix (t : Text) : Option Text := do
  let t ← Text.dropWord "COUNT(*)" t
  let t ← skipSpaces t
  let t ← Text.dropWord "OVER" t
  let t ← Text.dropWord ['('] (Text.lstrip t)
  let t ← Text.dropWord "PARTITION" (Text.lstrip t)
  let t ← skipSpaces t
  let t ← Text.dropWord "BY" t
  skipSpaces t

/-- `_UNIQUENESS_WINDOW_RE` after the column list: a closing parenthesis and `= 1`. -/
def completesUniqueness (t : Text) : Bool :=
  match t with
  | ')' :: t =>
    match Text.lstrip t with
    | '=' :: t => Text.strip t == ['1']
    | _ => false
  | _ => false

def parseUniquenessColumns (expression : Text) : Option (List Text) :=
  match uniquenessPrefix expression.strip with
  | none => none
  | some t =>
    let columns := (Text.splitOn ',' (t.takeWhile (· != ')'))).map Text.strip
    if columns.all isFoldedIdent && completesUniqueness (t.dropWhile (· != ')')) then some columns
    else none

/-! ### Conditional allowlists -/

/-- `_flatten_ast_branches`. -/
def flattenBranches (op : Connective) : Ast → List Ast
  | .logical op' left right =>
    if op' = op then flattenBranches op left ++ flattenBranches op right
    else [.logical op' left right]
  | node => [node]

/-- The context and the allowlist predicate found in a branch so far. -/
structure BranchParts where
  context : Option (Predicate × FieldRef) := none
  allowlist : Option (Predicate × FieldRef) := none

section Allowlists

variable [PyRuntime]

/-- One conjunct of a branch: the first equality is the context, the first list the allowlist.
`none` gives up; a field that cannot be read stops the translation. -/
def scanConjunct (parts : BranchParts) (node : Ast) :
    Except GxExpectationBuildError (Option BranchParts) :=
  match node with
  | .predicate p => do
    let ref ← parseFieldRef p.field
    match p.test with
    | .compare .eq _ =>
      if parts.context.isSome then .ok (some parts)
      else if ref.wrapper.isSome then .ok none
      else .ok (some { parts with context := some (p, ref) })
    | .inList false _ =>
      if parts.allowlist.isSome then .ok (some parts)
      else if ref.wrapper = none ∨ ref.wrapper = some .lower then
        .ok (some { parts with allowlist := some (p, ref) })
      else .ok none
    | _ => .ok (some parts)
  | _ => do
    let _ ← parseFieldRef []
    .ok (some parts)

/-- What one branch says: the two columns, the case sensitivity, the context value, and the
values allowed there. -/
structure Branch where
  contextColumn : Text
  attributeColumn : Text
  caseSensitive : Bool
  contextValue : PyValue
  allowedValues : List PyValue

/-- The values of a context and an allowlist predicate. -/
def readBranch (context allowlist : Predicate × FieldRef) :
    Except GxExpectationBuildError (Option Branch) :=
  if allowlist.2.column = context.2.column then .ok none
  else
    match context.1.test, allowlist.1.test with
    | .compare _ operand, .inList _ operands => do
      let value ← literalFromAst operand
      let values ← operands.mapM literalFromAst
      .ok (some ⟨context.2.column, allowlist.2.column, allowlist.2.wrapper.isNone, value, values⟩)
    | _, _ => .ok none

/-- One branch of the disjunction: exactly two conjuncts, one of each kind. -/
def scanBranch (branch : Ast) : Except GxExpectationBuildError (Option Branch) :=
  match flattenBranches .and branch with
  | [first, second] => do
    let some parts ← scanConjunct {} first | .ok none
    let some parts ← scanConjunct parts second | .ok none
    match parts.context, parts.allowlist with
    | some context, some allowlist => readBranch context allowlist
    | _, _ => .ok none
  | _ => .ok none

/-- Allowed values by context value, in order of first appearance. -/
abbrev GroupedAllowlists := List (PyValue × List PyValue)

/-- `setdefault` and `extend` on the dictionary of allowlists. -/
def extendGroup (value : PyValue) (allowed : List PyValue) : GroupedAllowlists → GroupedAllowlists
  | [] => [(value, allowed)]
  | (key, values) :: rest =>
    if key.pyEq value then (key, values ++ allowed) :: rest
    else (key, values) :: extendGroup value allowed rest

/-- The loop over the branches. All of them must name the same columns and agree on the case
sensitivity. -/
def scanBranches (first : Option Branch) (groups : GroupedAllowlists) :
    List Ast → Except GxExpectationBuildError (Option (Branch × GroupedAllowlists))
  | [] => .ok (first.map fun branch => (branch, groups))
  | node :: rest => do
    let some branch ← scanBranch node | .ok none
    match first with
    | none =>
      scanBranches (some branch) (extendGroup branch.contextValue branch.allowedValues groups) rest
    | some known =>
      if known.contextColumn = branch.contextColumn ∧
          known.attributeColumn = branch.attributeColumn ∧
          known.caseSensitive = branch.caseSensitive then
        scanBranches first (extendGroup branch.contextValue branch.allowedValues groups) rest
      else .ok none

def mergeLiteralValues (values : List PyValue) : List PyValue :=
  values.foldl
    (fun merged value => if merged.any (·.pyEq value) then merged else merged ++ [value]) []

/-- The expectations of a recognised conditional allowlist. -/
def conditionalAllowlistKinds (branch : Branch) (groups : GroupedAllowlists) :
    List ExpectationKind :=
  .notBeNull branch.contextColumn ::
    .inSet false branch.contextColumn (groups.map Prod.fst) ::
    groups.map fun group =>
      .inSetForOther branch.attributeColumn branch.contextColumn group.1
        (mergeLiteralValues group.2) branch.caseSensitive

/-- `_build_conditional_allowlist_expectations_from_intermediate_model`. -/
def conditionalAllowlist (ast : Option Ast) :
    Except GxExpectationBuildError (Option (List ExpectationKind)) :=
  match ast with
  | none => .ok none
  | some ast =>
    if (flattenBranches .or ast).length < 2 then .ok none
    else do
      let found ← scanBranches none [] (flattenBranches .or ast)
      .ok (found.map fun result => conditionalAllowlistKinds result.1 result.2)

/-! ### The translation -/

def uniquenessKind (columns : List Text) : ExpectationKind :=
  match columns with
  | [column] => .unique column
  | columns => .compoundUnique (columns.headD []) columns

/-- `build_gx_expectations_from_intermediate_model`. -/
def buildExpectations (payload : FilterPayload) (tags : Meta) :
    Except GxExpectationBuildError (List Expectation) :=
  let expectation (kind : ExpectationKind) : Expectation := { kind := kind, tags := tags }
  match parseUniquenessColumns (passThroughFilter payload) with
  | some columns => .ok [expectation (uniquenessKind columns)]
  | none => do
    let allowlist ← conditionalAllowlist payload.ast
    match allowlist with
    | some kinds => .ok (kinds.map expectation)
    | none =>
      if LogicalOperator.not ∈ payload.logicalOperators then
        raise "GX translation does not support unary NOT expressions"
      else if LogicalOperator.or ∈ payload.logicalOperators ∧ payload.ast = none then
        raise "GX translation does not support OR / unary NOT expressions"
      else if payload.predicates = [] then raise "No predicates available for GX translation"
      else do
        let kinds ← payload.predicates.mapM translatePredicate
        if LogicalOperator.or ∈ payload.logicalOperators then
          attachRowConditions (kinds.map expectation) (some payload)
        else .ok (kinds.map expectation)

end Allowlists

end Gx

end DqMadeEasy
