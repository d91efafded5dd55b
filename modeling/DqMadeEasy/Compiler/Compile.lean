import DqMadeEasy.Compiler.Extract
import DqMadeEasy.Compiler.Normalize
import DqMadeEasy.Compiler.Parser
import DqMadeEasy.Gx.Translation

/-!
# Compilation of a rule

`compile_rule_to_intermediate_model` normalises an expression, validates it, collects
diagnostics, extracts predicates by regular expressions, and parses. A parse error is recorded
as a warning and leaves the extracted predicates in place; otherwise the predicates and
connectives of the tree are published. Only errors and the two reserved-word diagnostics make a
rule uncompilable.

The join definition of a rule contributes at most one diagnostic; its error text is an input
here.
-/

namespace DqMadeEasy

/-- Codes of the compiler's diagnostics. -/
inductive DiagnosticCode where
  | filterValidation | reservedKeyword | unsupportedAggregate | joinValidation | astParse
  deriving DecidableEq, Repr

/-- Severities of the compiler's diagnostics. -/
inductive Severity where
  | error | warning | info
  deriving DecidableEq, Repr

/-- A diagnostic. -/
structure Diagnostic where
  code : DiagnosticCode
  severity : Severity
  message : String
  deriving DecidableEq, Repr

/-- The compiler's output: the filter, the diagnostics, and whether the rule can be compiled. -/
structure IntermediateModel where
  filter : FilterPayload
  diagnostics : List Diagnostic
  compilable : Bool

namespace Validate

/-- Where the parenthesis scan stands. -/
inductive Quote where
  | outside | single | double
  deriving DecidableEq, Repr

/-- Result of the parenthesis scan: a closing parenthesis too many, or the final state. -/
inductive ScanEnd where
  | unmatchedClosing
  | finished (quote : Quote) (depth : ℤ)
  deriving DecidableEq, Repr

/-- The scanning loop of `validate_filter_expression`. A quote that the same quote follows is
passed over, and the one after it is looked at again. -/
def scanQuotes (quote : Quote) (depth : ℤ) : Text → ScanEnd
  | [] => .finished quote depth
  | c :: cs =>
    match quote with
    | .single =>
      if c = '\'' ∧ cs.head? = some '\'' then scanQuotes .single depth cs
      else if c = '\'' then scanQuotes .outside depth cs
      else scanQuotes .single depth cs
    | .double =>
      if c = '"' ∧ cs.head? = some '"' then scanQuotes .double depth cs
      else if c = '"' then scanQuotes .outside depth cs
      else scanQuotes .double depth cs
    | .outside =>
      if c = '\'' then scanQuotes .single depth cs
      else if c = '"' then scanQuotes .double depth cs
      else if c = '(' then scanQuotes .outside (depth + 1) cs
      else if c = ')' then
        if depth - 1 < 0 then .unmatchedClosing else scanQuotes .outside (depth - 1) cs
      else scanQuotes .outside depth cs

def occurs (part t : Text) : Bool := t.tails.any part.isPrefixOf

variable [PyRuntime]

/-- `^(AND|OR)\b` on an upper-case text. -/
def startsWithConnective (upper : Text) : Bool :=
  ["AND".toList, "OR".toList].any fun w =>
    w.isPrefixOf upper && Scan.boundary w.getLast? (upper.drop w.length)

/-- `\b(AND|OR)$` on an upper-case text without a trailing line break. -/
def endsWithConnective (upper : Text) : Bool :=
  ["AND".toList, "OR".toList].any fun w =>
    w.isSuffixOf upper &&
      Scan.boundary (upper.take (upper.length - w.length)).getLast? w

/-- The checks of `validate_filter_expression` after the parenthesis scan. -/
def connectiveError (upper : Text) : Option String :=
  if startsWithConnective upper then some "Expression cannot start with AND/OR"
  else if endsWithConnective upper then some "Expression cannot end with AND/OR"
  else if occurs "AND AND" upper || occurs "AND OR" upper ||
      occurs "OR OR" upper || occurs "OR AND" upper then
    some "Consecutive logical operators detected"
  else none

end Validate

section Compile

variable [PyRuntime]

def validateFilterExpression (raw : Text) : Option String :=
  let expression := raw.strip
  if expression = [] then some "Filter expression is required"
  else if ';' ∈ expression then some "Do not use semicolons in filter expressions"
  else if Validate.occurs "--" expression || Validate.occurs "/*" expression ||
      Validate.occurs "*/" expression then
    some "Comments are not allowed in filter expressions"
  else
    match Validate.scanQuotes .outside 0 expression with
    | .unmatchedClosing =>
      some ("Unbalanced parentheses: found a closing parenthesis without matching " ++
        "opening parenthesis")
    | .finished .single _ => some "Unclosed single quote in filter expression"
    | .finished .double _ => some "Unclosed double quote in filter expression"
    | .finished .outside depth =>
      if depth ≠ 0 then some "Unbalanced parentheses in filter expression"
      else Validate.connectiveError expression.upper

def scrubSingle (_ : Option Char) (t : Text) : Option (Text × Text) :=
  match t with
  | '\'' :: cs => (Tokenizer.singleQuoted cs).map fun (_, rest) => ([' '], rest)
  | _ => none

def scrubDouble (_ : Option Char) (t : Text) : Option (Text × Text) :=
  match t with
  | '"' :: cs => (Tokenizer.doubleQuoted cs).map fun (_, rest) => ([' '], rest)
  | _ => none

/-- The expression without its string literals. -/
def scrubLiterals (t : Text) : Text := Scan.sub scrubDouble (Scan.sub scrubSingle t)

/-- `_REFERENTIAL_INTEGRITY_SUBQUERY_REGEX` on a stripped text. -/
def isReferentialSubquery (t : Text) : Bool :=
  let result := do
    let (_, t) ← Extract.ident t
    let t ← Extract.spaces1 t
    let t ← Text.dropWord "IN" t
    let t ← Text.dropWord ['('] (Text.lstrip t)
    let t ← Text.dropWord "SELECT" (Text.lstrip t)
    let t ← Extract.spaces1 t
    let (_, t) ← Extract.ident t
    let t ← Extract.spaces1 t
    let t ← Text.dropWord "FROM" t
    let t ← Extract.spaces1 t
    if t.head?.any Gx.isIdentStartFolded then
      Text.dropWord [')'] (Text.lstrip (t.dropWhile fun c => Gx.isIdentRestFolded c || c == '-'))
    else none
  result == some []

/-- `\b(?:COUNT|SUM|AVG|MIN|MAX)\s*\(`. -/
def aggregateCall : Scan.Matcher Unit := fun prev t =>
  if Scan.boundary prev t then
    ["COUNT".toList, "SUM".toList, "AVG".toList, "MIN".toList, "MAX".toList].findSome? fun w =>
      (Text.dropWord w t).bind fun rest =>
        (Text.dropWord ['('] (Text.lstrip rest)).map fun rest => ((), rest)
  else none

def compileDiagnostics (normalized : Text) (validationError : Option String) : List Diagnostic :=
  let scrubbed := scrubLiterals normalized
  (match validationError with
    | some message => [⟨.filterValidation, .error, message⟩]
    | none => []) ++
  (if Scan.search (Scan.word "SELECT") scrubbed &&
      !isReferentialSubquery scrubbed.strip then
    [⟨.reservedKeyword, .warning, "Reserved keyword SELECT triggers alias warning"⟩]
  else []) ++
  (if Scan.search aggregateCall scrubbed && (Gx.parseUniquenessColumns scrubbed).isNone then
    [⟨.unsupportedAggregate, .error,
      "COUNT, SUM, AVG, MIN, MAX are reserved; no GROUP BY semantics"⟩]
  else [])

/-- The two codes that make a rule uncompilable whatever their severity. -/
def Diagnostic.blocks (d : Diagnostic) : Bool :=
  d.code == .reservedKeyword || d.code == .unsupportedAggregate

def AstParserError.text : AstParserError → String
  | .message text => text
  | .outOfFuel => ""

/-- `_compile_expression_ast`: an empty expression has no tree and no error. -/
def compileExpressionAst (normalized : Text) : Option Ast × Option AstParserError :=
  if normalized = [] then (none, none)
  else
    match parseExpression normalized with
    | .ok ast => (some ast, none)
    | .error error => (none, some error)

/-- The diagnostics before parsing. -/
def baseDiagnostics (normalized : Text) (joinError : Option String) : List Diagnostic :=
  compileDiagnostics normalized (validateFilterExpression normalized) ++
    match joinError with
    | some message => [⟨.joinValidation, .error, message⟩]
    | none => []

def compileRuleToIntermediateModel (filterExpression : Text) (joinError : Option String) :
    IntermediateModel :=
  let normalized := normalizeExpression filterExpression
  let base := baseDiagnostics normalized joinError
  let ast := (compileExpressionAst normalized).1
  let warned : Option Diagnostic :=
    match (compileExpressionAst normalized).2 with
    | some error =>
      if base.any Diagnostic.blocks then none
      else some ⟨.astParse, .warning, "AST parse warning: " ++ error.text⟩
    | none => none
  let diagnostics := base ++ warned.toList
  { filter :=
      { source := filterExpression.strip
        normalized := normalized
        predicates :=
          match warned, ast with
          | some _, _ => compilePredicates normalized
          | none, some ast => ast.collectPredicates
          | none, none => []
        logicalOperators :=
          match ast with
          | some ast => ast.collectLogicalOperators
          | none => extractLogicalOperators normalized
        ast := ast }
    diagnostics := diagnostics
    compilable := !(diagnostics.any fun d => d.severity == .error) &&
      !(diagnostics.any Diagnostic.blocks) }

theorem normalizeExpression_strip (e : Text) :
    (normalizeExpression e).strip = normalizeExpression e := by
  simp [normalizeExpression]

/-- A compiled filter that has a tree publishes the predicates and connectives of that tree. -/
theorem compile_of_ast {e : Text} {joinError : Option String} {ast : Ast}
    (h : (compileRuleToIntermediateModel e joinError).filter.ast = some ast) :
    parseExpression (normalizeExpression e) = .ok ast ∧
      (compileRuleToIntermediateModel e joinError).filter.predicates = ast.collectPredicates ∧
      (compileRuleToIntermediateModel e joinError).filter.logicalOperators =
        ast.collectLogicalOperators ∧
      Gx.passThroughFilter (compileRuleToIntermediateModel e joinError).filter =
        normalizeExpression e := by
  have hast : (compileExpressionAst (normalizeExpression e)).1 = some ast := h
  by_cases hempty : normalizeExpression e = []
  · simp [compileExpressionAst, hempty] at hast
  · cases hparse : parseExpression (normalizeExpression e) with
    | error error => simp [compileExpressionAst, hempty, hparse] at hast
    | ok ast' =>
      obtain rfl : ast' = ast := by simpa [compileExpressionAst, hempty, hparse] using hast
      have hcompiled : compileExpressionAst (normalizeExpression e) = (some ast', none) := by
        simp [compileExpressionAst, hempty, hparse]
      refine ⟨rfl, ?_, ?_, ?_⟩
      · simp [compileRuleToIntermediateModel, hcompiled]
      · simp [compileRuleToIntermediateModel, hcompiled]
      · simp [compileRuleToIntermediateModel, Gx.passThroughFilter, hempty,
          normalizeExpression_strip]

theorem compile_ast_of_parse {e : Text} {ast : Ast} (joinError : Option String)
    (h : parseExpression (normalizeExpression e) = .ok ast) :
    (compileRuleToIntermediateModel e joinError).filter.ast = some ast := by
  by_cases hempty : normalizeExpression e = []
  · rw [hempty] at h
    cases h
  · simp [compileRuleToIntermediateModel, compileExpressionAst, hempty, h]

/-- A compiled filter without a tree publishes the recovered predicates, if it publishes any. -/
theorem compile_of_no_ast {e : Text} {joinError : Option String}
    (hparse : ∀ ast, parseExpression (normalizeExpression e) ≠ .ok ast) :
    (compileRuleToIntermediateModel e joinError).filter.ast = none ∧
      ((compileRuleToIntermediateModel e joinError).filter.predicates ≠ [] →
        (compileRuleToIntermediateModel e joinError).filter.predicates =
          compilePredicates (normalizeExpression e)) := by
  have hast : (compileExpressionAst (normalizeExpression e)).1 = none := by
    rw [compileExpressionAst]
    split
    · rfl
    · split
      · rename_i ast hok
        exact absurd hok (hparse ast)
      · rfl
  refine ⟨hast, ?_⟩
  simp only [compileRuleToIntermediateModel, hast]
  split
  · intro _
    rfl
  · contradiction
  · intro hne
    exact absurd rfl hne

end Compile

end DqMadeEasy
