import DqMadeEasy.Semantics.Refinement

/-!
# Whole expressions and their suites

A source text has a meaning when it parses, or when it is a uniqueness window. The compiler
publishes a suite for other texts as well: when the normalised text has no tree, the predicates
that the regular expressions recovered are translated one by one, and the rest of the text is
dropped.

A suite accounts for its source on a row when, however the query engine reads texts without a
meaning, the row satisfies the source exactly when no expectation fails on it. That asks for
three things: the source has a meaning, normalisation keeps it on the row, and the tree is
respected by its checks.
-/

namespace DqMadeEasy

/-- A row at its place in a frame. -/
structure Place (Cell : Type*) where
  before : List (Row Cell)
  row : Row Cell
  after : List (Row Cell)

namespace Engine

open Gx Worker

variable {Cell : Type*} (E : Engine Cell)

def sharesGroup (columns : List Text) (place : Place Cell) : Bool :=
  place.before.any (fun other => agreeOn E columns other place.row) ||
    place.after.any (agreeOn E columns place.row)

def scopedPlace (keep : Row Cell → Truth) (place : Place Cell) : Place Cell where
  before := place.before.filter fun row => keep row == .yes
  row := place.row
  after := place.after.filter fun row => keep row == .yes

variable [PyRuntime]

/-- Meaning of a text on a row of a frame: that of its tree, or of a uniqueness window. -/
def textTruth (t : Text) : Option (Place Cell → Truth) :=
  match parseExpression t with
  | .ok ast => some fun place => E.truth place.row ast
  | .error _ => (parseUniquenessColumns t).map fun columns place =>
    Truth.ofBool !E.sharesGroup columns place

def Reads (reading : Text → Place Cell → Truth) : Prop :=
  ∀ t truth, E.textTruth t = some truth → reading t = truth

def filterAt (reading : Text → Place Cell → Truth) (place : Place Cell) (t : Text)
    (row : Row Cell) : Truth :=
  reading t { place with row := row }

/-- Some expectation of a suite fails on a row of a frame. -/
def ReportedAt (reading : Text → Place Cell → Truth) (suite : List Expectation)
    (place : Place Cell) : Prop :=
  E.Reported (filterAt reading place) suite place.row ∨
    ∃ expectation ∈ suite, ∃ columns, uniqueColumns expectation.kind = some columns ∧
      (∀ condition ∈ expectation.rowCondition,
        E.conditionTruth (filterAt reading place) place.row condition = .yes) ∧
      E.sharesGroup columns (scopedPlace (fun row => expectation.rowCondition.elim .yes fun c =>
        E.conditionTruth (filterAt reading place) row c) place) = true

def Accounts (source : Text) (suite : List Expectation) (place : Place Cell) : Prop :=
  ∀ reading, E.Reads reading → (reading source place = .yes ↔ ¬E.ReportedAt reading suite place)

/-- The reading that leaves texts without a meaning unknown, except for one of them. -/
def readingWith (source : Text) (value : Truth) (t : Text) (place : Place Cell) : Truth :=
  match E.textTruth t with
  | some truth => truth place
  | none => if t = source then value else .unknown

theorem reads_readingWith (source : Text) (value : Truth) :
    E.Reads (E.readingWith source value) := by
  intro t truth h
  funext place
  rw [readingWith, h]

theorem readsFilters_filterAt {reading : Text → Place Cell → Truth} (h : E.Reads reading)
    (place : Place Cell) : E.ReadsFilters (filterAt reading place) := by
  intro t ast hparse row
  have htruth : E.textTruth t = some fun place : Place Cell => E.truth place.row ast := by
    rw [textTruth, hparse]
  rw [filterAt, h t _ htruth]

theorem reportedAt_of_checksRows {reading : Text → Place Cell → Truth}
    {suite : List Expectation} {place : Place Cell}
    (h : ∀ expectation ∈ suite, expectation.kind.checksRows = true) :
    E.ReportedAt reading suite place ↔ E.Reported (filterAt reading place) suite place.row := by
  constructor
  · rintro (hreported | ⟨expectation, hmem, columns, hcolumns, -⟩)
    · exact hreported
    · rw [uniqueColumns_of_checksRows (h expectation hmem)] at hcolumns
      cases hcolumns
  · exact Or.inl

theorem accounts_iff_of_textTruth {source : Text} {suite : List Expectation} {place : Place Cell}
    {truth : Place Cell → Truth} {reported : Prop} (htruth : E.textTruth source = some truth)
    (hreported : ∀ reading, E.Reads reading → (E.ReportedAt reading suite place ↔ reported)) :
    E.Accounts source suite place ↔ (truth place = .yes ↔ ¬reported) := by
  constructor
  · intro h
    have hreads := E.reads_readingWith source .unknown
    have hsource := h _ hreads
    rwa [hreported _ hreads, hreads source truth htruth] at hsource
  · intro h reading hreads
    rw [hreported reading hreads, hreads source truth htruth]
    exact h

theorem not_accounts_of_no_textTruth {source : Text} {suite : List Expectation}
    {place : Place Cell} {reported : Prop} (htruth : E.textTruth source = none)
    (hreported : ∀ reading, E.Reads reading → (E.ReportedAt reading suite place ↔ reported)) :
    ¬E.Accounts source suite place := by
  intro h
  have hvalue (value : Truth) : value = .yes ↔ ¬reported := by
    have hreads := E.reads_readingWith source value
    have hsource := h _ hreads
    rw [hreported _ hreads] at hsource
    simpa [readingWith, htruth] using hsource
  have hyes := (hvalue .yes).mp rfl
  have hno := (hvalue .no).mpr hyes
  cases hno

end Engine

namespace Gx

open Worker

section Account

variable {Cell : Type*} (E : Engine Cell) [PyRuntime]

/-! ### What each kind of suite reports -/

/-- The conditional allowlist a tree is recognised as. -/
def allowlistOf (ast : Ast) : Option (Branch × GroupedAllowlists) :=
  if (flattenBranches .or ast).length < 2 then none
  else
    match scanBranches none [] (flattenBranches .or ast) with
    | .ok found => found
    | .error _ => none

variable {ast : Ast} {tags : Meta} {columns : List Text} {suite : List Expectation} {e : Text}
  {joinError : Option String}

theorem conditionalAllowlist_ok {kinds : Option (List ExpectationKind)}
    (h : conditionalAllowlist (some ast) = .ok kinds) :
    kinds = (allowlistOf ast).map fun found => conditionalAllowlistKinds found.1 found.2 := by
  rw [conditionalAllowlist] at h
  rw [allowlistOf]
  split at h
  · rename_i hlength
    cases h
    rw [if_pos hlength]
    rfl
  · rename_i hlength
    obtain ⟨found, hfound, h⟩ := ok_of_bind h
    cases h
    rw [if_neg hlength, hfound]

/-- The attribute is among the allowed values, as the check of an allowlist compares them. -/
def listed (row : Row Cell) (branch : Branch) (values : List PyValue) : Truth :=
  if branch.caseSensitive then E.isIn (cell row branch.attributeColumn) (values.map E.lit)
  else
    E.textTest (fun t => (values.map fun v => PyRuntime.lower v.toText).contains (E.lower t))
      (cell row branch.attributeColumn)

/-- What the checks of a conditional allowlist ask of a row: its context is a known one, and the
attribute is allowed under every context value the row has. -/
def AllowlistPasses (row : Row Cell) (branch : Branch) (groups : GroupedAllowlists) : Prop :=
  E.isNull (cell row branch.contextColumn) = false ∧
    E.isIn (cell row branch.contextColumn) ((groups.map Prod.fst).map E.lit) ≠ .no ∧
    ∀ group ∈ groups, E.compare .eq (cell row branch.contextColumn) (E.lit group.1) = .yes →
      E.isNull (cell row branch.attributeColumn) = false ∧
        listed E row branch (mergeLiteralValues group.2) ≠ .no

/-- The suite of a conditional allowlist. -/
theorem reported_allowlist {filter : Text → Row Cell → Truth} {branch : Branch}
    {groups : GroupedAllowlists} {row : Row Cell} :
    E.Reported filter ((conditionalAllowlistKinds branch groups).map fun kind =>
        { kind := kind, tags := tags }) row ↔ ¬AllowlistPasses E row branch groups := by
  have hone (kind : ExpectationKind) {failure : Row Cell → Truth}
      (hfailure : failureCondition E kind = some failure) :
      reports E filter { kind := kind, tags := tags } row ↔ failure row = .yes := by
    simp [reports, hfailure]
  have hcontext := hone (.notBeNull branch.contextColumn) rfl
  have hknown := hone (.inSet false branch.contextColumn (groups.map Prod.fst)) rfl
  have hgroup (group : PyValue × List PyValue) :=
    hone (.inSetForOther branch.attributeColumn branch.contextColumn group.1
      (mergeLiteralValues group.2) branch.caseSensitive) rfl
  simp only [Engine.Reported, conditionalAllowlistKinds, List.map_cons, List.map_map,
    List.mem_cons, List.mem_map, Function.comp_apply, exists_eq_or_imp, exists_exists_and_eq_and,
    hcontext, hknown, hgroup, AllowlistPasses, listed]
  cases hnull : E.isNull (cell row branch.contextColumn)
  · cases hattribute : E.isNull (cell row branch.attributeColumn) <;>
      simpa using or_iff_not_imp_left
  · simp

omit [PyRuntime] in
theorem checksRows_conditionalAllowlistKinds {branch : Branch} {groups : GroupedAllowlists}
    {kind : ExpectationKind} (h : kind ∈ conditionalAllowlistKinds branch groups) :
    kind.checksRows = true := by
  simp only [conditionalAllowlistKinds, List.mem_cons, List.mem_map] at h
  rcases h with rfl | rfl | ⟨group, -, rfl⟩
  all_goals rfl

def Flagged (row : Row Cell) (p : FlatPredicate) : Prop :=
  ∃ kind failure, translatePredicate p = .ok kind ∧ failureCondition E kind = some failure ∧
    failure row = .yes

theorem reported_recovered {filter : Text → Row Cell → Truth} {predicates : List FlatPredicate}
    {kinds : List ExpectationKind} {row : Row Cell}
    (hkinds : predicates.mapM translatePredicate = .ok kinds) :
    E.Reported filter (kinds.map fun kind => { kind := kind, tags := tags }) row ↔
      ∃ p ∈ predicates, Flagged E row p := by
  constructor
  · rintro ⟨expectation, hmem, -, failure, hfailure, hyes⟩
    obtain ⟨kind, hkind, rfl⟩ := List.mem_map.mp hmem
    obtain ⟨p, hp, htranslate⟩ := mem_of_mapM hkinds hkind
    exact ⟨p, hp, kind, failure, htranslate, hfailure, hyes⟩
  · rintro ⟨p, hp, kind, failure, htranslate, hfailure, hyes⟩
    obtain ⟨kind', hkind, htranslate'⟩ := mapM_mem hkinds hp
    obtain rfl : kind = kind' := Except.ok.inj (htranslate.symm.trans htranslate')
    exact ⟨_, List.mem_map.mpr ⟨kind, hkind, rfl⟩, by simp, failure, hfailure, hyes⟩

theorem buildExpectations_of_window {payload : FilterPayload}
    (hwindow : parseUniquenessColumns (passThroughFilter payload) = some columns)
    (h : buildExpectations payload tags = .ok suite) :
    suite = [{ kind := uniquenessKind columns, tags := tags }] := by
  rw [buildExpectations, hwindow] at h
  cases h
  rfl

theorem allowlist_of_build {payload : FilterPayload}
    (hwindow : parseUniquenessColumns (passThroughFilter payload) = none)
    (h : buildExpectations payload tags = .ok suite) :
    ∃ kinds, conditionalAllowlist payload.ast = .ok kinds := by
  rw [buildExpectations, hwindow] at h
  obtain ⟨kinds, hkinds, -⟩ := ok_of_bind h
  exact ⟨kinds, hkinds⟩

theorem buildExpectations_of_allowlist {payload : FilterPayload} {kinds : List ExpectationKind}
    (hwindow : parseUniquenessColumns (passThroughFilter payload) = none)
    (hallowlist : conditionalAllowlist payload.ast = .ok (some kinds))
    (h : buildExpectations payload tags = .ok suite) :
    suite = kinds.map fun kind => { kind := kind, tags := tags } := by
  simp only [buildExpectations, hwindow, hallowlist, ok_bind] at h
  cases h
  rfl

/-- The suite of a text without a tree: one expectation for each recovered predicate. -/
theorem buildExpectations_of_no_ast {payload : FilterPayload} (hast : payload.ast = none)
    (hwindow : parseUniquenessColumns (passThroughFilter payload) = none)
    (h : buildExpectations payload tags = .ok suite) :
    payload.predicates ≠ [] ∧ ∃ kinds, payload.predicates.mapM translatePredicate = .ok kinds ∧
      suite = kinds.map fun kind => { kind := kind, tags := tags } := by
  have hallowlist : conditionalAllowlist payload.ast = .ok none := by
    rw [hast]
    rfl
  simp only [buildExpectations, hwindow, hallowlist, ok_bind] at h
  split at h
  · cases h
  split at h
  · cases h
  rename_i hor
  split at h
  · cases h
  rename_i hpredicates
  obtain ⟨kinds, hkinds, h⟩ := ok_of_bind h
  refine ⟨hpredicates, kinds, hkinds, ?_⟩
  split at h
  · rename_i hmem
    exact absurd ⟨hmem, hast⟩ hor
  · cases h
    rfl

/-! ### Trees and their suites -/

/-- A conjunct that is checked as it is written. -/
def Kept (row : Row Cell) (p : Predicate) : Prop :=
  isUnwrapped p.field = true ∧ (∀ operand ∈ p.test.operands, operand.valueType ≠ .expression) ∧
    E.ReadsBack row p

instance (row : Row Cell) (p : Predicate) : Decidable (Kept E row p) :=
  inferInstanceAs (Decidable (_ ∧ _ ∧ _))

/-- The suite of a tree treats a row correctly: a conditional allowlist by its context values,
a disjunction and a conjunction by their checks. -/
def TreeRespected (row : Row Cell) (ast : Ast) : Prop :=
  match allowlistOf ast with
  | some found => E.satisfies row ast ↔ AllowlistPasses E row found.1 found.2
  | none =>
    if ast.hasOr then DisjunctionRespected E row ast
    else ConjunctionRespected E (Kept E row) row ast

/-- The rows the suite of a tree reports. -/
def TreeReported (row : Row Cell) (ast : Ast) : Prop :=
  match allowlistOf ast with
  | some found => ¬AllowlistPasses E row found.1 found.2
  | none =>
    (ast.hasOr = true → E.scopeTruth row ast = .yes) ∧ ∃ p ∈ ast.predicates, ¬E.Passes row p

theorem treeRespected_iff {row : Row Cell}
    (hfree : allowlistOf ast = none → ast.negationFree = true) :
    (E.satisfies row ast ↔ ¬TreeReported E row ast) ↔ TreeRespected E row ast := by
  rw [TreeReported, TreeRespected]
  cases hallowlist : allowlistOf ast with
  | some found => simp only [not_not]
  | none =>
    cases hor : ast.hasOr with
    | true =>
      simp only [true_implies, if_true]
      rw [DisjunctionRespected, Engine.satisfies]
      split
      · rename_i hsat
        simp only [hsat, true_iff, not_and, not_exists, not_not]
      · rename_i hsat
        simp only [hsat, false_iff, not_not]
    | false =>
      have hkept : ∀ p ∈ ast.predicates, Kept E row p →
          E.checkTruth row p = E.predicateTruth row p :=
        fun p _ h => checkTruth_of_readsBack h.1 h.2.1 h.2.2
      rw [satisfies_iff E hor (hfree hallowlist), ← respected_iff E hkept]
      simp

/-- The suite of a compiled filter with a tree, conditional allowlists included: which rows it
reports, and that a tree which is no allowlist has no `NOT`. -/
theorem reported_of_tree {row : Row Cell}
    (hast : (compileRuleToIntermediateModel e joinError).filter.ast = some ast)
    (hbuild : buildExpectations (compileRuleToIntermediateModel e joinError).filter tags =
      .ok suite) (hpresent : ∀ p ∈ ast.predicates, E.ComparedPresent row p) :
    (allowlistOf ast = none → ast.negationFree = true) ∧
      (∀ expectation ∈ suite, expectation.kind.checksRows = true) ∧
      ∀ filter, E.ReadsFilters filter → (E.Reported filter suite row ↔ TreeReported E row ast) := by
  have hwindow := no_window_of_compiled hast
  obtain ⟨kinds, hkinds⟩ := allowlist_of_build hwindow hbuild
  rw [hast] at hkinds
  have hfound := conditionalAllowlist_ok hkinds
  rw [TreeReported]
  cases hallowlist : allowlistOf ast with
  | some found =>
    rw [hallowlist] at hfound
    subst hfound
    have hsuite := buildExpectations_of_allowlist hwindow (by rw [hast]; exact hkinds) hbuild
    refine ⟨by simp, ?_, fun filter _ => ?_⟩
    · intro expectation hmem
      rw [hsuite] at hmem
      obtain ⟨kind, hkind, rfl⟩ := List.mem_map.mp hmem
      exact checksRows_conditionalAllowlistKinds hkind
    · rw [hsuite]
      exact reported_allowlist E
  | none =>
    rw [hallowlist] at hfound
    subst hfound
    obtain ⟨hfree, kinds, htranslated, hsuite⟩ := suite_of_compiled hast hkinds hbuild
    refine ⟨fun _ => hfree, ?_, fun filter hfilter =>
      reported_of_compiled hast hkinds hbuild (fun _ => hfilter) hpresent⟩
    intro expectation hmem
    obtain ⟨kind, hkind, heq⟩ : ∃ kind ∈ kinds, expectation.kind = kind := by
      rcases hsuite with ⟨-, rfl⟩ | ⟨-, artifact, -, rfl⟩
      all_goals
        obtain ⟨kind, hkind, rfl⟩ := List.mem_map.mp hmem
        exact ⟨kind, hkind, rfl⟩
    obtain ⟨p, -, hp⟩ := mem_of_mapM htranslated hkind
    rw [heq]
    exact (rowScoped_translatePredicate hp).1

/-! ### Texts and their suites -/

/-- The text in which a uniqueness window is looked for. -/
def publishedText (e : Text) : Text :=
  Text.strip (if normalizeExpression e = [] then e.strip else normalizeExpression e)

/-- The rows that the suite of a text reports: those that share their group in a uniqueness
window, those its tree reports, or, without a tree, those on which a recovered predicate is
flagged. -/
def TextReported (e : Text) (place : Place Cell) : Prop :=
  match parseUniquenessColumns (publishedText e), parseExpression (normalizeExpression e) with
  | some columns, _ => E.sharesGroup columns place = true
  | none, .ok ast => TreeReported E place.row ast
  | none, .error _ => ∃ p ∈ compilePredicates (normalizeExpression e), Flagged E place.row p

/-- When the suite of a text accounts for it on a row: the text has a meaning, and what the
normalised text became agrees with it. For a tree that means that normalisation keeps the row's
verdict and the tree is respected, or neither. -/
def Accounted (e : Text) (place : Place Cell) : Prop :=
  ∃ source, E.textTruth e.strip = some source ∧
    match parseUniquenessColumns (publishedText e), parseExpression (normalizeExpression e) with
    | some columns, _ => source place = .yes ↔ E.sharesGroup columns place = false
    | none, .ok ast =>
      (source place = .yes ↔ E.satisfies place.row ast) ↔ TreeRespected E place.row ast
    | none, .error _ =>
      source place = .yes ↔
        ∀ p ∈ compilePredicates (normalizeExpression e), ¬Flagged E place.row p

omit [PyRuntime] in
theorem uniqueColumns_uniquenessKind (h : ∀ column ∈ columns, column.strip = column) :
    uniqueColumns (uniquenessKind columns) = some columns := by
  rcases columns with _ | ⟨column, _ | ⟨other, rest⟩⟩
  · rfl
  · simp [uniquenessKind, uniqueColumns, h column (by simp)]
  · rfl

omit [PyRuntime] in
theorem strip_of_uniquenessColumns {t : Text} (h : parseUniquenessColumns t = some columns) :
    ∀ column ∈ columns, column.strip = column := by
  rw [parseUniquenessColumns] at h
  split at h
  · cases h
  · simp only at h
    split at h
    · cases h
      intro column hcolumn
      obtain ⟨part, -, rfl⟩ := List.mem_map.mp hcolumn
      exact Text.strip_strip part
    · cases h

theorem reportedAt_window {reading : Text → Place Cell → Truth} {place : Place Cell}
    (h : ∀ column ∈ columns, column.strip = column) :
    E.ReportedAt reading [{ kind := uniquenessKind columns, tags := tags }] place ↔
      E.sharesGroup columns place = true := by
  have hcolumns := uniqueColumns_uniquenessKind h
  have hnone : failureCondition E (uniquenessKind columns) = none := by
    rw [← Option.not_isSome_iff_eq_none, failureCondition_isSome]
    intro hchecks
    rw [uniqueColumns_of_checksRows hchecks] at hcolumns
    cases hcolumns
  have hscope : Engine.scopedPlace (fun _ => .yes) place = place := by
    simp [Engine.scopedPlace]
  simp [Engine.ReportedAt, Engine.Reported, reports, hnone, hcolumns, hscope]

/-- What the suite of a text reports, under every reading of the texts without a meaning. -/
theorem reportedAt_of_text {place : Place Cell}
    (hbuild : buildExpectations (compileRuleToIntermediateModel e joinError).filter tags =
      .ok suite) (hpresent : ∀ ast, parseExpression (normalizeExpression e) = .ok ast →
      ∀ p ∈ ast.predicates, E.ComparedPresent place.row p) (reading : Text → Place Cell → Truth)
    (hreads : E.Reads reading) :
    E.ReportedAt reading suite place ↔ TextReported E e place := by
  have htext : passThroughFilter (compileRuleToIntermediateModel e joinError).filter =
      publishedText e := rfl
  rw [TextReported]
  cases hwindow : parseUniquenessColumns (publishedText e) with
  | some columns =>
    rw [buildExpectations_of_window (by rw [htext]; exact hwindow) hbuild]
    exact reportedAt_window E (strip_of_uniquenessColumns hwindow)
  | none =>
    cases hparse : parseExpression (normalizeExpression e) with
    | ok ast =>
      have hast := compile_ast_of_parse joinError hparse
      obtain ⟨-, hchecks, hreported⟩ := reported_of_tree E hast hbuild (hpresent ast hparse)
      rw [E.reportedAt_of_checksRows hchecks]
      exact hreported _ (E.readsFilters_filterAt hreads place)
    | error error =>
      have hunparsed : ∀ ast, parseExpression (normalizeExpression e) ≠ .ok ast := by
        rw [hparse]
        simp
      have hnoast := @compile_of_no_ast _ e joinError hunparsed
      obtain ⟨hast, hpredicates⟩ := hnoast
      obtain ⟨hne, kinds, hkinds, hsuite⟩ :=
        buildExpectations_of_no_ast hast (by rw [htext]; exact hwindow) hbuild
      rw [hpredicates hne] at hkinds
      subst hsuite
      rw [E.reportedAt_of_checksRows, reported_recovered E hkinds]
      intro expectation hmem
      obtain ⟨kind, hkind, rfl⟩ := List.mem_map.mp hmem
      obtain ⟨p, -, hp⟩ := mem_of_mapM hkinds hkind
      exact (rowScoped_translatePredicate hp).1

omit [PyRuntime] in
/-- Two disagreements cancel. -/
theorem agree_iff {a b r t : Prop} (h : (b ↔ ¬r) ↔ t) : ((a ↔ b) ↔ t) ↔ (a ↔ ¬r) := by
  rw [← h]
  by_cases ha : a <;> by_cases hb : b <;> by_cases hr : r <;> simp [ha, hb, hr]

/-- On a text with a meaning, being accounted for is agreement with what is reported. -/
theorem accounted_iff {place : Place Cell} {source : Place Cell → Truth}
    (hbuild : buildExpectations (compileRuleToIntermediateModel e joinError).filter tags =
      .ok suite) (hpresent : ∀ ast, parseExpression (normalizeExpression e) = .ok ast →
      ∀ p ∈ ast.predicates, E.ComparedPresent place.row p)
    (htruth : E.textTruth e.strip = some source) :
    Accounted E e place ↔ (source place = .yes ↔ ¬TextReported E e place) := by
  have hsome (P : (Place Cell → Truth) → Prop) :
      (∃ source, E.textTruth e.strip = some source ∧ P source) ↔ P source := by
    simp [htruth]
  rw [Accounted, hsome, TextReported]
  cases parseUniquenessColumns (publishedText e) with
  | some columns => simp
  | none =>
    cases hparse : parseExpression (normalizeExpression e) with
    | ok ast =>
      have hast := compile_ast_of_parse joinError hparse
      obtain ⟨hfree, -⟩ := reported_of_tree E hast hbuild (hpresent ast hparse)
      exact agree_iff (treeRespected_iff E hfree)
    | error error => simp

theorem accounted_of_tree {place : Place Cell} (hsource : parseExpression e.strip = .ok ast)
    (hnormalized : parseExpression (normalizeExpression e) = .ok ast) :
    Accounted E e place ↔ TreeRespected E place.row ast := by
  have htruth : E.textTruth e.strip = some fun place : Place Cell => E.truth place.row ast := by
    rw [Engine.textTruth, hsource]
  have hwindow : parseUniquenessColumns (publishedText e) = none :=
    no_window_of_compiled (compile_ast_of_parse none hnormalized)
  rw [Accounted, hwindow, hnormalized]
  constructor
  · rintro ⟨source, hsource, h⟩
    obtain rfl := Option.some.inj (htruth.symm.trans hsource)
    exact h.mp Iff.rfl
  · intro h
    exact ⟨_, htruth, iff_of_true Iff.rfl h⟩

end Account

section Example

local instance sampleRuntime'' : PyRuntime := Sample.runtime

/-- A row that is a frame of its own. -/
def alone (row : Row PyValue) : Place PyValue := ⟨[], row, []⟩

/-- The filter `5 < a AND b > 1`: the grammar has no literal on the left. -/
def flippedFilter : Text := "5 < a AND b > 1"

/-- The suite of the filter: only the second comparison is left. -/
def flippedSuite : List Expectation :=
  [{ kind := .between false ['b'] { minValue := .int 1, strictMin := true } }]

-- The text is neither an expression nor a uniqueness window.
example : (parseExpression flippedFilter.strip).toOption = none ∧
    parseUniquenessColumns flippedFilter.strip = none := by decide +kernel

/-- The filter `a = 'rock and roll'`: the word in the literal is put in upper case. -/
def quotedFilter : Text := "a = 'rock and roll'"

def quotedSuite : List Expectation :=
  [{ kind := .inSet false ['a'] [.str "rock AND roll"] }]

def quotedRow : Row PyValue := Sample.row [(['a'], .str "rock and roll")]

theorem flippedFilter_builds :
    buildExpectations (compileRuleToIntermediateModel flippedFilter none).filter {} =
      .ok flippedSuite := by
  decide +kernel

theorem quotedFilter_builds :
    buildExpectations (compileRuleToIntermediateModel quotedFilter none).filter {} =
      .ok quotedSuite := by
  decide +kernel

/-- The suite of the flipped filter does not look at `a`. -/
theorem flippedSuite_silent (i : ℤ) (hi : i = 0 ∨ i = 9) (reading : Text → Place PyValue → Truth) :
    ¬Sample.plain.ReportedAt reading flippedSuite (alone (pairRow i 5)) := by
  rw [Engine.reportedAt_of_checksRows _ (by decide)]
  rintro ⟨expectation, hmem, -, failure, hfailure, hyes⟩
  obtain rfl := List.mem_singleton.mp hmem
  cases hfailure
  revert hyes
  rcases hi with rfl | rfl <;> decide +kernel

end Example

end Gx

end DqMadeEasy
