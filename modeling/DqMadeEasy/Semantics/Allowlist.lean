import Mathlib.Data.List.Pairwise
import DqMadeEasy.Semantics.Account

/-!
# Conditional allowlists

A disjunction whose branches each fix a context and list the allowed values of an attribute is not
translated predicate by predicate: branches with equal context values, as Python compares them, are
merged to one group, and every group becomes one expectation. The tree asks that some branch holds;
the expectations ask that every group whose key the context has lists the attribute. `Consistent`
says when the two agree on every row.
-/

namespace DqMadeEasy

namespace Gx

open Worker

variable {Cell : Type*} (E : Engine Cell)

/-! ### The branches of a tree -/

theorem exists_right_of_forall₂ {α β : Type} {R : α → β → Prop} {xs : List α} {ys : List β}
    (h : List.Forall₂ R xs ys) {x : α} (hx : x ∈ xs) : ∃ y ∈ ys, R x y := by
  induction h with
  | nil => cases hx
  | cons hxy _ ih =>
    rcases List.mem_cons.mp hx with rfl | hx
    · exact ⟨_, List.mem_cons_self, hxy⟩
    · obtain ⟨y, hy, hR⟩ := ih hx
      exact ⟨y, List.mem_cons_of_mem _ hy, hR⟩

theorem exists_left_of_forall₂ {α β : Type} {R : α → β → Prop} {xs : List α} {ys : List β}
    (h : List.Forall₂ R xs ys) {y : β} (hy : y ∈ ys) : ∃ x ∈ xs, R x y :=
  exists_right_of_forall₂ h.flip hy

section Branches

variable [PyRuntime]

theorem truth_or_iff (row : Row Cell) (ast : Ast) :
    E.truth row ast = .yes ↔ ∃ node ∈ flattenBranches .or ast, E.truth row node = .yes := by
  induction ast with
  | predicate p => simp [flattenBranches]
  | not operand => simp [flattenBranches]
  | logical op left right ihl ihr =>
    cases op with
    | and => simp [flattenBranches]
    | or =>
      simp only [flattenBranches, if_true, Engine.truth_or, Truth.sup_eq_yes, ihl, ihr,
        List.mem_append, or_and_right, exists_or]

/-- A conjunction holds when all of its conjuncts do. -/
theorem truth_and_iff (row : Row Cell) (ast : Ast) :
    E.truth row ast = .yes ↔ ∀ node ∈ flattenBranches .and ast, E.truth row node = .yes := by
  induction ast with
  | predicate p => simp [flattenBranches]
  | not operand => simp [flattenBranches]
  | logical op left right ihl ihr =>
    cases op with
    | or => simp [flattenBranches]
    | and =>
      simp only [flattenBranches, if_true, Engine.truth_and, Truth.inf_eq_yes, ihl, ihr,
        List.mem_append, or_imp, forall_and]

omit [PyRuntime] in
theorem predicates_of_mem {op : Connective} {ast node : Ast} (h : node ∈ flattenBranches op ast) :
    ∀ p ∈ node.predicates, p ∈ ast.predicates := by
  induction ast with
  | predicate p =>
    obtain rfl := List.mem_singleton.mp h
    exact fun _ => id
  | not operand =>
    obtain rfl := List.mem_singleton.mp h
    exact fun _ => id
  | logical op' left right ihl ihr =>
    rw [flattenBranches] at h
    split at h
    · intro p hp
      rcases List.mem_append.mp h with h | h
      · exact List.mem_append_left _ (ihl h p hp)
      · exact List.mem_append_right _ (ihr h p hp)
    · rw [List.mem_singleton] at h
      subst h
      exact fun _ => id

/-- What one conjunct adds to the parts of a branch. -/
inductive Adds (parts : BranchParts) (node : Ast) : BranchParts → Prop
  | nothing : Adds parts node parts
  | context {p : Predicate} {column : Text} {operand : Operand} (hnode : node = .predicate p)
      (htest : p.test = .compare .eq operand) (hfield : parseFieldRef p.field = .ok ⟨column, none⟩)
      (hnone : parts.context = none) :
    Adds parts node { parts with context := some (p, ⟨column, none⟩) }
  | allowlist {p : Predicate} {ref : FieldRef} {operands : List Operand}
      (hnode : node = .predicate p) (htest : p.test = .inList false operands)
      (hfield : parseFieldRef p.field = .ok ref)
      (hwrapper : ref.wrapper = none ∨ ref.wrapper = some .lower) (hnone : parts.allowlist = none) :
    Adds parts node { parts with allowlist := some (p, ref) }

omit [PyRuntime] in
theorem adds_of_scanConjunct {parts parts' : BranchParts} {node : Ast}
    (h : scanConjunct parts node = .ok (some parts')) : Adds parts node parts' := by
  unfold scanConjunct at h
  split at h
  · rename_i p
    obtain ⟨ref, href, h⟩ := ok_of_bind h
    split at h
    · rename_i operand htest
      split at h
      · cases h
        exact .nothing
      rename_i hcontext
      split at h
      · cases h
      rename_i hwrapper
      cases h
      obtain ⟨column, wrapper⟩ := ref
      obtain rfl : wrapper = none := by simpa using hwrapper
      exact .context rfl htest href (by simpa using hcontext)
    · rename_i operands htest
      split at h
      · cases h
        exact .nothing
      rename_i hallowlist
      split at h
      · rename_i hwrapper
        cases h
        exact .allowlist rfl htest href hwrapper (by simpa using hallowlist)
      · cases h
    · cases h
      exact .nothing
  · obtain ⟨-, -, h⟩ := ok_of_bind h
    cases h
    exact .nothing

/-- A branch that was read: one conjunct is its context, the other its allowlist. -/
structure ReadsAs (node : Ast) (b : Branch) : Prop where
  conjuncts : ∃ p q : Predicate, ∃ operand operands ref,
    (∀ other, other ∈ flattenBranches .and node ↔ other = .predicate p ∨ other = .predicate q) ∧
    p.test = .compare .eq operand ∧ parseFieldRef p.field = .ok ⟨b.contextColumn, none⟩ ∧
    literalFromAst operand = .ok b.contextValue ∧
    q.test = .inList false operands ∧ parseFieldRef q.field = .ok ref ∧
    ref.column = b.attributeColumn ∧
    ref.wrapper = (if b.caseSensitive then none else some .lower) ∧
    operands.mapM literalFromAst = .ok b.allowedValues
  distinct : b.attributeColumn ≠ b.contextColumn

theorem readsAs_of_readBranch {node : Ast} {b : Branch} {p q : Predicate} {column : Text}
    {ref : FieldRef} {operand : Operand} {operands : List Operand}
    (hconjuncts : ∀ other, other ∈ flattenBranches .and node ↔
      other = .predicate p ∨ other = .predicate q)
    (hcontext : p.test = .compare .eq operand)
    (hcolumn : parseFieldRef p.field = .ok ⟨column, none⟩)
    (hallowlist : q.test = .inList false operands) (href : parseFieldRef q.field = .ok ref)
    (hwrapper : ref.wrapper = none ∨ ref.wrapper = some .lower)
    (h : readBranch (p, ⟨column, none⟩) (q, ref) = .ok (some b)) : ReadsAs node b := by
  rw [readBranch] at h
  split at h
  · cases h
  rename_i hdistinct
  rw [hcontext, hallowlist] at h
  obtain ⟨value, hvalue, h⟩ := ok_of_bind h
  obtain ⟨values, hvalues, h⟩ := ok_of_bind h
  cases h
  refine ⟨⟨p, q, operand, operands, ref, hconjuncts, hcontext, hcolumn, hvalue, hallowlist, href,
    rfl, ?_, hvalues⟩, hdistinct⟩
  rcases hwrapper with hwrapper | hwrapper <;> simp [hwrapper]

theorem readsAs_of_scanBranch {node : Ast} {b : Branch} (h : scanBranch node = .ok (some b)) :
    ReadsAs node b := by
  rw [scanBranch] at h
  split at h
  · rename_i first second hconjuncts
    obtain ⟨found₁, hfirst, h⟩ := ok_of_bind h
    cases found₁ with
    | none => cases h
    | some parts₁ =>
      obtain ⟨found₂, hsecond, h⟩ := ok_of_bind h
      cases found₂ with
      | none => cases h
      | some parts₂ =>
        have hadds := adds_of_scanConjunct hsecond
        simp only at h
        cases adds_of_scanConjunct hfirst with
        | nothing => cases hadds <;> cases h
        | context hnode₁ htest₁ hfield₁ =>
          cases hadds with
          | nothing => cases h
          | context _ _ _ hnone => cases hnone
          | allowlist hnode₂ htest₂ hfield₂ hwrapper =>
            refine readsAs_of_readBranch ?_ htest₁ hfield₁ htest₂ hfield₂ hwrapper h
            intro other
            rw [hconjuncts, ← hnode₁, ← hnode₂]
            simp
        | allowlist hnode₁ htest₁ hfield₁ hwrapper =>
          cases hadds with
          | nothing => cases h
          | context hnode₂ htest₂ hfield₂ =>
            refine readsAs_of_readBranch ?_ htest₂ hfield₂ htest₁ hfield₁ hwrapper h
            intro other
            rw [hconjuncts, ← hnode₁, ← hnode₂]
            simp [or_comm]
          | allowlist _ _ _ _ hnone => cases hnone
  · cases h

def groupBranches (groups : GroupedAllowlists) (branches : List Branch) : GroupedAllowlists :=
  branches.foldl (fun groups b => extendGroup b.contextValue b.allowedValues groups) groups

/-- Two branches name the same columns and agree on the case sensitivity. -/
def Branch.Alike (b b' : Branch) : Prop :=
  b.contextColumn = b'.contextColumn ∧ b.attributeColumn = b'.attributeColumn ∧
    b.caseSensitive = b'.caseSensitive

/-- What the loop over the branches returns. -/
theorem scanBranches_ok {first : Option Branch} {groups groups' : GroupedAllowlists}
    {nodes : List Ast} {known : Branch}
    (h : scanBranches first groups nodes = .ok (some (known, groups'))) :
    (∀ b ∈ first, b = known) ∧ ∃ branches : List Branch,
      List.Forall₂ (fun node b => scanBranch node = .ok (some b)) nodes branches ∧
      (∀ b ∈ branches, known.Alike b) ∧ groups' = groupBranches groups branches := by
  induction nodes generalizing first groups with
  | nil =>
    rw [scanBranches] at h
    cases first with
    | none => cases h
    | some b =>
      cases h
      exact ⟨by simp, [], .nil, by simp, rfl⟩
  | cons node rest ih =>
    rw [scanBranches] at h
    obtain ⟨found, hfound, h⟩ := ok_of_bind h
    cases found with
    | none => cases h
    | some b =>
      cases first with
      | none =>
        obtain ⟨hknown, branches, hbranches, halike, hgroups⟩ := ih h
        obtain rfl := hknown b rfl
        refine ⟨by simp, b :: branches, .cons hfound hbranches, ?_, hgroups⟩
        rintro b' (_ | ⟨_, hb'⟩)
        · exact ⟨rfl, rfl, rfl⟩
        · exact halike b' hb'
      | some k =>
        simp only at h
        split at h
        · rename_i hagree
          obtain ⟨hknown, branches, hbranches, halike, hgroups⟩ := ih h
          obtain rfl := hknown k rfl
          refine ⟨by simp, b :: branches, .cons hfound hbranches, ?_, hgroups⟩
          rintro b' (_ | ⟨_, hb'⟩)
          · exact hagree
          · exact halike b' hb'
        · cases h

/-- The branches of a disjunction that are read as such. -/
def branchesOf (ast : Ast) : List Branch :=
  (flattenBranches .or ast).filterMap fun node =>
    match scanBranch node with
    | .ok found => found
    | .error _ => none

theorem filterMap_scanBranch {nodes : List Ast} {branches : List Branch}
    (h : List.Forall₂ (fun node b => scanBranch node = .ok (some b)) nodes branches) :
    (nodes.filterMap fun node =>
      match scanBranch node with
      | .ok found => found
      | .error _ => none) = branches := by
  induction h with
  | nil => rfl
  | cons hnode _ ih => rw [List.filterMap_cons, hnode, ih]

/-- A tree that is recognised: its branches, and the expectations of their groups. -/
theorem conditionalAllowlist_branches {ast : Ast} {kinds : List ExpectationKind}
    (h : conditionalAllowlist (some ast) = .ok (some kinds)) : ∃ known : Branch,
      List.Forall₂ (fun node b => scanBranch node = .ok (some b)) (flattenBranches .or ast)
        (branchesOf ast) ∧
      branchesOf ast ≠ [] ∧ (∀ b ∈ branchesOf ast, known.Alike b) ∧
      kinds = conditionalAllowlistKinds known (groupBranches [] (branchesOf ast)) := by
  rw [conditionalAllowlist] at h
  split at h
  · cases h
  rename_i hlength
  obtain ⟨found, hfound, h⟩ := ok_of_bind h
  cases found with
  | none => cases h
  | some result =>
    obtain ⟨known, groups⟩ := result
    cases h
    obtain ⟨-, branches, hbranches, halike, rfl⟩ := scanBranches_ok hfound
    have heq : branchesOf ast = branches := filterMap_scanBranch hbranches
    refine ⟨known, heq ▸ hbranches, ?_, heq ▸ halike, by rw [heq]⟩
    intro hnil
    rw [heq] at hnil
    rw [hbranches.length_eq, hnil] at hlength
    exact hlength (by decide)

end Branches

/-! ### Cells -/

/-- `LOWER` of a cell: of a missing one it is missing. -/
def lowerCell (a : Cell) : Cell :=
  if E.isNull a then E.lit .none else E.lit (.str (E.lower (E.text a)))

/-- What the query language documents of `LOWER` around a column. -/
def LowersColumns : Prop :=
  ∀ row field column, (unwrap (Text.strip field)).1 = some .lower →
    unwrappedColumn (unwrap (Text.strip field)).2 = some column →
    E.scalar row field = lowerCell E (row column)

/-- A field that is a column, or `LOWER` around a column. -/
def namesColumn (field : Text) : Bool :=
  isUnwrapped field ||
    ((unwrap field.strip).1 == some .lower && isUnwrapped (unwrap field.strip).2)

def Meets (c : Cell) (value : PyValue) : Prop := E.compare .eq c (E.lit value) = .yes

def Allows (caseSensitive : Bool) (a : Cell) (values : List PyValue) : Prop :=
  E.isIn (if caseSensitive then a else lowerCell E a) (values.map E.lit) = .yes

theorem strip_unwrap {raw : Text} (h : (unwrap raw).1 ≠ none) :
    (unwrap raw).2.strip = (unwrap raw).2 := by
  rw [unwrap] at h ⊢
  split
  · exact Text.strip_strip _
  · rename_i hnone
    rw [hnone] at h
    exact absurd rfl h

variable {E}

/-- The cell of a field that names a column. -/
theorem scalar_of_namesColumn (hlower : LowersColumns E) {field : Text} {ref : FieldRef}
    (hnames : namesColumn field = true) (href : parseFieldRef field = .ok ref) {caseSensitive : Bool}
    (hwrapper : ref.wrapper = if caseSensitive then none else some .lower) (row : Row Cell) :
    E.scalar row field =
      if caseSensitive then row ref.column else lowerCell E (row ref.column) := by
  by_cases hplain : isUnwrapped field = true
  · obtain ⟨column, hcolumn⟩ := Option.isSome_iff_exists.mp hplain
    rw [parseFieldRef_of_unwrapped hcolumn] at href
    cases href
    cases caseSensitive with
    | false => simp at hwrapper
    | true => exact E.scalar_unwrapped row field column hcolumn
  · rw [namesColumn, Bool.or_eq_true, or_iff_right hplain, Bool.and_eq_true, beq_iff_eq] at hnames
    obtain ⟨hlow, hinner⟩ := hnames
    obtain ⟨column, hcolumn⟩ := Option.isSome_iff_exists.mp hinner
    have hname : columnOfName (unwrap field.strip).2 = some column := by
      rwa [unwrappedColumn, strip_unwrap (by simp [hlow])] at hcolumn
    rw [parseFieldRef] at href
    split at href
    · cases href
    rw [dropCasts_of_name hname, hname, hlow] at href
    cases href
    cases caseSensitive with
    | true => simp at hwrapper
    | false => exact hlower row field column hlow hcolumn

/-- A branch holds when its context is met and its list allows the attribute. -/
theorem ReadsAs.truth_iff [PyRuntime] (hlower : LowersColumns E) {node : Ast} {b : Branch}
    (h : ReadsAs node b) (hnames : ∀ p ∈ node.predicates, namesColumn p.field = true)
    (row : Row Cell) : E.truth row node = .yes ↔
      Meets E (row b.contextColumn) b.contextValue ∧
        Allows E b.caseSensitive (row b.attributeColumn) b.allowedValues := by
  obtain ⟨p, q, operand, operands, ref, hconjuncts, hcontext, hcolumn, hvalue, hallowlist, href,
    hattribute, hwrapper, hvalues⟩ := h.conjuncts
  have hmem {r : Predicate} (hr : Ast.predicate r ∈ flattenBranches .and node) :
      namesColumn r.field = true :=
    hnames r (predicates_of_mem hr r (by simp [Ast.predicates]))
  have hp := scalar_of_namesColumn hlower (hmem ((hconjuncts _).mpr (.inl rfl))) hcolumn
    (show (none : Option Wrapper) = if true then none else some .lower from rfl) row
  have hq := scalar_of_namesColumn hlower (hmem ((hconjuncts _).mpr (.inr rfl))) href hwrapper row
  rw [truth_and_iff]
  simp only [hconjuncts, forall_eq_or_imp, forall_eq, Engine.truth_predicate, Engine.predicateTruth,
    hcontext, hallowlist, Engine.testTruth, hp, hq, hattribute, operandCell_of_ok E hvalue,
    operandCells_of_ok E hvalues, if_true]
  exact Iff.rfl

/-! ### The expectations of a group -/

section Passing

variable [PyRuntime]

def Passes (S : Session Cell) (row : Row Cell) (kind : ExpectationKind) : Prop :=
  evaluate S ⟨kind.primaryColumn.strip :: (secondColumn kind).toList, [row]⟩ { kind := kind } =
    .ok .passed

variable (E) in
/-- The check of a group finds the attribute in its list. -/
def Lists (caseSensitive : Bool) (a : Cell) (values : List PyValue) : Prop :=
  E.isNull a = false ∧
    (if caseSensitive then E.isIn a (values.map E.lit)
      else E.textTest
        (fun t => (values.map fun v => PyRuntime.lower v.toText).contains (E.lower t)) a) ≠ .no

variable {S : Session Cell} {values : List PyValue} {known : Branch}

theorem passes_notBeNull {row : Row Cell} {column : Text} (hcolumn : column.isIdent = true) :
    Passes S row (.notBeNull column) ↔ S.engine.isNull (row column) = false := by
  have hstrip := strip_of_isIdent hcolumn
  have hne : column ≠ [] := by
    rintro rfl
    cases hcolumn
  simp [Passes, evaluate, scopedRows, judgeColumn, judge, failureCondition, cell, secondColumn,
    ExpectationKind.primaryColumn, checkArguments, checkLateArguments, Outcome.ofFailure, hstrip,
    hne]

theorem passes_inSet {row : Row Cell} {column : Text} (hcolumn : column.isIdent = true) :
    Passes S row (.inSet false column values) ↔
      (S.engine.isNull (row column) = false →
        S.engine.isIn (row column) (values.map S.engine.lit) ≠ .no) := by
  have hstrip := strip_of_isIdent hcolumn
  have hne : column ≠ [] := by
    rintro rfl
    cases hcolumn
  cases hnull : S.engine.isNull (row column) <;>
    simp [Passes, evaluate, scopedRows, judgeColumn, judge, failureCondition, cell, secondColumn,
      ExpectationKind.primaryColumn, checkArguments, checkLateArguments, Outcome.ofFailure, hstrip,
      hne, hnull]

theorem passes_inSetForOther {row : Row Cell} {column otherColumn : Text} {otherValue : PyValue}
    {caseSensitive : Bool} (hcolumn : column.isIdent = true) (hother : otherColumn.isIdent = true) :
    Passes S row (.inSetForOther column otherColumn otherValue values caseSensitive) ↔
      otherValue ≠ .none ∧ (Meets S.engine (row otherColumn) otherValue →
        Lists S.engine caseSensitive (row column) values) := by
  have hstrip := strip_of_isIdent hcolumn
  have hstrip' := strip_of_isIdent hother
  have hne : column ≠ [] := by
    rintro rfl
    cases hcolumn
  have hne' : otherColumn ≠ [] := by
    rintro rfl
    cases hother
  by_cases hvalue : otherValue = .none
  · simp [Passes, evaluate, scopedRows, judgeColumn, secondColumn, ExpectationKind.primaryColumn,
      checkArguments, invalid, hstrip, hstrip', hne, hne', hvalue]
  · cases hnull : S.engine.isNull (row column) <;>
      simp [Passes, evaluate, scopedRows, judgeColumn, judge, failureCondition, cell, secondColumn,
        ExpectationKind.primaryColumn, checkArguments, checkLateArguments, Outcome.ofFailure,
        hstrip, hstrip', hne, hne', hvalue, hnull, Meets, Lists]

omit [PyRuntime] in
theorem isIn_eq_yes {a : Cell} :
    E.isIn a (values.map E.lit) = .yes ↔ ∃ value ∈ values, Meets E a value := by
  induction values with
  | nil => simp
  | cons value values ih =>
    simp only [List.map_cons, Engine.isIn_cons, Truth.sup_eq_yes, ih, List.mem_cons,
      exists_eq_or_imp, Meets]

omit [PyRuntime] in
theorem present_of_meets {c : Cell} {value : PyValue} (h : Meets E c value) :
    E.isNull c = false := by
  by_contra hnull
  rw [Bool.not_eq_false] at hnull
  rw [Meets, Engine.compare, (E.cmp_eq_none c (E.lit value)).mpr (.inl hnull)] at h
  cases h

omit [PyRuntime] in
theorem isIn_ne_no {a : Cell} (ha : E.isNull a = false) (hvalues : ∀ value ∈ values, value ≠ .none)
    :
    E.isIn a (values.map E.lit) ≠ .no ↔ ∃ value ∈ values, Meets E a value := by
  have hne : E.isIn a (values.map E.lit) ≠ .unknown := by
    refine E.isIn_ne_unknown ha ?_
    intro cell hcell
    obtain ⟨value, hvalue, rfl⟩ := List.mem_map.mp hcell
    simpa [E.isNull_lit] using hvalues value hvalue
  rw [← isIn_eq_yes]
  revert hne
  cases E.isIn a (values.map E.lit) <;> simp

/-- All expectations pass when no key is missing, the context has the key of some group, and every
such group lists the attribute. -/
theorem passes_kinds {row : Row Cell} {groups : GroupedAllowlists}
    (hcontext : known.contextColumn.isIdent = true)
    (hattribute : known.attributeColumn.isIdent = true) :
    (∀ kind ∈ conditionalAllowlistKinds known groups, Passes S row kind) ↔
      (∀ group ∈ groups, group.1 ≠ .none) ∧
      (∃ group ∈ groups, Meets S.engine (row known.contextColumn) group.1) ∧
      ∀ group ∈ groups, Meets S.engine (row known.contextColumn) group.1 →
        Lists S.engine known.caseSensitive (row known.attributeColumn)
          (mergeLiteralValues group.2) := by
  simp only [conditionalAllowlistKinds, List.mem_cons, List.mem_map, forall_eq_or_imp,
    forall_exists_index, and_imp, forall_apply_eq_imp_iff₂, passes_notBeNull hcontext,
    passes_inSet hcontext, passes_inSetForOther hattribute hcontext]
  constructor
  · rintro ⟨hpresent, hknown, hgroups⟩
    have hkeys : ∀ value ∈ groups.map Prod.fst, value ≠ .none := by
      intro value hvalue
      obtain ⟨group, hgroup, rfl⟩ := List.mem_map.mp hvalue
      exact (hgroups group hgroup).1
    obtain ⟨value, hvalue, hmeets⟩ := (isIn_ne_no hpresent hkeys).mp (hknown hpresent)
    obtain ⟨group, hgroup, rfl⟩ := List.mem_map.mp hvalue
    exact ⟨fun g hg => (hgroups g hg).1, ⟨group, hgroup, hmeets⟩, fun g hg => (hgroups g hg).2⟩
  · rintro ⟨hkeys, ⟨group, hgroup, hmeets⟩, hlists⟩
    have hpresent := present_of_meets hmeets
    refine ⟨hpresent, fun _ => ?_, fun g hg => ⟨hkeys g hg, hlists g hg⟩⟩
    refine (isIn_ne_no hpresent ?_).mpr ⟨group.1, List.mem_map_of_mem hgroup, hmeets⟩
    intro value hvalue
    obtain ⟨g, hg, rfl⟩ := List.mem_map.mp hvalue
    exact hkeys g hg

/-! ### When the groups say what the branches say -/

/-- The branches compare the attribute as it is. -/
def comparesCase (branches : List Branch) : Bool := branches.all Branch.caseSensitive

variable (E) in
/-- On every context and attribute cell the groups agree with the branches. Of a context cell with
the value of a branch that allows the attribute, some group has the key, and no key is missing; every
group with a key that the context cell has lists the attribute; and what all of them list, some branch
with a value that the context cell has allows. -/
structure Consistent (branches : List Branch) : Prop where
  known : ∀ c a, ∀ b ∈ branches, Meets E c b.contextValue →
    Allows E (comparesCase branches) a b.allowedValues →
    (∀ group ∈ groupBranches [] branches, group.1 ≠ .none) ∧
      ∃ group ∈ groupBranches [] branches, Meets E c group.1
  listed : ∀ c a, ∀ b ∈ branches, Meets E c b.contextValue →
    Allows E (comparesCase branches) a b.allowedValues →
    ∀ group ∈ groupBranches [] branches, Meets E c group.1 →
      Lists E (comparesCase branches) a (mergeLiteralValues group.2)
  allowed : ∀ c a, (∀ group ∈ groupBranches [] branches, group.1 ≠ .none) →
    (∃ group ∈ groupBranches [] branches, Meets E c group.1) →
    (∀ group ∈ groupBranches [] branches, Meets E c group.1 →
      Lists E (comparesCase branches) a (mergeLiteralValues group.2)) →
    ∃ b ∈ branches, Meets E c b.contextValue ∧
      Allows E (comparesCase branches) a b.allowedValues

omit [PyRuntime] in
theorem comparesCase_eq {branches : List Branch} (hne : branches ≠ [])
    (halike : ∀ b ∈ branches, known.Alike b) : comparesCase branches = known.caseSensitive := by
  rw [comparesCase]
  cases hknown : known.caseSensitive with
  | true =>
    rw [List.all_eq_true]
    intro b hb
    rw [← (halike b hb).2.2, hknown]
  | false =>
    rw [List.all_eq_false]
    obtain ⟨b, hb⟩ := List.exists_mem_of_ne_nil _ hne
    exact ⟨b, hb, by rw [← (halike b hb).2.2, hknown]; simp⟩

/-- A row satisfies the tree when a branch has its context and allows its attribute. -/
theorem satisfies_iff_branch (hlower : LowersColumns E) {ast : Ast}
    (hbranches : List.Forall₂ (fun node b => scanBranch node = .ok (some b))
      (flattenBranches .or ast) (branchesOf ast)) (halike : ∀ b ∈ branchesOf ast, known.Alike b)
    (hnames : ∀ p ∈ ast.predicates, namesColumn p.field = true) (row : Row Cell) :
    E.satisfies row ast ↔ ∃ b ∈ branchesOf ast,
      Meets E (row known.contextColumn) b.contextValue ∧
        Allows E known.caseSensitive (row known.attributeColumn) b.allowedValues := by
  have hbranch {node : Ast} {b : Branch} (hnode : node ∈ flattenBranches .or ast)
      (hb : b ∈ branchesOf ast) (hscan : scanBranch node = .ok (some b)) :
      E.truth row node = .yes ↔ Meets E (row known.contextColumn) b.contextValue ∧
        Allows E known.caseSensitive (row known.attributeColumn) b.allowedValues := by
    obtain ⟨hcontext, hattribute, hcase⟩ := halike b hb
    rw [hcontext, hattribute, hcase]
    exact (readsAs_of_scanBranch hscan).truth_iff hlower
      (fun p hp => hnames p (predicates_of_mem hnode p hp)) row
  rw [Engine.satisfies, truth_or_iff]
  constructor
  · rintro ⟨node, hnode, hyes⟩
    obtain ⟨b, hb, hscan⟩ := exists_right_of_forall₂ hbranches hnode
    exact ⟨b, hb, (hbranch hnode hb hscan).mp hyes⟩
  · rintro ⟨b, hb, hyes⟩
    obtain ⟨node, hnode, hscan⟩ := exists_left_of_forall₂ hbranches hb
    exact ⟨node, hnode, (hbranch hnode hb hscan).mpr hyes⟩

theorem passes_iff_consistent (S : Session Cell) (hlower : LowersColumns S.engine) {ast : Ast}
    {kinds : List ExpectationKind} (h : conditionalAllowlist (some ast) = .ok (some kinds))
    (hnames : ∀ p ∈ ast.predicates, namesColumn p.field = true) :
    (∀ row, (∀ kind ∈ kinds, Passes S row kind) ↔ S.engine.satisfies row ast) ↔
      Consistent S.engine (branchesOf ast) := by
  obtain ⟨known, hbranches, hne, halike, rfl⟩ := conditionalAllowlist_branches h
  obtain ⟨b₀, hb₀⟩ := List.exists_mem_of_ne_nil _ hne
  obtain ⟨node₀, -, hscan₀⟩ := exists_left_of_forall₂ hbranches hb₀
  obtain ⟨⟨p, q, operand, operands, ref, -, -, hcolumn, -, -, href, hattribute, -⟩, hdistinct⟩ :=
    readsAs_of_scanBranch hscan₀
  obtain ⟨hcontext₀, hattribute₀, -⟩ := halike b₀ hb₀
  rw [← hcontext₀] at hcolumn hdistinct
  rw [← hattribute₀] at hattribute hdistinct
  have hcontextIdent : known.contextColumn.isIdent = true := isIdent_of_parseFieldRef hcolumn
  have hattributeIdent : known.attributeColumn.isIdent = true :=
    hattribute ▸ isIdent_of_parseFieldRef href
  have hholds := satisfies_iff_branch hlower hbranches halike hnames
  simp only [passes_kinds hcontextIdent hattributeIdent, hholds,
    ← comparesCase_eq hne halike]
  constructor
  · intro hall
    -- a row with any two cells, which the two columns tell apart
    have hcells (c a : Cell) := hall fun column => if column = known.contextColumn then c else a
    simp only [if_true, if_neg hdistinct] at hcells
    constructor
    · intro c a b hb hmeets hallows
      obtain ⟨hkeys, hknown, -⟩ := (hcells c a).mpr ⟨b, hb, hmeets, hallows⟩
      exact ⟨hkeys, hknown⟩
    · intro c a b hb hmeets hallows
      exact ((hcells c a).mpr ⟨b, hb, hmeets, hallows⟩).2.2
    · intro c a hkeys hknown hlists
      exact (hcells c a).mp ⟨hkeys, hknown, hlists⟩
  · intro hconsistent row
    constructor
    · rintro ⟨hkeys, hknown, hlists⟩
      exact hconsistent.allowed _ _ hkeys hknown hlists
    · rintro ⟨b, hb, hmeets, hallows⟩
      obtain ⟨hkeys, hknown⟩ := hconsistent.known _ _ b hb hmeets hallows
      exact ⟨hkeys, hknown, hconsistent.listed _ _ b hb hmeets hallows⟩

/-! ### Plain branches -/

omit [PyRuntime] in
/-- What the groups are made of: every key is a context value, and what a group lists is allowed by
a branch with that context value or a Python-equal one. -/
structure MadeOf (branches : List Branch) (groups : GroupedAllowlists) : Prop where
  key : ∀ group ∈ groups, ∃ b ∈ branches, group.1 = b.contextValue
  value : ∀ group ∈ groups, ∀ v ∈ group.2, ∃ b ∈ branches, v ∈ b.allowedValues ∧
    (group.1 = b.contextValue ∨ group.1.pyEq b.contextValue = true)
  covers : ∀ b ∈ branches, ∃ group ∈ groups, b.allowedValues ⊆ group.2 ∧
    (group.1 = b.contextValue ∨ group.1.pyEq b.contextValue = true)
  apart : (groups.map Prod.fst).Pairwise fun key other => key.pyEq other = false

omit [PyRuntime] in
/-- What adding to the groups does: a group with a Python-equal key is extended, or else a new one
comes last. -/
theorem extendGroup_cases (value : PyValue) (allowed : List PyValue) (groups : GroupedAllowlists) :
    (∃ before key values after, groups = before ++ (key, values) :: after ∧
      key.pyEq value = true ∧
      extendGroup value allowed groups = before ++ (key, values ++ allowed) :: after) ∨
    ((∀ group ∈ groups, group.1.pyEq value = false) ∧
      extendGroup value allowed groups = groups ++ [(value, allowed)]) := by
  induction groups with
  | nil => exact .inr ⟨by simp, rfl⟩
  | cons group rest ih =>
    obtain ⟨key, values⟩ := group
    rw [extendGroup]
    by_cases hkey : key.pyEq value = true
    · rw [if_pos hkey]
      exact .inl ⟨[], key, values, rest, rfl, hkey, rfl⟩
    · rw [if_neg hkey]
      rcases ih with ⟨before, key', values', after, rfl, heq, hextend⟩ | ⟨hnone, hextend⟩
      · exact .inl ⟨(key, values) :: before, key', values', after, rfl, heq, by rw [hextend]; rfl⟩
      · refine .inr ⟨?_, by rw [hextend]; rfl⟩
        simpa [hkey] using hnone

omit [PyRuntime] in
theorem MadeOf.extend {branches : List Branch} {groups : GroupedAllowlists}
    (h : MadeOf branches groups) (b : Branch) :
    MadeOf (branches ++ [b]) (extendGroup b.contextValue b.allowedValues groups) := by
  have hlast : b ∈ branches ++ [b] := by simp
  have hkey (group) (hgroup : group ∈ groups) :
      ∃ b' ∈ branches ++ [b], group.1 = b'.contextValue := by
    obtain ⟨b', hb', heq⟩ := h.key group hgroup
    exact ⟨b', List.mem_append_left _ hb', heq⟩
  have hvalue (group) (hgroup : group ∈ groups) (v) (hv : v ∈ group.2) :
      ∃ b' ∈ branches ++ [b], v ∈ b'.allowedValues ∧
        (group.1 = b'.contextValue ∨ group.1.pyEq b'.contextValue = true) := by
    obtain ⟨b', hb', hv, heq⟩ := h.value group hgroup v hv
    exact ⟨b', List.mem_append_left _ hb', hv, heq⟩
  rcases extendGroup_cases b.contextValue b.allowedValues groups with
    ⟨before, key, values, after, rfl, heq, hextend⟩ | ⟨hnone, hextend⟩
  · rw [hextend]
    -- every group but the extended one is an old group
    have hcases (group) (hgroup : group ∈ before ++ (key, values ++ b.allowedValues) :: after) :
        group ∈ before ++ (key, values) :: after ∨ group = (key, values ++ b.allowedValues) := by
      simp only [List.mem_append, List.mem_cons] at hgroup ⊢
      rcases hgroup with hgroup | hgroup | hgroup <;> simp [hgroup]
    have hold : (key, values) ∈ before ++ (key, values) :: after := by simp
    constructor
    · intro group hgroup
      rcases hcases group hgroup with hgroup | rfl
      · exact hkey group hgroup
      · exact hkey (key, values) hold
    · intro group hgroup v hv
      rcases hcases group hgroup with hgroup | rfl
      · exact hvalue group hgroup v hv
      · rcases List.mem_append.mp hv with hv | hv
        · exact hvalue (key, values) hold v hv
        · exact ⟨b, hlast, hv, .inr heq⟩
    · intro b' hb'
      rcases List.mem_append.mp hb' with hb' | hb'
      · obtain ⟨group, hgroup, hsubset, hsame⟩ := h.covers b' hb'
        simp only [List.mem_append, List.mem_cons] at hgroup
        rcases hgroup with hgroup | rfl | hgroup
        · exact ⟨group, by simp [hgroup], hsubset, hsame⟩
        · exact ⟨(key, values ++ b.allowedValues), by simp,
            List.Subset.trans hsubset (List.subset_append_left _ _), hsame⟩
        · exact ⟨group, by simp [hgroup], hsubset, hsame⟩
      · obtain rfl := List.mem_singleton.mp hb'
        exact ⟨(key, values ++ b'.allowedValues), by simp, List.subset_append_right _ _, .inr heq⟩
    · simpa using h.apart
  · rw [hextend]
    constructor
    · intro group hgroup
      rcases List.mem_append.mp hgroup with hgroup | hgroup
      · exact hkey group hgroup
      · obtain rfl := List.mem_singleton.mp hgroup
        exact ⟨b, hlast, rfl⟩
    · intro group hgroup v hv
      rcases List.mem_append.mp hgroup with hgroup | hgroup
      · exact hvalue group hgroup v hv
      · obtain rfl := List.mem_singleton.mp hgroup
        exact ⟨b, hlast, hv, .inl rfl⟩
    · intro b' hb'
      rcases List.mem_append.mp hb' with hb' | hb'
      · obtain ⟨group, hgroup, hsubset, hsame⟩ := h.covers b' hb'
        exact ⟨group, List.mem_append_left _ hgroup, hsubset, hsame⟩
      · obtain rfl := List.mem_singleton.mp hb'
        exact ⟨_, List.mem_append_right _ (List.mem_singleton.mpr rfl), List.Subset.refl _, .inl rfl⟩
    · rw [List.map_append, List.pairwise_append]
      refine ⟨h.apart, by simp, ?_⟩
      intro key hkey other hother
      obtain ⟨group, hgroup, rfl⟩ := List.mem_map.mp hkey
      obtain rfl := List.mem_singleton.mp hother
      exact hnone group hgroup

omit [PyRuntime] in
theorem madeOf_groupBranches (branches : List Branch) :
    MadeOf branches (groupBranches [] branches) := by
  induction branches using List.reverseRecOn with
  | nil => exact ⟨by simp [groupBranches], by simp [groupBranches], by simp, by simp [groupBranches]⟩
  | append_singleton branches b ih =>
    rw [groupBranches, List.foldl_append]
    exact ih.extend b

omit [PyRuntime] in
/-- Merging keeps every value or a Python-equal one that comes before it, and adds none. -/
theorem mergeLiteralValues_spec (values : List PyValue) :
    mergeLiteralValues values ⊆ values ∧
      ∀ v ∈ values, ∃ w ∈ mergeLiteralValues values, w = v ∨ w.pyEq v = true := by
  induction values using List.reverseRecOn with
  | nil => exact ⟨List.Subset.refl _, by simp⟩
  | append_singleton values value ih =>
    obtain ⟨hsubset, hcovers⟩ := ih
    have hmerge : mergeLiteralValues (values ++ [value]) =
        if (mergeLiteralValues values).any (·.pyEq value) then mergeLiteralValues values
        else mergeLiteralValues values ++ [value] := by
      rw [mergeLiteralValues, List.foldl_append]
      rfl
    rw [hmerge]
    split
    · rename_i hany
      refine ⟨List.Subset.trans hsubset (List.subset_append_left _ _), ?_⟩
      intro v hv
      rcases List.mem_append.mp hv with hv | hv
      · exact hcovers v hv
      · obtain rfl := List.mem_singleton.mp hv
        obtain ⟨w, hw, heq⟩ := List.any_eq_true.mp hany
        exact ⟨w, hw, .inr heq⟩
    · refine ⟨List.append_subset.mpr ⟨List.Subset.trans hsubset (List.subset_append_left _ _),
        List.subset_append_right _ _⟩, ?_⟩
      intro v hv
      rcases List.mem_append.mp hv with hv | hv
      · obtain ⟨w, hw, heq⟩ := hcovers v hv
        exact ⟨w, List.mem_append_left _ hw, heq⟩
      · exact ⟨v, List.mem_append_right _ hv, .inl (List.mem_singleton.mp hv ▸ rfl)⟩

variable (E) in
/-- Branches without missing values, in which a cell with one context value has exactly the
Python-equal ones, Python-equal listed values belong to the same cells, and a lower-cased attribute
has the value of a listed one when its text is the lower-cased text of that. -/
structure Plain (branches : List Branch) : Prop where
  context_ne_none : ∀ b ∈ branches, b.contextValue ≠ .none
  context_meets : ∀ b ∈ branches, ∀ b' ∈ branches, ∀ c, Meets E c b.contextValue →
    (Meets E c b'.contextValue ↔ b.contextValue.pyEq b'.contextValue = true)
  allowed_ne_none : ∀ b ∈ branches, ∀ v ∈ b.allowedValues, v ≠ .none
  allowed_meets : ∀ b ∈ branches, ∀ v ∈ b.allowedValues, ∀ b' ∈ branches, ∀ w ∈ b'.allowedValues,
    v.pyEq w = true → ∀ a, Meets E a v ↔ Meets E a w
  lowered : comparesCase branches = false → ∀ b ∈ branches, ∀ v ∈ b.allowedValues, ∀ a,
    E.isNull a = false → (E.lower (E.text a) = PyRuntime.lower v.toText ↔ Meets E (lowerCell E a) v)

omit [PyRuntime] in
theorem pyEq_comm (v w : PyValue) : v.pyEq w = w.pyEq v := by
  have hnumeric (x y : PyFloat) : (x == y) = (y == x) := by
    rw [Bool.eq_iff_iff, beq_iff_eq, beq_iff_eq, eq_comm]
  have hvalue : (v == w) = (w == v) := by
    rw [Bool.eq_iff_iff, beq_iff_eq, beq_iff_eq, eq_comm]
  rcases v with _ | _ | _ | ⟨_ | _ | _⟩ | _ <;> rcases w with _ | _ | _ | ⟨_ | _ | _⟩ | _ <;>
    first
    | rfl
    | exact hnumeric _ _
    | exact hvalue

/-- The group of branches lists the attribute when it has one of the values. -/
theorem Plain.lists_iff {branches : List Branch} (h : Plain E branches)
    (hvalues : ∀ v ∈ values, ∃ b ∈ branches, v ∈ b.allowedValues) (a : Cell) :
    Lists E (comparesCase branches) a (mergeLiteralValues values) ↔
      ∃ v ∈ values, Meets E (if comparesCase branches then a else lowerCell E a) v := by
  obtain ⟨hsubset, hcovers⟩ := mergeLiteralValues_spec values
  have hmerged (cell : Cell) :
      (∃ v ∈ mergeLiteralValues values, Meets E cell v) ↔ ∃ v ∈ values, Meets E cell v := by
    constructor
    · rintro ⟨v, hv, hmeets⟩
      exact ⟨v, hsubset hv, hmeets⟩
    · rintro ⟨v, hv, hmeets⟩
      obtain ⟨w, hw, rfl | heq⟩ := hcovers v hv
      · exact ⟨w, hw, hmeets⟩
      · obtain ⟨b, hb, hvb⟩ := hvalues v hv
        obtain ⟨b', hb', hwb'⟩ := hvalues w (hsubset hw)
        exact ⟨w, hw, (h.allowed_meets b' hb' w hwb' b hb v hvb heq cell).mpr hmeets⟩
  rw [← hmerged]
  cases hcase : comparesCase branches with
  | true =>
    simp only [Lists, if_true]
    constructor
    · rintro ⟨hpresent, hin⟩
      refine (isIn_ne_no hpresent ?_).mp hin
      intro v hv
      obtain ⟨b, hb, hvb⟩ := hvalues v (hsubset hv)
      exact h.allowed_ne_none b hb v hvb
    · rintro ⟨v, hv, hmeets⟩
      have hpresent := present_of_meets hmeets
      refine ⟨hpresent, (isIn_ne_no hpresent ?_).mpr ⟨v, hv, hmeets⟩⟩
      intro w hw
      obtain ⟨b, hb, hwb⟩ := hvalues w (hsubset hw)
      exact h.allowed_ne_none b hb w hwb
  | false =>
    simp only [Lists, Bool.false_eq_true, if_false]
    constructor
    · rintro ⟨hpresent, htest⟩
      rw [Engine.textTest, hpresent] at htest
      simp only [Bool.false_eq_true, if_false, ne_eq, Truth.ofBool_eq_no, Bool.not_eq_false,
        List.contains_iff_mem, List.mem_map] at htest
      obtain ⟨v, hv, heq⟩ := htest
      obtain ⟨b, hb, hvb⟩ := hvalues v (hsubset hv)
      exact ⟨v, hv, (h.lowered hcase b hb v hvb a hpresent).mp heq.symm⟩
    · rintro ⟨v, hv, hmeets⟩
      have hpresent : E.isNull a = false := by
        by_contra hnull
        rw [Bool.not_eq_false] at hnull
        have hcell := present_of_meets hmeets
        rw [lowerCell, if_pos hnull, E.isNull_lit] at hcell
        cases hcell
      refine ⟨hpresent, ?_⟩
      obtain ⟨b, hb, hvb⟩ := hvalues v (hsubset hv)
      rw [Engine.textTest, hpresent]
      simp only [Bool.false_eq_true, if_false, ne_eq, Truth.ofBool_eq_no, Bool.not_eq_false,
        List.contains_iff_mem, List.mem_map]
      exact ⟨v, hv, ((h.lowered hcase b hb v hvb a hpresent).mpr hmeets).symm⟩

/-- Plain branches are consistent with their groups. -/
theorem Plain.consistent {branches : List Branch} (h : Plain E branches) :
    Consistent E branches := by
  have hmade := madeOf_groupBranches branches
  have hsymm : Std.Symm fun group other : PyValue × List PyValue =>
      group.1.pyEq other.1 = false := ⟨fun x y hxy => by rwa [pyEq_comm]⟩
  have hlists {group : PyValue × List PyValue} (hgroup : group ∈ groupBranches [] branches)
      (a : Cell) : Lists E (comparesCase branches) a (mergeLiteralValues group.2) ↔
        ∃ v ∈ group.2, Meets E (if comparesCase branches then a else lowerCell E a) v := by
    refine h.lists_iff ?_ a
    intro v hv
    obtain ⟨b, hb, hvb, -⟩ := hmade.value group hgroup v hv
    exact ⟨b, hb, hvb⟩
  -- a cell with the value of a branch has the key of its group
  have hgroupOf {c : Cell} {b : Branch} (hb : b ∈ branches) (hmeets : Meets E c b.contextValue) :
      ∃ group ∈ groupBranches [] branches, b.allowedValues ⊆ group.2 ∧ Meets E c group.1 := by
    obtain ⟨group, hgroup, hsubset, hsame⟩ := hmade.covers b hb
    refine ⟨group, hgroup, hsubset, ?_⟩
    rcases hsame with hsame | hsame
    · rwa [hsame]
    · obtain ⟨b', hb', hkey⟩ := hmade.key group hgroup
      rw [hkey, pyEq_comm] at hsame
      rw [hkey]
      exact (h.context_meets b hb b' hb' c hmeets).mpr hsame
  constructor
  · intro c a b hb hmeets hallows
    obtain ⟨group, hgroup, -, hkey⟩ := hgroupOf hb hmeets
    refine ⟨?_, group, hgroup, hkey⟩
    intro other hother
    obtain ⟨b', hb', heq⟩ := hmade.key other hother
    rw [heq]
    exact h.context_ne_none b' hb'
  · intro c a b hb hmeets hallows group hgroup hkey
    obtain ⟨own, hown, hsubset, hownKey⟩ := hgroupOf hb hmeets
    have hsame : own = group := by
      by_contra hne
      obtain ⟨b₁, hb₁, heq₁⟩ := hmade.key own hown
      obtain ⟨b₂, hb₂, heq₂⟩ := hmade.key group hgroup
      have happart : own.1.pyEq group.1 = false :=
        (List.pairwise_map.mp hmade.apart).forall hown hgroup hne
      rw [heq₁] at hownKey happart
      rw [heq₂] at hkey happart
      rw [(h.context_meets b₁ hb₁ b₂ hb₂ c hownKey).mp hkey] at happart
      cases happart
    subst hsame
    obtain ⟨v, hv, hvmeets⟩ := isIn_eq_yes.mp hallows
    exact (hlists hown a).mpr ⟨v, hsubset hv, hvmeets⟩
  · rintro c a - ⟨group, hgroup, hkey⟩ hall
    obtain ⟨v, hv, hmeets⟩ := (hlists hgroup a).mp (hall group hgroup hkey)
    obtain ⟨b, hb, hvb, hsame⟩ := hmade.value group hgroup v hv
    refine ⟨b, hb, ?_, isIn_eq_yes.mpr ⟨v, hvb, hmeets⟩⟩
    rcases hsame with hsame | hsame
    · rwa [← hsame]
    · obtain ⟨b', hb', heq⟩ := hmade.key group hgroup
      rw [heq] at hkey hsame
      exact (h.context_meets b' hb' b hb c hkey).mpr hsame

end Passing

section Example

local instance sampleRuntimeAllowlist : PyRuntime := Sample.runtime

/-- `LOWER` of a column in the sample engine. -/
def lowerCall (row : Row PyValue) (field : Text) : PyValue :=
  match (unwrap field.strip).1, unwrappedColumn (unwrap field.strip).2 with
  | some .lower, some column =>
    if row column = .none then .none else .str ((Sample.text (row column)).map Char.toLower)
  | _, _ => .none

/-- A worker over the sample engine, with `LOWER`. -/
def lowerSession : Session PyValue where
  engine := Sample.engine (fun _ _ => false) lowerCall 0
  filter _ := .ok fun _ => .yes
  native _ := .ok .passed

theorem lowersColumns_sample : LowersColumns lowerSession.engine := by
  intro row field column hwrapper hcolumn
  have hnone : unwrappedColumn field = none := by
    cases hname : unwrappedColumn field with
    | none => rfl
    | some name => rw [unwrap_of_name hname] at hwrapper; cases hwrapper
  have hscalar : lowerSession.engine.scalar row field = lowerCall row field := by
    simp only [lowerSession, Sample.engine, hnone]
  rw [hscalar, lowerCall, hwrapper, hcolumn, lowerCell]
  by_cases hnull : row column = .none
  · simp [lowerSession, Sample.engine, hnull]
  · simp [lowerSession, Sample.engine, hnull]

/-- `context = value AND attribute IN (list)`. -/
def allowlistBranch (context value attributeField : String) (values : List String) : Ast :=
  .logical .and (.predicate ⟨context.toList, .compare .eq ⟨value.toList, .string⟩⟩)
    (.predicate ⟨attributeField.toList, .inList false (values.map fun literal =>
      ⟨literal.toList, if literal = "NULL" then .expression else .string⟩)⟩)

/-- `x = 'p' AND LOWER(a) IN ('ab', 'c') OR x = 'q' AND LOWER(a) IN ('d') OR x = 'p' AND …`. -/
def loweredAst : Ast :=
  .logical .or
    (.logical .or (allowlistBranch "x" "'p'" "LOWER(a)" ["'ab'", "'c'"])
      (allowlistBranch "x" "'q'" "LOWER(a)" ["'d'"]))
    (allowlistBranch "x" "'p'" "LOWER(a)" ["'c'", "'e'"])

/-- The expectations of its two groups. -/
def loweredKinds : List ExpectationKind :=
  [.notBeNull ['x'], .inSet false ['x'] [.str ['p'], .str ['q']],
    .inSetForOther ['a'] ['x'] (.str ['p']) [.str "ab", .str ['c'], .str ['e']] false,
    .inSetForOther ['a'] ['x'] (.str ['q']) [.str ['d']] false]

example : conditionalAllowlist (some loweredAst) = .ok (some loweredKinds) := by decide +kernel

def shoutedFilter : Text := "x = 'p' AND LOWER(a) IN ('AB') OR x = 'q' AND LOWER(a) IN ('d')"

/-- Its tree. -/
def shoutedAst : Ast :=
  .logical .or (allowlistBranch "x" "'p'" "LOWER(a)" ["'AB'"])
    (allowlistBranch "x" "'q'" "LOWER(a)" ["'d'"])

def missingFilter : Text := "x = 'p' AND a IN ('u', NULL) OR x = 'q' AND a IN ('d')"

/-- Its tree. -/
def missingAst : Ast :=
  .logical .or (allowlistBranch "x" "'p'" "a" ["'u'", "NULL"])
    (allowlistBranch "x" "'q'" "a" ["'d'"])

end Example

end Gx

end DqMadeEasy
