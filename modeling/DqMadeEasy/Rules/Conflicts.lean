import DqMadeEasy.Compiler.Extract
import DqMadeEasy.Logic.Grouping
import DqMadeEasy.Logic.Pairs
import Mathlib.Data.Sym.Sym2

/-!
# Conflicts between rules

A batch validation compares its rules in pairs. Two rules conflict when they share their compiled
expression or their name, or when a pattern scan finds comparisons of one field with numbers whose
bounds cannot hold together. Only the bounds `>`, `>=`, `<` and `<=` are looked at; equalities and
disequalities are extracted and then ignored.
-/

namespace DqMadeEasy

namespace Conflicts

/-- The operators of `_COMPARISON_PATTERN`. -/
inductive Sign where
  | ge | le | ne | lessGreater | gt | lt | eq
  deriving DecidableEq, Repr

namespace Sign

/-- `(>=|<=|!=|<>|>|<|=)`, the first alternative that matches. -/
def read : Text → Option (Sign × Text)
  | '>' :: '=' :: rest => some (.ge, rest)
  | '<' :: '=' :: rest => some (.le, rest)
  | '!' :: '=' :: rest => some (.ne, rest)
  | '<' :: '>' :: rest => some (.lessGreater, rest)
  | '>' :: rest => some (.gt, rest)
  | '<' :: rest => some (.lt, rest)
  | '=' :: rest => some (.eq, rest)
  | _ => none

/-- A lower bound, one of `{">", ">="}`. -/
def isLower (s : Sign) : Bool := s = .gt ∨ s = .ge

/-- An upper bound, one of `{"<", "<="}`. -/
def isUpper (s : Sign) : Bool := s = .lt ∨ s = .le

end Sign

/-- The loop of `max` and `min`: a value is kept until a better one comes. -/
def extreme (better : PyFloat → PyFloat → Bool) : List PyFloat → Option PyFloat
  | [] => none
  | x :: xs => some (xs.foldl (fun best y => if better y best then y else best) x)

/-- Python's `max` of a list: the first of the largest values. -/
def maximum : List PyFloat → Option PyFloat := extreme fun y best => best.lt y

/-- Python's `min` of a list: the first of the smallest values. -/
def minimum : List PyFloat → Option PyFloat := extreme fun y best => y.lt best

section Predicates

variable [PyRuntime]

def decimal (digits : Text) : Option ℚ :=
  match Text.intValue digits with
  | some n => some n
  | none => Text.decimalValue digits

/-- `_COMPARISON_PATTERN`: a field at a word boundary, a sign and a number. No shorter match of one
part lets the rest match when the longest one does not. -/
def comparisonPattern : Scan.Matcher (Text × Sign × Text) := fun prev t => do
  let (name, t) ← Extract.field prev t
  let (sign, t) ← Sign.read (Text.lstrip t)
  let (digits, rest) ← Tokenizer.number (Text.lstrip t)
  some ((name, sign, digits), rest)

/-- One turn of the loop over the matches: a field, its operator and `float` of the number. -/
def scalarPredicate : Text × Sign × Text → Option (Text × Sign × PyFloat)
  | (name, sign, digits) =>
    (decimal digits).map fun value => (PyRuntime.lower name, sign, PyRuntime.roundFloat value)

def scalarPredicates (expression : Text) : List (Text × Sign × PyFloat) :=
  (Scan.found comparisonPattern none expression).filterMap scalarPredicate

def extractScalarPredicates (expression : Text) : List (Text × List (Sign × PyFloat)) :=
  Grouping.groupOn Prod.fst (fun p => [p.2]) (fun ops p => ops ++ [p.2])
    (scalarPredicates expression)

/-- The values of the operators of one kind. -/
def bounds (kind : Sign → Bool) (ops : List (Sign × PyFloat)) : List PyFloat :=
  ops.filterMap fun p => if kind p.1 then some p.2 else none

/-- The bounds of a field leave nothing between them: `effective_lower >= effective_upper`. -/
def crossed (ops : List (Sign × PyFloat)) : Bool :=
  match maximum (bounds Sign.isLower ops), minimum (bounds Sign.isUpper ops) with
  | some lower, some upper => upper.le lower
  | _, _ => false

def hasContradictoryPredicates (exprA exprB : Text) : Bool :=
  let predsA := extractScalarPredicates exprA
  let predsB := extractScalarPredicates exprB
  predsA.any fun (field, opsA) =>
    match Assoc.find? predsB field with
    | none => false
    | some opsB => if opsB.isEmpty then false else crossed (opsA ++ opsB)

end Predicates

/-! ### The bounds of a field -/

variable {a b best : PyFloat} {xs : List PyFloat} {preds : List (Text × Sign × PyFloat)}

theorem PyFloat.le_of_lt_eq_false (ha : a ≠ .nan) (hb : b ≠ .nan) (h : a.lt b = false) :
    b.le a = true := by
  cases a with
  | nan => contradiction
  | finite p =>
    cases b with
    | nan => contradiction
    | finite q =>
      have hle : q ≤ p := by simpa [PyFloat.lt] using h
      rcases lt_or_eq_of_le hle with hlt | rfl
      · simp [PyFloat.le, PyFloat.lt, hlt]
      · simp [PyFloat.le]
    | infinite negative => cases negative <;> simp_all [PyFloat.lt, PyFloat.le]
  | infinite negative =>
    cases b with
    | nan => contradiction
    | finite q => cases negative <;> simp_all [PyFloat.lt, PyFloat.le]
    | infinite negative' => cases negative <;> cases negative' <;> simp_all [PyFloat.lt, PyFloat.le]

theorem PyFloat.le_refl (h : a ≠ .nan) : a.le a = true := by simp [PyFloat.le, h]

theorem PyFloat.le_of_lt (h : a.lt b = true) : a.le b = true := by
  simp [PyFloat.le, h]

theorem PyFloat.le_trans {c : PyFloat} (hab : a.le b = true) (hbc : b.le c = true) :
    a.le c = true := by
  simp only [PyFloat.le, Bool.or_eq_true, Bool.and_eq_true, beq_iff_eq, bne_iff_ne] at hab hbc ⊢
  rcases hab with hab | ⟨rfl, -⟩
  · rcases hbc with hbc | ⟨rfl, -⟩
    · left
      cases a <;> cases b <;> cases c <;> simp_all [PyFloat.lt]
      exact hab.trans hbc
    · exact .inl hab
  · exact hbc

/-- The value that the loop keeps is one of the values, and none of them is ahead of it. -/
theorem extreme_spec {better : PyFloat → PyFloat → Bool} {behind : PyFloat → PyFloat → Bool}
    (hrefl : ∀ x, x ≠ .nan → behind x x = true)
    (htrans : ∀ x y z, behind x y = true → behind y z = true → behind x z = true)
    (hbetter : ∀ x y, better y x = true → behind x y = true)
    (hworse : ∀ x y, x ≠ .nan → y ≠ .nan → better y x = false → behind y x = true)
    (hxs : ∀ x ∈ xs, x ≠ .nan) (h : extreme better xs = some best) :
    best ∈ xs ∧ ∀ x ∈ xs, behind x best = true := by
  induction xs using List.reverseRecOn generalizing best with
  | nil => cases h
  | append_singleton xs x ih =>
    have hx : x ≠ .nan := hxs x (by simp)
    cases xs with
    | nil =>
      obtain rfl : x = best := Option.some.inj h
      exact ⟨by simp, by simpa using hrefl x hx⟩
    | cons y ys =>
      obtain ⟨hmem, hbest⟩ := ih (fun z hz => hxs z (List.mem_append_left _ hz)) rfl
      rw [List.cons_append, extreme, List.foldl_append, Option.some.injEq] at h
      generalize ys.foldl (fun best y => if better y best then y else best) y = previous
        at hmem hbest h
      have hprevious : previous ≠ .nan := hxs previous (List.mem_append_left _ hmem)
      simp only [List.foldl_cons, List.foldl_nil] at h
      subst h
      split
      · rename_i hahead
        refine ⟨by simp, fun z hz => ?_⟩
        rcases List.mem_append.mp hz with hz | hz
        · exact htrans z previous x (hbest z hz) (hbetter previous x hahead)
        · obtain rfl := List.mem_singleton.mp hz
          exact hrefl z hx
      · rename_i hahead
        refine ⟨List.mem_append_left _ hmem, fun z hz => ?_⟩
        rcases List.mem_append.mp hz with hz | hz
        · exact hbest z hz
        · obtain rfl := List.mem_singleton.mp hz
          exact hworse previous z hprevious hx (Bool.eq_false_iff.mpr hahead)

theorem maximum_spec (hxs : ∀ x ∈ xs, x ≠ .nan) (h : maximum xs = some best) :
    best ∈ xs ∧ ∀ x ∈ xs, x.le best = true :=
  extreme_spec (fun _ => PyFloat.le_refl) (fun _ _ _ => PyFloat.le_trans)
    (fun _ _ => PyFloat.le_of_lt) (fun _ _ => PyFloat.le_of_lt_eq_false) hxs h

theorem minimum_spec (hxs : ∀ x ∈ xs, x ≠ .nan) (h : minimum xs = some best) :
    best ∈ xs ∧ ∀ x ∈ xs, best.le x = true := by
  refine @extreme_spec best xs _ (fun x y => y.le x) (fun _ => PyFloat.le_refl)
    (fun x y z hxy hyz => PyFloat.le_trans hyz hxy) (fun _ _ => PyFloat.le_of_lt) ?_ hxs h
  intro x y hx hy hnot
  exact PyFloat.le_of_lt_eq_false hy hx hnot

theorem extreme_eq_none_iff {better : PyFloat → PyFloat → Bool} :
    extreme better xs = none ↔ xs = [] := by
  cases xs with
  | nil => exact iff_of_true rfl rfl
  | cons x xs => exact iff_of_false nofun nofun

theorem mem_bounds {kind : Sign → Bool} {ops : List (Sign × PyFloat)} {x : PyFloat} :
    x ∈ bounds kind ops ↔ ∃ sign, (sign, x) ∈ ops ∧ kind sign = true := by
  constructor
  · intro h
    obtain ⟨⟨sign, y⟩, hmem, hsome⟩ := List.mem_filterMap.mp h
    split at hsome
    · rename_i hkind
      obtain rfl := Option.some.inj hsome
      exact ⟨sign, hmem, hkind⟩
    · cases hsome
  · rintro ⟨sign, hmem, hkind⟩
    exact List.mem_filterMap.mpr ⟨(sign, x), hmem, by simp [hkind]⟩

/-- The bounds of a field are crossed when some lower bound reaches some upper bound. -/
theorem crossed_iff {ops : List (Sign × PyFloat)} (hops : ∀ op ∈ ops, op.2 ≠ .nan) :
    crossed ops = true ↔
      ∃ lower ∈ ops, ∃ upper ∈ ops, lower.1.isLower = true ∧ upper.1.isUpper = true ∧
        upper.2.le lower.2 = true := by
  have hbounds (kind : Sign → Bool) : ∀ x ∈ bounds kind ops, x ≠ .nan := by
    intro x hx
    obtain ⟨sign, hmem, -⟩ := mem_bounds.mp hx
    exact hops _ hmem
  unfold crossed
  constructor
  · intro h
    split at h
    · rename_i lower upper hlower hupper
      obtain ⟨signL, hmemL, hL⟩ := mem_bounds.mp (maximum_spec (hbounds _) hlower).1
      obtain ⟨signU, hmemU, hU⟩ := mem_bounds.mp (minimum_spec (hbounds _) hupper).1
      exact ⟨_, hmemL, _, hmemU, hL, hU, h⟩
    · cases h
  · rintro ⟨lower, hlower, upper, hupper, hL, hU, hle⟩
    have hmemL : lower.2 ∈ bounds Sign.isLower ops := mem_bounds.mpr ⟨lower.1, hlower, hL⟩
    have hmemU : upper.2 ∈ bounds Sign.isUpper ops := mem_bounds.mpr ⟨upper.1, hupper, hU⟩
    cases hmax : maximum (bounds Sign.isLower ops) with
    | none =>
      rw [extreme_eq_none_iff.mp hmax] at hmemL
      cases hmemL
    | some highest =>
      cases hmin : minimum (bounds Sign.isUpper ops) with
      | none =>
        rw [extreme_eq_none_iff.mp hmin] at hmemU
        cases hmemU
      | some lowest =>
        calc lowest.le highest = true := PyFloat.le_trans
              (PyFloat.le_trans ((minimum_spec (hbounds _) hmin).2 _ hmemU) hle)
              ((maximum_spec (hbounds _) hmax).2 _ hmemL)

def fieldPredicates (field : Text) (preds : List (Text × Sign × PyFloat)) :
    List (Sign × PyFloat) :=
  (Grouping.fiber Prod.fst preds field).map Prod.snd

theorem mem_fieldPredicates {field : Text} {op : Sign × PyFloat} :
    op ∈ fieldPredicates field preds ↔ (field, op) ∈ preds := by
  constructor
  · intro h
    obtain ⟨⟨name, _⟩, hmem, rfl⟩ := List.mem_map.mp h
    obtain ⟨hpreds, rfl⟩ := Grouping.mem_fiber.mp hmem
    exact hpreds
  · intro h
    exact List.mem_map.mpr ⟨_, Grouping.mem_fiber.mpr ⟨h, rfl⟩, rfl⟩

theorem gathered_predicates (preds : List (Text × Sign × PyFloat)) :
    Grouping.gathered (fun p => [p.2]) (fun ops p => ops ++ [p.2]) preds =
      if preds = [] then none else some (preds.map Prod.snd) := by
  induction preds using List.reverseRecOn with
  | nil => rfl
  | append_singleton preds p ih =>
    rw [Grouping.gathered_append, ih]
    by_cases h : preds = []
    · simp [h, Grouping.gather]
    · simp [h, Grouping.gather]

def Crossing (field : Text) (preds : List (Text × Sign × PyFloat)) : Prop :=
  ∃ lower upper, (field, lower) ∈ preds ∧ (field, upper) ∈ preds ∧
    lower.1.isLower = true ∧ upper.1.isUpper = true ∧ upper.2.le lower.2 = true

theorem Crossing.mono {field : Text} {preds' : List (Text × Sign × PyFloat)}
    (h : Crossing field preds) (hsub : preds ⊆ preds') : Crossing field preds' := by
  obtain ⟨lower, upper, hlower, hupper, hcrossing⟩ := h
  exact ⟨lower, upper, hsub hlower, hsub hupper, hcrossing⟩

theorem fieldPredicates_ne_nil_iff {field : Text} :
    fieldPredicates field preds ≠ [] ↔ ∃ op, (field, op) ∈ preds := by
  constructor
  · intro h
    obtain ⟨op, hop⟩ := List.exists_mem_of_ne_nil _ h
    exact ⟨op, mem_fieldPredicates.mp hop⟩
  · rintro ⟨op, hop⟩
    exact List.ne_nil_of_mem (mem_fieldPredicates.mpr hop)

section Extraction

variable [PyRuntime]

/-- The rounding of decimals to floats keeps their order. -/
class RoundsMonotonically : Prop where
  round_le : ∀ {p q : ℚ}, p ≤ q → (PyRuntime.roundFloat p).le (PyRuntime.roundFloat q) = true

theorem round_ne_nan [RoundsMonotonically] (q : ℚ) : PyRuntime.roundFloat q ≠ .nan := by
  intro h
  have := RoundsMonotonically.round_le (le_refl q)
  rw [h] at this
  cases this

/-- The extracted values are numbers. -/
theorem scalarPredicates_ne_nan [RoundsMonotonically] {expression : Text} :
    ∀ p ∈ scalarPredicates expression, p.2.2 ≠ .nan := by
  intro p hp
  obtain ⟨⟨name, sign, digits⟩, -, hsome⟩ := List.mem_filterMap.mp hp
  obtain ⟨value, -, rfl⟩ := Option.map_eq_some_iff.mp hsome
  exact round_ne_nan value

theorem find?_extractScalarPredicates (expression field : Text) :
    Assoc.find? (extractScalarPredicates expression) field =
      if fieldPredicates field (scalarPredicates expression) = [] then none
      else some (fieldPredicates field (scalarPredicates expression)) := by
  rw [extractScalarPredicates, Grouping.find?_groupOn, gathered_predicates]
  simp [fieldPredicates]

/-- The flag is raised when both expressions compare a field whose bounds are crossed. -/
theorem hasContradictoryPredicates_iff_crossed (exprA exprB : Text) :
    hasContradictoryPredicates exprA exprB = true ↔
      ∃ field, fieldPredicates field (scalarPredicates exprA) ≠ [] ∧
        fieldPredicates field (scalarPredicates exprB) ≠ [] ∧
        crossed (fieldPredicates field (scalarPredicates exprA) ++
          fieldPredicates field (scalarPredicates exprB)) = true := by
  rw [hasContradictoryPredicates, List.any_eq_true]
  constructor
  · rintro ⟨⟨field, opsA⟩, hentry, hcrossed⟩
    have hfind : Assoc.find? (extractScalarPredicates exprA) field = some opsA :=
      Assoc.find?_of_mem Grouping.nodup_keys_groupOn hentry
    rw [find?_extractScalarPredicates] at hfind
    split at hfind
    · cases hfind
    · rename_i hA
      obtain rfl := Option.some.inj hfind
      simp only [find?_extractScalarPredicates] at hcrossed
      by_cases hB : fieldPredicates field (scalarPredicates exprB) = []
      · simp [hB] at hcrossed
      · simp only [hB, if_false, List.isEmpty_iff] at hcrossed
        exact ⟨field, hA, hB, hcrossed⟩
  · rintro ⟨field, hA, hB, hcrossed⟩
    have hfind := find?_extractScalarPredicates exprA field
    rw [if_neg hA] at hfind
    refine ⟨_, Assoc.mem_of_find? hfind, ?_⟩
    simp only [find?_extractScalarPredicates, hB, if_false, List.isEmpty_iff]
    exact hcrossed

/-- What `_has_contradictory_predicates` decides, for every two texts. -/
theorem hasContradictoryPredicates_iff [RoundsMonotonically] (exprA exprB : Text) :
    hasContradictoryPredicates exprA exprB = true ↔
      ∃ field, (∃ op, (field, op) ∈ scalarPredicates exprA) ∧
        (∃ op, (field, op) ∈ scalarPredicates exprB) ∧
        Crossing field (scalarPredicates exprA ++ scalarPredicates exprB) := by
  rw [hasContradictoryPredicates_iff_crossed]
  refine exists_congr fun field => ?_
  rw [fieldPredicates_ne_nil_iff, fieldPredicates_ne_nil_iff, crossed_iff]
  · simp only [Crossing, List.mem_append, mem_fieldPredicates]
    refine and_congr_right fun _ => and_congr_right fun _ => ?_
    constructor
    · rintro ⟨lower, hlower, upper, hupper, h⟩
      exact ⟨lower, upper, hlower, hupper, h⟩
    · rintro ⟨lower, upper, hlower, hupper, h⟩
      exact ⟨lower, hlower, upper, hupper, h⟩
  · intro op hop
    rcases List.mem_append.mp hop with hop | hop
    · exact scalarPredicates_ne_nan _ (mem_fieldPredicates.mp hop)
    · exact scalarPredicates_ne_nan _ (mem_fieldPredicates.mp hop)

/-- The flag does not depend on the order of the two expressions. -/
theorem hasContradictoryPredicates_comm [RoundsMonotonically] (exprA exprB : Text) :
    hasContradictoryPredicates exprA exprB = hasContradictoryPredicates exprB exprA := by
  have himp (a b : Text) (h : hasContradictoryPredicates a b = true) :
      hasContradictoryPredicates b a = true := by
    rw [hasContradictoryPredicates_iff] at h ⊢
    obtain ⟨field, ha, hb, hcrossing⟩ := h
    exact ⟨field, hb, ha, hcrossing.mono (List.perm_append_comm.subset)⟩
  rw [Bool.eq_iff_iff]
  exact ⟨himp exprA exprB, himp exprB exprA⟩

end Extraction

/-! ### Pairs of rules -/

/-- One item of `rule_summaries`. A key that is missing has no value. -/
structure RuleSummary where
  ruleId : Option Text
  ruleName : Option Text
  compiledExpression : Option Text
  deriving DecidableEq, Repr

inductive ConflictType where
  | duplicateExpression | duplicateName | contradictoryPredicates
  deriving DecidableEq, Repr

structure ConflictInfo where
  ruleId : Text
  conflictsWith : Text
  conflictType : ConflictType
  message : Text
  deriving DecidableEq, Repr

section Detection

variable [PyRuntime]

namespace RuleSummary

/-- `str(rule.get("ruleId") or "")`. -/
def id (rule : RuleSummary) : Text := rule.ruleId.getD []

/-- The name without its white space, in lower case. -/
def name (rule : RuleSummary) : Text :=
  PyRuntime.lower (Text.strip (rule.ruleName.getD []))

/-- The expression without its white space. -/
def expr (rule : RuleSummary) : Text := Text.strip (rule.compiledExpression.getD [])

end RuleSummary

/-- The common head of the three messages. -/
def messageHead (a b : RuleSummary) : Text :=
  "Rule '" ++ a.id ++ "' and rule '" ++ b.id

/-- The conflict of two rules with the same expression. -/
def duplicateExpression (a b : RuleSummary) : ConflictInfo where
  ruleId := a.id
  conflictsWith := b.id
  conflictType := .duplicateExpression
  message := messageHead a b ++ "' share the same compiled expression: '".toList ++
    a.expr.take 80 ++ (if 80 < a.expr.length then "...".toList else []) ++ ['\'']

/-- The conflict of two rules with the same name. -/
def duplicateName (a b : RuleSummary) : ConflictInfo where
  ruleId := a.id
  conflictsWith := b.id
  conflictType := .duplicateName
  message := messageHead a b ++ "' share the same name (case-insensitive): '" ++ a.name ++
    ['\'']

/-- The conflict of two rules with contradictory bounds. -/
def contradictoryPredicates (a b : RuleSummary) : ConflictInfo where
  ruleId := a.id
  conflictsWith := b.id
  conflictType := .contradictoryPredicates
  message := messageHead a b ++
    "' have contradictory numeric predicates on a shared field."

/-- Two rules share an expression. -/
def sameExpression (a b : RuleSummary) : Bool := a.expr ≠ [] ∧ b.expr ≠ [] ∧ a.expr = b.expr

/-- The conflicts of two rules whose expressions are not shared. -/
def otherConflicts (a b : RuleSummary) : List ConflictInfo :=
  (if a.name ≠ [] ∧ b.name ≠ [] ∧ a.name = b.name then [duplicateName a b] else []) ++
    (if a.expr ≠ [] ∧ b.expr ≠ [] ∧ a.expr ≠ b.expr then
      (if hasContradictoryPredicates a.expr b.expr then [contradictoryPredicates a b] else [])
    else [])

/-- The accumulators of the loops: `conflicts` and `seen_pairs`. -/
structure Progress where
  conflicts : List ConflictInfo
  seenPairs : List (Sym2 Text)

/-- The body of the inner loop. -/
def comparePair (a : RuleSummary) (progress : Progress) (b : RuleSummary) : Progress :=
  if s(a.id, b.id) ∈ progress.seenPairs then progress
  else if sameExpression a b then
    { conflicts := progress.conflicts ++ [duplicateExpression a b]
      seenPairs := progress.seenPairs ++ [s(a.id, b.id)] }
  else { progress with conflicts := progress.conflicts ++ otherConflicts a b }

/-- The outer loop. -/
def compareAll (progress : Progress) : List RuleSummary → Progress
  | [] => progress
  | a :: rest => compareAll (rest.foldl (comparePair a) progress) rest

def detectConflicts (ruleSummaries : List RuleSummary) : List ConflictInfo :=
  (compareAll ⟨[], []⟩ ruleSummaries).conflicts

/-! ### The order of the rules -/

def pairConflicts (a b : RuleSummary) : List ConflictInfo :=
  if sameExpression a b then [duplicateExpression a b] else otherConflicts a b

variable {a : RuleSummary} {rules : List RuleSummary}

theorem comparePair_conflicts {b : RuleSummary} {progress : Progress}
    (h : s(a.id, b.id) ∉ progress.seenPairs) :
    (comparePair a progress b).conflicts = progress.conflicts ++ pairConflicts a b := by
  rw [comparePair, if_neg h, pairConflicts]
  split <;> rfl

/-- A turn of the inner loop adds at most the pair of its rules. -/
theorem comparePair_seenPairs {b : RuleSummary} {progress : Progress} {pair : Sym2 Text}
    (h : pair ∈ (comparePair a progress b).seenPairs) :
    pair ∈ progress.seenPairs ∨ pair = s(a.id, b.id) := by
  rw [comparePair] at h
  split at h
  · exact .inl h
  · split at h
    · simpa using h
    · exact .inl h

/-- The inner loop over rules with other ids than each other compares each of them. -/
theorem foldl_comparePair {rest : List RuleSummary} {progress : Progress}
    (hnodup : (rest.map RuleSummary.id).Nodup)
    (hseen : ∀ b ∈ rest, s(a.id, b.id) ∉ progress.seenPairs) :
    (rest.foldl (comparePair a) progress).conflicts =
        progress.conflicts ++ rest.flatMap (pairConflicts a) ∧
      ∀ pair ∈ (rest.foldl (comparePair a) progress).seenPairs,
        pair ∈ progress.seenPairs ∨ a.id ∈ pair := by
  induction rest generalizing progress with
  | nil => exact ⟨by simp, fun pair hpair => .inl hpair⟩
  | cons b rest ih =>
    rw [List.map_cons, List.nodup_cons] at hnodup
    have hrest : ∀ c ∈ rest, s(a.id, c.id) ∉ (comparePair a progress b).seenPairs := by
      intro c hc hmem
      rcases comparePair_seenPairs hmem with hmem | heq
      · exact hseen c (List.mem_cons_of_mem _ hc) hmem
      · have hid : c.id = b.id := by
          rcases Sym2.eq_iff.mp heq with ⟨-, h⟩ | ⟨h₁, h₂⟩
          · exact h
          · rw [h₂, h₁]
        exact hnodup.1 (hid ▸ List.mem_map_of_mem hc)
    obtain ⟨hconflicts, hpairs⟩ := ih hnodup.2 hrest
    rw [List.foldl_cons, hconflicts, comparePair_conflicts (hseen b List.mem_cons_self)]
    refine ⟨by rw [List.flatMap_cons, List.append_assoc], fun pair hpair => ?_⟩
    rcases hpairs pair hpair with hpair | hpair
    · rcases comparePair_seenPairs hpair with hpair | rfl
      · exact .inl hpair
      · exact .inr (Sym2.mem_mk_left _ _)
    · exact .inr hpair

/-- The loops over rules with distinct ids compare every pair. Each pair seen before contains a
rule that has been left behind. -/
theorem compareAll_conflicts {progress : Progress} (hnodup : (rules.map RuleSummary.id).Nodup)
    (hseen : ∀ pair ∈ progress.seenPairs, ∃ id ∈ pair, id ∉ rules.map RuleSummary.id) :
    (compareAll progress rules).conflicts =
      progress.conflicts ++ Pairs.overPairs pairConflicts rules := by
  induction rules generalizing progress with
  | nil => simp [compareAll, Pairs.overPairs]
  | cons a rest ih =>
    rw [List.map_cons, List.nodup_cons] at hnodup
    have hfresh : ∀ b ∈ rest, s(a.id, b.id) ∉ progress.seenPairs := by
      intro b hb hmem
      obtain ⟨id, hid, hnot⟩ := hseen _ hmem
      rw [List.map_cons, List.mem_cons, not_or] at hnot
      rcases Sym2.mem_iff.mp hid with rfl | rfl
      · exact hnot.1 rfl
      · exact hnot.2 (List.mem_map_of_mem hb)
    obtain ⟨hconflicts, hpairs⟩ := foldl_comparePair hnodup.2 hfresh
    rw [compareAll, ih hnodup.2, hconflicts, Pairs.overPairs_cons, List.append_assoc]
    intro pair hpair
    rcases hpairs pair hpair with hpair | hpair
    · obtain ⟨id, hid, hnot⟩ := hseen pair hpair
      exact ⟨id, hid, fun h => hnot (List.mem_cons_of_mem _ h)⟩
    · exact ⟨a.id, hpair, hnodup.1⟩

theorem detectConflicts_eq (hnodup : (rules.map RuleSummary.id).Nodup) :
    detectConflicts rules = Pairs.overPairs pairConflicts rules := by
  rw [detectConflicts, compareAll_conflicts hnodup (by simp), List.nil_append]

def report (conflict : ConflictInfo) : Sym2 Text × ConflictType :=
  (s(conflict.ruleId, conflict.conflictsWith), conflict.conflictType)

theorem report_pairConflicts_comm [RoundsMonotonically] (a b : RuleSummary) :
    (pairConflicts a b).map report = (pairConflicts b a).map report := by
  have hexpression : sameExpression a b = sameExpression b a := by
    rw [sameExpression, sameExpression, decide_eq_decide]
    tauto
  have hname : (a.name ≠ [] ∧ b.name ≠ [] ∧ a.name = b.name) ↔
      (b.name ≠ [] ∧ a.name ≠ [] ∧ b.name = a.name) := by tauto
  have hother : (a.expr ≠ [] ∧ b.expr ≠ [] ∧ a.expr ≠ b.expr) ↔
      (b.expr ≠ [] ∧ a.expr ≠ [] ∧ b.expr ≠ a.expr) := by tauto
  have hpair : s(a.id, b.id) = s(b.id, a.id) := Sym2.eq_swap
  simp only [pairConflicts, hexpression, otherConflicts, hname, hother,
    hasContradictoryPredicates_comm a.expr b.expr]
  split_ifs <;>
    simp [report, duplicateExpression, duplicateName, contradictoryPredicates, hpair]

theorem report_detectConflicts_perm [RoundsMonotonically] {rules' : List RuleSummary}
    (hnodup : (rules.map RuleSummary.id).Nodup) (hperm : rules.Perm rules') :
    ((detectConflicts rules).map report).Perm ((detectConflicts rules').map report) := by
  have hnodup' : (rules'.map RuleSummary.id).Nodup := (hperm.map _).nodup_iff.mp hnodup
  rw [detectConflicts_eq hnodup, detectConflicts_eq hnodup', Pairs.map_overPairs,
    Pairs.map_overPairs]
  exact Pairs.overPairs_perm report_pairConflicts_comm hperm

end Detection

end Conflicts

end DqMadeEasy
