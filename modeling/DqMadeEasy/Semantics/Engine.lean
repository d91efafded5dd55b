import DqMadeEasy.Gx.RowCondition
import DqMadeEasy.Logic.Truth
import DqMadeEasy.Text.Pattern

/-!
# The query engine

The worker hands its conditions to a query engine that is not part of the repository. An
`Engine` is what the conditions use of it: cells with missing values, literals, an order between
cells that are not missing, text, regular expressions, timestamps, and the value of a scalar
expression text on a row.

The laws are documented behaviour: a comparison is undefined exactly when a side is missing, a
plain or qualified name denotes its column, a Boolean is true exactly when it equals `TRUE`, and
the regular expressions generated from wildcard patterns are read as the Java engine reads them.
-/

namespace DqMadeEasy

/-- What the conditions use of the query engine. Times are in seconds. -/
structure Engine (Cell : Type*) where
  isNull : Cell → Bool
  lit : PyValue → Cell
  /-- Order of two cells, undefined when one of them is missing. -/
  cmp : Cell → Cell → Option Ordering
  /-- A cell read as a condition. -/
  boolean : Cell → Option Bool
  /-- Cast of a present cell to a string. -/
  text : Cell → Text
  lower : Text → Text
  /-- Whether a regular expression, the first argument, is found in a text. -/
  rlike : Text → Text → Bool
  /-- `to_timestamp`: a missing or unreadable cell has no timestamp. -/
  timestamp : Cell → Option ℚ
  /-- `current_timestamp`. -/
  now : ℚ
  /-- Absolute difference of two cells, undefined when one of them is missing. -/
  distance : Cell → Cell → Option ℚ
  /-- Value of a scalar expression text on a row. -/
  scalar : (Text → Cell) → Text → Cell
  isNull_lit : ∀ v, isNull (lit v) = (v == .none)
  cmp_eq_none : ∀ a b, cmp a b = none ↔ isNull a = true ∨ isNull b = true
  boolean_eq : ∀ a, boolean a = (cmp a (lit (.bool true))).map (· == .eq)
  rlike_anchored : ∀ items t,
    rlike (Pattern.renderAnchored items) t = Pattern.anchoredFind items t
  scalar_unwrapped : ∀ row field column, Gx.unwrappedColumn field = some column →
    scalar row field = row column

abbrev Row (Cell : Type*) := Text → Cell

/-- Orderings a comparison accepts. -/
def Comparison.holds : Comparison → Ordering → Bool
  | .eq, o => o == .eq
  | .ne, o => o != .eq
  | .gt, o => o == .gt
  | .ge, o => o != .lt
  | .lt, o => o == .lt
  | .le, o => o != .gt

/-- The comparison with the opposite truth. -/
def Comparison.negate : Comparison → Comparison
  | .eq => .ne
  | .ne => .eq
  | .gt => .le
  | .ge => .lt
  | .lt => .ge
  | .le => .gt

theorem Comparison.holds_negate (op : Comparison) (o : Ordering) :
    op.negate.holds o = !op.holds o := by
  cases op <;> cases o <;> rfl

namespace Engine

variable {Cell : Type*} (E : Engine Cell)

def compare (op : Comparison) (a b : Cell) : Truth :=
  Truth.ofOption ((E.cmp a b).map op.holds)

def isIn (a : Cell) (values : List Cell) : Truth :=
  values.foldr (fun value rest => E.compare .eq a value ⊔ rest) .no

def textTest (test : Text → Bool) (a : Cell) : Truth :=
  if E.isNull a then .unknown else Truth.ofBool (test (E.text a))

/-- Truth of one column test of a row condition. -/
def atomTruth (row : Row Cell) : Gx.Atom → Truth
  | .comparison column op parameter => E.compare op (row column) (E.lit parameter)
  | .membership column false values => E.isIn (row column) (values.map E.lit)
  | .membership column true values => (E.isIn (row column) (values.map E.lit)).not
  | .nullity column isNull => Truth.ofBool (E.isNull (row column) == isNull)

theorem compare_negate (op : Comparison) (a b : Cell) :
    E.compare op.negate a b = (E.compare op a b).not := by
  unfold compare
  cases E.cmp a b with
  | none => rfl
  | some o => simp [Comparison.holds_negate]

theorem compare_of_present {a b : Cell} (ha : E.isNull a = false) (hb : E.isNull b = false)
    (op : Comparison) : ∃ o, E.cmp a b = some o ∧ E.compare op a b = Truth.ofBool (op.holds o) := by
  cases hcmp : E.cmp a b with
  | none =>
    rcases (E.cmp_eq_none a b).mp hcmp with h | h
    · rw [ha] at h; cases h
    · rw [hb] at h; cases h
  | some o => exact ⟨o, rfl, by simp [compare, hcmp]⟩

theorem compare_ne_unknown {a b : Cell} (ha : E.isNull a = false) (hb : E.isNull b = false)
    (op : Comparison) : E.compare op a b ≠ .unknown := by
  obtain ⟨o, -, h⟩ := E.compare_of_present ha hb op
  simp [h]

@[simp] theorem isIn_nil (a : Cell) : E.isIn a [] = .no := rfl

@[simp] theorem isIn_cons (a value : Cell) (values : List Cell) :
    E.isIn a (value :: values) = E.compare .eq a value ⊔ E.isIn a values := rfl

theorem isIn_ne_unknown {a : Cell} (ha : E.isNull a = false) {values : List Cell}
    (hvalues : ∀ value ∈ values, E.isNull value = false) : E.isIn a values ≠ .unknown := by
  induction values with
  | nil => simp
  | cons value values ih =>
    have hhead := E.compare_ne_unknown ha (hvalues value List.mem_cons_self) .eq
    have htail := ih fun other h => hvalues other (List.mem_cons_of_mem _ h)
    rw [isIn_cons]
    exact Truth.sup_ne_unknown hhead htail

end Engine

end DqMadeEasy
