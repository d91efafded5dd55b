import Mathlib.Data.Rat.Cast.Order
import DqMadeEasy.Semantics.Engine

/-!
# A sample engine

A small query engine over Python values. It orders numbers by value, texts by their characters,
and Booleans by `false < true`; generated wildcard expressions are interpreted, other regular
expressions and scalar calls are given as parameters. It satisfies every law of `Engine`, so
statements about all engines can be evaluated on it.
-/

namespace DqMadeEasy

namespace Sample

/-- Lexicographic order of texts by code point. -/
def compareText : Text → Text → Ordering
  | [], [] => .eq
  | [], _ :: _ => .lt
  | _ :: _, [] => .gt
  | a :: as, b :: bs =>
    if a.toNat < b.toNat then .lt else if b.toNat < a.toNat then .gt else compareText as bs

/-- Order of floats; not a number is the greatest. -/
def compareFloat : PyFloat → PyFloat → Ordering
  | .finite a, .finite b => if a < b then .lt else if a = b then .eq else .gt
  | .finite _, .infinite true => .gt
  | .finite _, .infinite false => .lt
  | .finite _, .nan => .lt
  | .infinite a, .infinite b => compare b.toNat a.toNat
  | .infinite true, .finite _ => .lt
  | .infinite false, .finite _ => .gt
  | .infinite _, .nan => .lt
  | .nan, .nan => .eq
  | .nan, _ => .gt

/-- Order of present values: numbers before Booleans before texts, each kind by value. -/
def compareValue : PyValue → PyValue → Ordering
  | .int a, .int b => compare a b
  | .int a, .float b => compareFloat (.finite a) b
  | .float a, .int b => compareFloat a (.finite b)
  | .float a, .float b => compareFloat a b
  | .bool a, .bool b => compare a.toNat b.toNat
  | .str a, .str b => compareText a b
  | .none, _ => .lt
  | _, .none => .gt
  | .int _, _ => .lt
  | .float _, _ => .lt
  | .bool _, .str _ => .lt
  | .bool _, _ => .gt
  | .str _, _ => .gt

/-- Order of cells, undefined on a missing one. -/
def cmp (a b : PyValue) : Option Ordering :=
  if a = .none ∨ b = .none then none else some (compareValue a b)

/-- Cast to a string. -/
def text : PyValue → Text
  | .none => []
  | .bool b => if b then "true" else "false"
  | .int n => (toString n).toList
  | .float _ => []
  | .str t => t

/-- The sample engine. `search` reads regular expressions that no wildcard pattern generates,
and `call` evaluates scalar texts that are not columns. Timestamps are integers. -/
def engine (search : Text → Text → Bool) (call : Row PyValue → Text → PyValue) (now : ℚ) :
    Engine PyValue where
  isNull v := v == .none
  lit v := v
  cmp := cmp
  boolean v := (cmp v (.bool true)).map (· == .eq)
  text := text
  lower t := t.map Char.toLower
  rlike pattern t :=
    match Pattern.parseAnchored pattern with
    | some items => Pattern.anchoredFind items t
    | none => search pattern t
  timestamp
    | .int n => some n
    | _ => none
  now := now
  distance
    | .int a, .int b => some (a - b).natAbs
    | _, _ => none
  scalar row field :=
    match Gx.unwrappedColumn field with
    | some column => row column
    | none => call row field
  isNull_lit _ := rfl
  cmp_eq_none a b := by
    unfold cmp
    split
    · rename_i h
      simp [h]
    · rename_i h
      simp only [reduceCtorEq, false_iff]
      simpa using h
  boolean_eq _ := rfl
  rlike_anchored items t := by simp only [Pattern.parseAnchored_render]
  scalar_unwrapped row field column h := by simp only [h]

def row (cells : List (Text × PyValue)) : Row PyValue := fun column =>
  match cells.lookup column with
  | some value => value
  | none => .none

/-- The sample runtime: ASCII characters, and decimals that are floats already. -/
@[reducible] def runtime : PyRuntime := PyRuntime.ascii (fun q => .finite q) (fun _ => [])

/-- The sample engine without calls and without further regular expressions. -/
def plain : Engine PyValue := engine (fun _ _ => false) (fun _ _ => .none) 0

end Sample

end DqMadeEasy
