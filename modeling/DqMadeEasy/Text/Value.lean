import Mathlib.Data.Rat.Defs
import DqMadeEasy.Text.Python

/-!
# Python values

The values that literals and rule parameters hold. `bool` is a subclass of `int` in Python, so
a Boolean passes every numeric type test and compares equal to 0 or 1; `isNumber` and `pyEq`
keep that.
-/

namespace DqMadeEasy

/-- A scalar Python value. -/
inductive PyValue where
  | none
  | bool (value : Bool)
  | int (value : ℤ)
  | float (value : PyFloat)
  | str (value : Text)
  deriving DecidableEq

namespace PyFloat

/-- Python's `<` on floats. -/
def lt : PyFloat → PyFloat → Bool
  | .finite a, .finite b => decide (a < b)
  | .finite _, .infinite negative => !negative
  | .infinite negative, .finite _ => negative
  | .infinite a, .infinite b => a && !b
  | .nan, _ => false
  | _, .nan => false

/-- Python's `<=` on floats. -/
def le (a b : PyFloat) : Bool := a.lt b || (a == b && a != .nan)

end PyFloat

namespace PyValue

/-- `isinstance(value, (int, float))`, which Booleans satisfy. -/
def isNumber : PyValue → Bool
  | .bool _ => true
  | .int _ => true
  | .float _ => true
  | .none => false
  | .str _ => false

/-- Numeric reading of a value that `==` compares by number. -/
def numeric : PyValue → Option PyFloat
  | .bool b => some (.finite (if b then 1 else 0))
  | .int n => some (.finite n)
  | .float f => some f
  | .none => .none
  | .str _ => .none

/-- Python's `==` on scalars. -/
def pyEq (a b : PyValue) : Bool :=
  match a.numeric, b.numeric with
  | some .nan, _ => false
  | some x, some y => x == y
  | _, _ => a == b

/-- `float` of a number. -/
def toFloat [PyRuntime] : PyValue → Option PyFloat
  | .bool b => some (.finite (if b then 1 else 0))
  | .int n => some (PyRuntime.roundFloat n)
  | .float f => some f
  | _ => .none

/-- `str` of a value. -/
def toText [PyRuntime] : PyValue → Text
  | .none => "None"
  | .bool b => if b then "True" else "False"
  | .int n => (toString n).toList
  | .float f => PyRuntime.floatRepr f
  | .str t => t

end PyValue

namespace Text

variable [PyRuntime]

/-- Value of a non-empty run of decimal digits. -/
def digitsValue : Text → Option ℕ
  | [] => none
  | c :: cs =>
    cs.foldl (fun value d => value.bind fun n => (PyRuntime.digit d).map (10 * n + ·))
      (PyRuntime.digit c)

/-- Value of a text that is `\d+(?:\.\d+)?` with a fraction part. -/
def unsignedDecimalValue (t : Text) : Option ℚ :=
  match t.dropWhile (· != '.') with
  | _ :: fraction =>
    match digitsValue (t.takeWhile (· != '.')), digitsValue fraction with
    | some whole, some part => some (whole + (part : ℚ) / 10 ^ fraction.length)
    | _, _ => none
  | [] => none

/-- `int` of a text that is `-?\d+`, and `none` on any other text. -/
def intValue : Text → Option ℤ
  | '-' :: cs => (digitsValue cs).map fun n => -(n : ℤ)
  | t => (digitsValue t).map fun n => (n : ℤ)

/-- The decimal that a text of the form `-?\d+\.\d+` denotes, and `none` on any other text. -/
def decimalValue : Text → Option ℚ
  | '-' :: cs => (unsignedDecimalValue cs).map fun q => -q
  | t => unsignedDecimalValue t

/-- The pattern `-?\d+(?:\.\d+)?` against a whole text. -/
def isNumberText (t : Text) : Bool := (intValue t).isSome || (decimalValue t).isSome

end Text

end DqMadeEasy
