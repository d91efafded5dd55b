import DqMadeEasy.Logic.Assoc
import DqMadeEasy.Text.Value

/-!
# JSON values

The values that `json.loads` builds: scalars, lists and dictionaries. A dictionary keeps its
entries in insertion order; assigning a key that is present replaces its value in place.
-/

namespace DqMadeEasy

/-- The parts of `int`, `float` and `repr` that read or write a text. -/
class PyNumerals where
  /-- `int` of a text. -/
  parseInt : Text → Option ℤ
  /-- `float` of a text. -/
  parseFloat : Text → Option PyFloat
  /-- `repr` of a text. -/
  stringRepr : Text → Text

/-- A value of a JSON document. -/
inductive Json where
  | scalar (value : PyValue)
  | list (items : List Json)
  | dict (entries : List (Text × Json))

abbrev Dict := List (Text × Json)

namespace Dict

/-- `key in d`. -/
def contains (d : Dict) (key : Text) : Bool := decide (key ∈ Assoc.keys d)

def find? (d : Dict) (key : Text) : Option Json := Assoc.find? d key

/-- `d.get(key)`, with `None` for a key that is not there. -/
def get (d : Dict) (key : String) : Json := (d.find? key.toList).getD (.scalar .none)

/-- `d[key] = value`. -/
def insert (d : Dict) (key : Text) (value : Json) : Dict := Assoc.update key (fun _ => value) d

/-- `{**d, **e}`. -/
def merge (d e : Dict) : Dict := e.foldl (fun acc entry => acc.insert entry.1 entry.2) d

/-- A dictionary display, later entries replacing earlier ones of the same key. -/
def ofEntries (entries : List (Text × Json)) : Dict := merge [] entries

end Dict

namespace Json

/-- `None`. -/
def null : Json := .scalar .none

def text (s : String) : Json := .scalar (.str s.toList)

/-- An integer. -/
def int (n : ℤ) : Json := .scalar (.int n)

/-- `value is None`. -/
def isNone : Json → Bool
  | .scalar .none => true
  | _ => false

/-- `bool(value)`. -/
def truthy : Json → Bool
  | .scalar .none => false
  | .scalar (.bool b) => b
  | .scalar (.int n) => n != 0
  | .scalar (.float f) => f != .finite 0
  | .scalar (.str t) => t != []
  | .list items => !items.isEmpty
  | .dict entries => !entries.isEmpty

/-- `a or b`. -/
def orElse (a b : Json) : Json := if a.truthy then a else b

/-- `value if isinstance(value, dict) else {}`. -/
def dictOrEmpty : Json → Dict
  | .dict entries => entries
  | _ => []

/-- `value if isinstance(value, dict) else None`. -/
def asDict? : Json → Option Dict
  | .dict entries => some entries
  | _ => none

/-- `value if isinstance(value, list) else None`. -/
def asList? : Json → Option (List Json)
  | .list items => some items
  | _ => none

/-- `value if isinstance(value, int) else None`. -/
def asInt? : Json → Option ℤ
  | .scalar (.int n) => some n
  | .scalar (.bool b) => some (if b then 1 else 0)
  | _ => none

section Builtins

variable [PyRuntime] [PyNumerals]

mutual

/-- `repr` of a value. -/
def repr : Json → Text
  | .scalar (.str t) => PyNumerals.stringRepr t
  | .scalar v => v.toText
  | .list items => '[' :: Text.join ", " (reprItems items) ++ [']']
  | .dict entries => '\x7b' :: Text.join ", " (reprEntries entries) ++ ['\x7d']

/-- `repr` of the items of a list. -/
def reprItems : List Json → List Text
  | [] => []
  | item :: items => repr item :: reprItems items

/-- `repr` of the entries of a dictionary. -/
def reprEntries : List (Text × Json) → List Text
  | [] => []
  | (key, value) :: entries =>
    (PyNumerals.stringRepr key ++ ": " ++ repr value) :: reprEntries entries

end

/-- `str` of a value. -/
def str : Json → Text
  | .scalar v => v.toText
  | value => value.repr

/-- `str(value or "").strip()`. -/
def strippedText (value : Json) : Text :=
  if value.truthy then value.str.strip else []

@[simp] theorem strippedText_str (t : Text) :
    strippedText (.scalar (.str t)) = Text.strip t := by
  cases t <;> rfl

theorem strip_strippedText (value : Json) : Text.strip value.strippedText = value.strippedText := by
  rw [strippedText]
  split
  · exact Text.strip_strip _
  · rfl

/-- `int(value)`, `none` where it raises. -/
def toInt? : Json → Option ℤ
  | .scalar (.bool b) => some (if b then 1 else 0)
  | .scalar (.int n) => some n
  | .scalar (.float (.finite q)) => some (if 0 ≤ q then q.floor else q.ceil)
  | .scalar (.str t) => PyNumerals.parseInt t
  | _ => none

/-- `float(value)`, `none` where it raises. -/
def toFloat? : Json → Option PyFloat
  | .scalar (.str t) => PyNumerals.parseFloat t
  | .scalar v => v.toFloat
  | _ => none

end Builtins

end Json

end DqMadeEasy
