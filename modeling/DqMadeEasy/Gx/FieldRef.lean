import DqMadeEasy.Gx.Literal

/-!
# Field references

The lowering reduces a field reference to the column it names. A `TRIM`, `LOWER` or `UPPER`
call is remembered as a wrapper, a type cast is dropped, and a qualified name keeps its last
segment. Any other call is refused here and handled by the function-call translation instead.
-/

namespace DqMadeEasy

namespace Gx

/-- Wrappers of a field reference. `trimDotted` is `TRIM` spelled with a dotted capital I, which
the pattern accepts and `str.upper` leaves as it is. -/
inductive Wrapper where
  | trim | lower | upper | trimDotted
  deriving DecidableEq, Repr

/-- `_FieldRef`. -/
structure FieldRef where
  column : Text
  wrapper : Option Wrapper
  deriving DecidableEq, Repr

/-- The argument of a call that reaches to the end of the text: at least one character, no line
break. -/
def callInner (rest : Text) : Option Text :=
  match rest with
  | '(' :: cs =>
    if cs.getLast? = some ')' ∧ cs.dropLast ≠ [] ∧ '\n' ∉ cs.dropLast then some cs.dropLast
    else none
  | _ => none

/-- `_WRAPPER_RE` on a stripped text: the wrapper and its argument. -/
def wrapperMatch (raw : Text) : Option (Wrapper × Text) :=
  match (Text.dropWord "TRIM" raw).bind callInner with
  | some inner =>
    some (if (raw.take 4).any (fun c => c.toNat = 0x130) then .trimDotted else .trim, inner)
  | none =>
    match (Text.dropWord "LOWER" raw).bind callInner with
    | some inner => some (.lower, inner)
    | none =>
      match (Text.dropWord "UPPER" raw).bind callInner with
      | some inner => some (.upper, inner)
      | none => none

/-- Where a scan of `(?:::[A-Za-z_][A-Za-z0-9_]*)+` stands. -/
inductive CastScan where
  | firstColon | secondColon | nameStart | nameRest
  deriving DecidableEq, Repr

/-- Whether the rest of a text completes a run of type casts. -/
def completesCasts : CastScan → Text → Bool
  | .nameRest, [] => true
  | _, [] => false
  | .firstColon, c :: cs => c == ':' && completesCasts .secondColon cs
  | .secondColon, c :: cs => c == ':' && completesCasts .nameStart cs
  | .nameStart, c :: cs => Text.isIdentStart c && completesCasts .nameRest cs
  | .nameRest, c :: cs =>
    if Text.isIdentRest c then completesCasts .nameRest cs
    else c == ':' && completesCasts .secondColon cs

/-- The lazy base of `_TYPECAST_RE`: the shortest non-empty prefix without line breaks whose
rest is a run of casts. -/
def castBaseFrom (base : Text) : Text → Option Text
  | [] => none
  | c :: cs =>
    if !base.isEmpty && completesCasts .firstColon (c :: cs) then some base
    else if c = '\n' then none
    else castBaseFrom (base ++ [c]) cs

/-- A field reference without its type casts. -/
def dropCasts (raw : Text) : Text :=
  match castBaseFrom [] raw with
  | some base => base.strip
  | none => raw

/-- The segments of a dotted name. -/
def segments (t : Text) : List Text := t.splitOn '.'

/-- `_DOTTED_IDENT_RE`. -/
def isDottedIdent (t : Text) : Bool :=
  2 ≤ (segments t).length && (segments t).all Text.isIdent

def columnOfName (raw : Text) : Option Text :=
  if raw.isIdent then some raw
  else if isDottedIdent raw then (segments raw).getLast?
  else none

/-- The wrapper of a stripped field reference, and the reference inside it. -/
def unwrap (raw : Text) : Option Wrapper × Text :=
  match wrapperMatch raw with
  | some (wrapper, inner) => (some wrapper, inner.strip)
  | none => (none, raw)

def parseFieldRef (field : Text) : Except GxExpectationBuildError FieldRef :=
  if field.strip = [] then raise "Predicate field is missing"
  else
    match columnOfName (dropCasts (unwrap field.strip).2) with
    | some column => .ok ⟨column, (unwrap field.strip).1⟩
    | none =>
      raise ("Unsupported field reference for GX translation: " ++ String.ofList field)

/-- Identifier characters under `re.IGNORECASE`. -/
def isIdentStartFolded (c : Char) : Bool := Text.isIdentStart c || (Text.foldExtra c).isSome

/-- Identifier characters under `re.IGNORECASE`. -/
def isIdentRestFolded (c : Char) : Bool := Text.isIdentRest c || (Text.foldExtra c).isSome

/-- `str.upper` on the characters of an identifier: dotless I and long s have ASCII capitals,
dotted I and the Kelvin sign are capitals already. -/
def identUpper (c : Char) : Char :=
  if c.toNat = 0x131 then 'I' else if c.toNat = 0x17F then 'S' else c.toUpper

/-- `_parse_function_call`: the upper-case name and the arguments. -/
def parseFunctionCall (field : Text) : Option (Text × List Text) :=
  let raw := field.strip
  let name := raw.takeWhile isIdentRestFolded
  if ¬(name.head?.any isIdentStartFolded) then none
  else
    match raw.dropWhile isIdentRestFolded with
    | '(' :: cs =>
      if cs.getLast? = some ')' ∧ '\n' ∉ cs.dropLast then
        some (name.map identUpper, splitFunctionArguments cs.dropLast)
      else none
    | _ => none

/-- The column a field reference names when it is a column, plain or qualified, with neither a
call nor a cast around it. -/
def unwrappedColumn (field : Text) : Option Text := columnOfName field.strip

def isUnwrapped (field : Text) : Bool := (unwrappedColumn field).isSome

/-! ### Unwrapped references -/

theorem isIdentRest_toNat {c : Char} (h : Text.isIdentRest c = true) :
    48 ≤ c.toNat ∧ c.toNat ≤ 122 := by
  simp only [Text.isIdentRest, Bool.or_eq_true, beq_iff_eq] at h
  rcases h with h | rfl
  · exact alphanum_range h
  · decide

theorem isIdentRest_of_isIdentStart {c : Char} (h : Text.isIdentStart c = true) :
    Text.isIdentRest c = true := by
  simp only [Text.isIdentStart, Text.isIdentRest, Char.isAlphanum, Bool.or_eq_true] at h ⊢
  tauto

variable {t : Text}

theorem isIdentRest_of_mem_isIdent (h : t.isIdent = true) :
    ∀ c ∈ t, Text.isIdentRest c = true := by
  cases t with
  | nil => simp
  | cons d ds =>
    simp only [Text.isIdent, Bool.and_eq_true, List.all_eq_true] at h
    intro c hc
    rcases List.mem_cons.mp hc with rfl | hc
    · exact isIdentRest_of_isIdentStart h.1
    · exact h.2 c hc

/-- Characters of a plain or qualified name. -/
def isNameChar (c : Char) : Bool := Text.isIdentRest c || c == '.'

theorem isNameChar_of_mem {field column : Text} (h : columnOfName field = some column) :
    ∀ c ∈ field, isNameChar c = true := by
  intro c hc
  unfold columnOfName at h
  split at h
  · rename_i hident
    simp [isNameChar, isIdentRest_of_mem_isIdent hident c hc]
  · split at h
    · rename_i hdotted
      simp only [isDottedIdent, Bool.and_eq_true, List.all_eq_true] at hdotted
      obtain rfl | ⟨segment, hs, hcs⟩ := @Text.mem_splitOn_of_mem _ '.' _ hc
      · decide
      · simp [isNameChar, isIdentRest_of_mem_isIdent (hdotted.2 segment hs) c hcs]
    · cases h

theorem paren_not_mem_of_name {column : Text} (h : columnOfName t = some column) :
    '(' ∉ t := by
  intro hmem
  have := isNameChar_of_mem h _ hmem
  revert this
  decide

theorem colon_not_mem_of_name {column : Text} (h : columnOfName t = some column) :
    ':' ∉ t := by
  intro hmem
  have := isNameChar_of_mem h _ hmem
  revert this
  decide

theorem mem_of_dropWord {word rest : Text} (h : Text.dropWord word t = some rest) :
    ∀ c ∈ rest, c ∈ t := by
  induction word generalizing t with
  | nil =>
    simp only [Text.dropWord, Option.some.injEq] at h
    simp [h]
  | cons p ps ih =>
    cases t with
    | nil => cases h
    | cons d ds =>
      simp only [Text.dropWord] at h
      split at h
      · intro c hc
        exact List.mem_cons_of_mem _ (ih h c hc)
      · cases h

theorem paren_mem_of_callInner {inner : Text} (h : callInner t = some inner) : '(' ∈ t := by
  unfold callInner at h
  split at h
  · simp
  · cases h

theorem wrapperMatch_eq_none {t : Text} (h : '(' ∉ t) : wrapperMatch t = none := by
  have hcall (word : Text) : (Text.dropWord word t).bind callInner = none := by
    cases hdrop : Text.dropWord word t with
    | none => rfl
    | some rest =>
      simp only [Option.bind_some]
      by_contra hne
      obtain ⟨inner, hinner⟩ := Option.ne_none_iff_exists'.mp hne
      exact h (mem_of_dropWord hdrop _ (paren_mem_of_callInner hinner))
  simp [wrapperMatch, hcall]

theorem castBaseFrom_eq_none (h : ':' ∉ t) (base : Text) :
    castBaseFrom base t = none := by
  induction t generalizing base with
  | nil => rfl
  | cons c cs ih =>
    have hc : (c == ':') = false := by
      simp only [beq_eq_false_iff_ne]
      rintro rfl
      simp at h
    simp only [castBaseFrom, completesCasts, hc, Bool.false_and, Bool.and_false,
      Bool.false_eq_true, if_false]
    split
    · rfl
    · exact ih (fun hmem => h (List.mem_cons_of_mem _ hmem)) _

theorem dropCasts_of_name {column : Text} (h : columnOfName t = some column) :
    dropCasts t = t := by
  simp [dropCasts, castBaseFrom_eq_none (colon_not_mem_of_name h)]

theorem unwrap_of_name {column : Text} (h : columnOfName t = some column) :
    unwrap t = (none, t) := by
  simp [unwrap, wrapperMatch_eq_none (paren_not_mem_of_name h)]

theorem columnOfName_nil : columnOfName [] = none := by decide

theorem parseFieldRef_of_unwrapped {field column : Text}
    (h : unwrappedColumn field = some column) : parseFieldRef field = .ok ⟨column, none⟩ := by
  have hne : field.strip ≠ [] := by
    intro hnil
    rw [unwrappedColumn, hnil, columnOfName_nil] at h
    cases h
  rw [unwrappedColumn] at h
  simp only [parseFieldRef, hne, if_false, unwrap_of_name h, dropCasts_of_name h, h]

theorem parseFunctionCall_of_unwrapped {field column : Text}
    (h : unwrappedColumn field = some column) : parseFunctionCall field = none := by
  have hparen := paren_not_mem_of_name h
  unfold parseFunctionCall
  simp only
  split
  · rfl
  · split
    · rename_i cs hdrop
      exact absurd ((List.dropWhile_sublist _).subset (hdrop ▸ List.mem_cons_self)) hparen
    · rfl

end Gx

end DqMadeEasy
