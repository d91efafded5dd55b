import Mathlib.Data.List.Infix
import Mathlib.Data.Rat.Defs
import Mathlib.Tactic.Ring
import Mathlib.Data.List.DropRight

/-!
# Python text and numbers

Text is a list of characters, so that scanners are structural recursions. White space is the
exact table that `str.strip` and `\s` share. The rest of the character database (which
characters are alphanumeric, which are decimal digits, how letters change case) and the
rounding of decimals to floats belong to the Python runtime: they are fields of `PyRuntime`,
fixed on the ASCII range and constrained elsewhere only by what every version of the database
guarantees.
-/

namespace DqMadeEasy

/-- A Python string. -/
abbrev Text := List Char

instance : Coe String Text := ⟨String.toList⟩

instance : LawfulBEq Text := inferInstance

/-- A Python float: a finite value, an infinity, or not a number. The sign of zero is dropped. -/
inductive PyFloat where
  | finite (value : ℚ)
  | infinite (negative : Bool)
  | nan
  deriving DecidableEq

/-- White space as `str.isspace` and the pattern class `\s` see it. -/
def isSpace (c : Char) : Bool :=
  let n := c.toNat
  (9 ≤ n && n ≤ 13) || (28 ≤ n && n ≤ 32) || n == 0x85 || n == 0xA0 || n == 0x1680 ||
    (0x2000 ≤ n && n ≤ 0x200A) || n == 0x2028 || n == 0x2029 || n == 0x202F || n == 0x205F ||
    n == 0x3000

/-- What the Python runtime decides: its character database and its float arithmetic. -/
class PyRuntime where
  /-- `str.isalnum` on one character. -/
  isAlnum : Char → Bool
  /-- Value of a decimal digit, as `\d` and `int` see it. -/
  digit : Char → Option Nat
  /-- `str.upper` on one character. It has no context, but may yield several characters. -/
  upper : Char → Text
  /-- `str.lower`. -/
  lower : Text → Text
  /-- The float nearest to a decimal. -/
  roundFloat : ℚ → PyFloat
  /-- `str` of a float. -/
  floatRepr : PyFloat → Text
  isAlnum_ascii : ∀ c : Char, c.toNat < 128 → isAlnum c = c.isAlphanum
  digit_ascii : ∀ c : Char, c.toNat < 128 →
    digit c = if c.isDigit then some (c.toNat - 48) else none
  digit_isAlnum : ∀ c : Char, digit c ≠ none → isAlnum c = true
  isAlnum_not_space : ∀ c : Char, isAlnum c = true → isSpace c = false
  upper_ascii : ∀ c : Char, c.toNat < 128 → upper c = [c.toUpper]
  lower_ascii : ∀ t : Text, (∀ c ∈ t, c.toNat < 128) → lower t = t.map Char.toLower

theorem isUpper_iff {c : Char} : c.isUpper = true ↔ 65 ≤ c.toNat ∧ c.toNat ≤ 90 :=
  decide_eq_true_iff

theorem isAlpha_iff {c : Char} :
    c.isAlpha = true ↔ 65 ≤ c.toNat ∧ c.toNat ≤ 90 ∨ 97 ≤ c.toNat ∧ c.toNat ≤ 122 :=
  Bool.or_eq_true_iff.trans (isUpper_iff.or (Bool.and_eq_true_iff.trans
    ((decide_eq_true_iff.and decide_eq_true_iff).trans .rfl)))

theorem alphanum_range {c : Char} (h : c.isAlphanum = true) : 48 ≤ c.toNat ∧ c.toNat ≤ 122 := by
  simp only [Char.isAlphanum, Char.isDigit, isAlpha_iff, Bool.or_eq_true, Bool.and_eq_true,
    decide_eq_true_eq, UInt32.le_iff_toNat_le, ge_iff_le] at h
  have hval : c.toNat = c.val.toNat := rfl
  have h9 : '9'.val.toNat = 57 := rfl
  have h0 : '0'.val.toNat = 48 := rfl
  omega

/-- Upper-casing changes letters only, and yields capitals. -/
theorem toUpper_cases (c : Char) :
    c.toUpper = c ∨ (c.isAlpha = true ∧ c.toUpper.isUpper = true) := by
  by_cases h : 'a'.val ≤ c.val ∧ c.val ≤ 'z'.val
  · right
    have hlow : 97 ≤ c.val.toNat := UInt32.le_iff_toNat_le.mp h.1
    have hhigh : c.val.toNat ≤ 122 := UInt32.le_iff_toNat_le.mp h.2
    have hval : c.toUpper.val.toNat = c.val.toNat - 32 := by
      unfold Char.toUpper
      rw [dif_pos h]
      show (c.val + ('A'.val - 'a'.val)).toNat = _
      rw [UInt32.toNat_add]
      have : ('A'.val - 'a'.val).toNat = 4294967264 := by decide
      omega
    have hnat : c.toUpper.toNat = c.toNat - 32 := hval
    rw [isAlpha_iff, isUpper_iff, hnat]
    have : c.toNat = c.val.toNat := rfl
    omega
  · left
    unfold Char.toUpper
    rw [dif_neg h]

theorem isSpace_eq_false_of_range {c : Char} (hlow : 33 ≤ c.toNat) (hhigh : c.toNat ≤ 132) :
    isSpace c = false := by
  simp only [isSpace]
  simp
  omega

/-- The runtime whose character database stops at the ASCII range. It is the runtime of every
text that contains only ASCII characters. -/
@[reducible] def PyRuntime.ascii (roundFloat : ℚ → PyFloat) (floatRepr : PyFloat → Text) :
    PyRuntime where
  isAlnum c := c.isAlphanum
  digit c := if c.isDigit then some (c.toNat - 48) else none
  upper c := [c.toUpper]
  lower t := t.map Char.toLower
  roundFloat := roundFloat
  floatRepr := floatRepr
  isAlnum_ascii _ _ := rfl
  digit_ascii _ _ := rfl
  digit_isAlnum c h := by
    by_cases hd : c.isDigit = true
    · simp [Char.isAlphanum, hd]
    · simp [hd] at h
  isAlnum_not_space c h := by
    have hrange := alphanum_range h
    exact isSpace_eq_false_of_range (by omega) (by omega)
  upper_ascii _ _ := rfl
  lower_ascii _ _ := rfl

namespace Text

variable [PyRuntime]

/-- Word characters, the class `\w`. -/
def isWord (c : Char) : Bool := PyRuntime.isAlnum c || c == '_'

def upper (t : Text) : Text := t.flatMap PyRuntime.upper

end Text

namespace Text

/-- ASCII letters and the underscore: how an identifier starts. -/
def isIdentStart (c : Char) : Bool := c.isAlpha || c == '_'

/-- Characters that continue an identifier. -/
def isIdentRest (c : Char) : Bool := c.isAlphanum || c == '_'

/-- The pattern `[A-Za-z_][A-Za-z0-9_]*` against the whole text. -/
def isIdent : Text → Bool
  | [] => false
  | c :: cs => isIdentStart c && cs.all isIdentRest

def lstrip (t : Text) : Text := t.dropWhile isSpace

def strip (t : Text) : Text := (t.dropWhile isSpace).rdropWhile isSpace

/-- The slice `t[1:-1]`. -/
def inner (t : Text) : Text := t.tail.dropLast

@[simp] theorem inner_wrap (c d : Char) (t : Text) : inner (c :: (t ++ [d])) = t := by
  simp [inner]

/-- `str.replace` for a non-empty pattern. The counter is the rest of a replaced occurrence
still to be skipped. -/
def replaceFrom (old new : Text) : Nat → Text → Text
  | _, [] => []
  | skip + 1, _ :: cs => replaceFrom old new skip cs
  | 0, c :: cs =>
    if old.isPrefixOf (c :: cs) then new ++ replaceFrom old new (old.length - 1) cs
    else c :: replaceFrom old new 0 cs

/-- `str.replace` for a non-empty pattern. -/
def replace (old new t : Text) : Text := replaceFrom old new 0 t

variable {c p sep : Char} {t : Text}

/-- A text without the replaced character is left as it is. -/
theorem replace_eq_self (new : Text) (h : c ∉ t) :
    replace [c] new t = t := by
  induction t with
  | nil => rfl
  | cons d ds ih =>
    rw [List.mem_cons, not_or] at h
    have hno : List.isPrefixOf [c] (d :: ds) = false := by
      simp [List.isPrefixOf, h.1]
    rw [replace, replaceFrom, hno]
    exact congrArg (d :: ·) (ih h.2)

/-- `str.split` at a one-character separator. -/
def splitOn (sep : Char) : Text → List Text
  | [] => [[]]
  | c :: cs =>
    if c = sep then [] :: splitOn sep cs
    else
      match splitOn sep cs with
      | part :: rest => (c :: part) :: rest
      | [] => [[c]]

/-- `sep.join(parts)`. -/
def join (sep : Text) : List Text → Text
  | [] => []
  | [part] => part
  | part :: parts => part ++ sep ++ join sep parts

/-- All white space removed, the substitution of `\s+` by the empty text. -/
def removeSpaces (t : Text) : Text := t.filter fun c => !isSpace c

/-- Letters that Python's case-insensitive matching identifies with an ASCII letter although
they lie outside the ASCII range: dotted and dotless I, long s, and the Kelvin sign. -/
def foldExtra (c : Char) : Option Char :=
  if c.toNat = 0x130 ∨ c.toNat = 0x131 then some 'I'
  else if c.toNat = 0x17F then some 'S'
  else if c.toNat = 0x212A then some 'K'
  else none

/-- One character against an upper-case pattern letter under `re.IGNORECASE`. -/
def matchesLetter (pattern c : Char) : Bool :=
  c.toUpper == pattern || foldExtra c == some pattern

/-- The rest of the text after an upper-case word matched under `re.IGNORECASE`. -/
def dropWord : Text → Text → Option Text
  | [], t => some t
  | _ :: _, [] => none
  | p :: ps, c :: cs => if matchesLetter p c then dropWord ps cs else none

/-- A whole text against an upper-case word under `re.IGNORECASE`. -/
def matchesWord (word t : Text) : Bool := dropWord word t == some []

theorem foldExtra_mem (h : foldExtra c = some p) : p = 'I' ∨ p = 'S' ∨ p = 'K' := by
  unfold foldExtra at h
  split at h
  · cases h; simp
  split at h
  · cases h; simp
  split at h
  · cases h; simp
  · cases h

theorem matchesLetter_punct (hp : p.isUpper = false) (h : matchesLetter p c = true) :
    c = p := by
  simp only [matchesLetter, Bool.or_eq_true, beq_iff_eq] at h
  rcases h with h | h
  · rcases toUpper_cases c with hc | ⟨-, hc⟩
    · rw [← hc, h]
    · rw [h, hp] at hc
      cases hc
  · rcases foldExtra_mem h with rfl | rfl | rfl <;> cases hp

theorem matchesLetter_letter (hp : p.isUpper = true) (hfold : p ≠ 'I' ∧ p ≠ 'S' ∧ p ≠ 'K')
    (h : matchesLetter p c = true) :
    c.isAlpha = true ∧ c.toUpper = p := by
  simp only [matchesLetter, Bool.or_eq_true, beq_iff_eq] at h
  rcases h with h | h
  · refine ⟨?_, h⟩
    rcases toUpper_cases c with hc | ⟨hc, -⟩
    · rw [← hc, h]
      exact Bool.or_eq_true_iff.mpr (.inl hp)
    · exact hc
  · rcases foldExtra_mem h with rfl | rfl | rfl <;> simp at hfold

theorem dropWord_append (word word' t : Text) :
    dropWord (word ++ word') t = (dropWord word t).bind (dropWord word') := by
  induction word generalizing t with
  | nil => rfl
  | cons p ps ih =>
    cases t with
    | nil => rfl
    | cons c cs =>
      simp only [List.cons_append, dropWord]
      split
      · exact ih cs
      · rfl

/-- Capitals that only ASCII letters match. -/
def isPlainCapital (p : Char) : Bool := p.isUpper && p != 'I' && p != 'S' && p != 'K'

/-- A word of capitals other than I, K and S is matched by its spellings in letters. -/
theorem letters_of_dropWord {word rest : Text} (hword : word.all isPlainCapital = true)
    (h : dropWord word t = some rest) :
    ∃ u, t = u ++ rest ∧ u.map Char.toUpper = word ∧ ∀ c ∈ u, c.isAlpha = true := by
  induction word generalizing t with
  | nil => exact ⟨[], by simpa [dropWord] using h, by simp⟩
  | cons p ps ih =>
    cases t with
    | nil => cases h
    | cons c cs =>
      simp only [dropWord] at h
      split at h
      · rename_i hmatch
        rw [List.all_cons, Bool.and_eq_true] at hword
        obtain ⟨⟨⟨hupper, hI⟩, hS⟩, hK⟩ : ((p.isUpper = true ∧ p ≠ 'I') ∧ p ≠ 'S') ∧ p ≠ 'K' := by
          simpa [isPlainCapital] using hword.1
        obtain ⟨halpha, heq⟩ := matchesLetter_letter hupper ⟨hI, hS, hK⟩ hmatch
        obtain ⟨u, rfl, hmap, hall⟩ := ih hword.2 h
        exact ⟨c :: u, rfl, by rw [List.map_cons, heq, hmap], by simpa using ⟨halpha, hall⟩⟩
      · cases h

theorem punct_of_dropWord {word rest : Text} (hword : word.any Char.isUpper = false)
    (h : dropWord word t = some rest) : t = word ++ rest := by
  induction word generalizing t with
  | nil => simpa [dropWord] using h
  | cons p ps ih =>
    cases t with
    | nil => cases h
    | cons c cs =>
      simp only [dropWord] at h
      split at h
      · rename_i hmatch
        rw [List.any_cons, Bool.or_eq_false_iff] at hword
        rw [matchesLetter_punct hword.1 hmatch, ih hword.2 h, List.cons_append]
      · cases h

theorem isIdent_of_alpha (hne : t ≠ []) (h : ∀ c ∈ t, c.isAlpha = true) :
    isIdent t = true := by
  cases t with
  | nil => contradiction
  | cons c cs =>
    simp only [isIdent, isIdentStart, isIdentRest, Char.isAlphanum, Bool.and_eq_true,
      Bool.or_eq_true, List.all_eq_true]
    exact ⟨.inl (h c List.mem_cons_self), fun d hd => .inl (.inl (h d (List.mem_cons_of_mem _ hd)))⟩

theorem splitOn_ne_nil (sep : Char) (t : Text) : splitOn sep t ≠ [] := by
  cases t with
  | nil => simp [splitOn]
  | cons c cs =>
    rw [splitOn]
    split
    · simp
    · split <;> simp

/-- The pieces have no separator. -/
theorem not_mem_of_mem_splitOn {piece : Text} (h : piece ∈ splitOn sep t) :
    sep ∉ piece := by
  induction t generalizing piece with
  | nil =>
    rw [splitOn, List.mem_singleton] at h
    subst h
    exact List.not_mem_nil
  | cons c cs ih =>
    rw [splitOn] at h
    split at h
    · rcases List.mem_cons.mp h with rfl | h
      · exact List.not_mem_nil
      · exact ih h
    · next hc =>
      split at h
      · next part rest hsplit =>
        rcases List.mem_cons.mp h with rfl | h
        · intro hmem
          rcases List.mem_cons.mp hmem with hsep | hmem
          · exact hc hsep.symm
          · exact ih (by rw [hsplit]; exact List.mem_cons_self) hmem
        · exact ih (by rw [hsplit]; exact List.mem_cons_of_mem _ h)
      · rw [List.mem_singleton] at h
        subst h
        simpa using fun hsep : sep = c => hc hsep.symm

theorem splitOn_of_not_mem (h : sep ∉ t) : splitOn sep t = [t] := by
  induction t with
  | nil => rfl
  | cons c cs ih =>
    rw [List.mem_cons, not_or] at h
    rw [splitOn, if_neg fun hc => h.1 hc.symm, ih h.2]

theorem mem_splitOn_of_mem (hc : c ∈ t) :
    c = sep ∨ ∃ part ∈ splitOn sep t, c ∈ part := by
  induction t with
  | nil => simp at hc
  | cons d ds ih =>
    rw [splitOn]
    by_cases hd : d = sep
    · rw [if_pos hd]
      rcases List.mem_cons.mp hc with rfl | hc
      · exact .inl hd
      · obtain h | ⟨part, hs, hcs⟩ := ih hc
        · exact .inl h
        · exact .inr ⟨part, List.mem_cons_of_mem _ hs, hcs⟩
    · rw [if_neg hd]
      cases hseg : splitOn sep ds with
      | nil =>
        rw [hseg] at ih
        rcases List.mem_cons.mp hc with rfl | hc
        · exact .inr ⟨[c], by simp⟩
        · obtain h | ⟨part, hs, _⟩ := ih hc
          · exact .inl h
          · simp at hs
      | cons part rest =>
        rw [hseg] at ih
        rcases List.mem_cons.mp hc with rfl | hc
        · exact .inr ⟨c :: part, by simp⟩
        · obtain h | ⟨part', hs, hcs⟩ := ih hc
          · exact .inl h
          · rcases List.mem_cons.mp hs with rfl | hs
            · exact .inr ⟨d :: part', by simp [hcs]⟩
            · exact .inr ⟨part', by simp [hs], hcs⟩

theorem strip_eq_self (hhead : ∀ c ∈ t.head?, isSpace c = false)
    (hlast : ∀ c ∈ t.getLast?, isSpace c = false) : strip t = t := by
  have hdrop : t.dropWhile isSpace = t := by
    cases t with
    | nil => rfl
    | cons c cs => simp [hhead c (by simp)]
  rw [strip, hdrop, List.rdropWhile_eq_self_iff]
  intro ht
  have := hlast (t.getLast ht) (List.getLast?_eq_getLast_of_ne_nil ht)
  simp [this]

theorem strip_head : ∀ c ∈ (strip t).head?, isSpace c = false := by
  intro c hc
  obtain ⟨suffix, hsuffix⟩ : strip t <+: t.dropWhile isSpace :=
    List.rdropWhile_prefix isSpace _
  have hhead : (t.dropWhile isSpace).head? = some c := by
    rw [← hsuffix]
    cases hstrip : strip t with
    | nil => simp [hstrip] at hc
    | cons d ds => simpa [hstrip] using hc
  have hnot := List.head?_dropWhile_not isSpace t
  rw [hhead] at hnot
  simpa using hnot

theorem strip_getLast : ∀ c ∈ (strip t).getLast?, isSpace c = false := by
  intro c hc
  by_cases hne : strip t = []
  · simp [hne] at hc
  · have hlast := List.rdropWhile_last_not isSpace (t.dropWhile isSpace) hne
    rw [List.getLast?_eq_getLast_of_ne_nil hne, Option.mem_some] at hc
    rw [← hc]
    exact Bool.eq_false_iff.mpr hlast

theorem strip_ne_nil (hmem : c ∈ t) (hspace : isSpace c = false) :
    strip t ≠ [] := by
  intro hnil
  rw [strip, List.rdropWhile_eq_nil_iff] at hnil
  have hkept : c ∈ t.dropWhile isSpace := by
    rw [← List.takeWhile_append_dropWhile (p := isSpace) (l := t)] at hmem
    refine (List.mem_append.mp hmem).resolve_left fun htaken => ?_
    have := List.mem_takeWhile_imp htaken
    rw [hspace] at this
    cases this
  have := hnil c hkept
  rw [hspace] at this
  cases this

@[simp] theorem strip_strip (t : Text) : strip (strip t) = strip t :=
  strip_eq_self strip_head strip_getLast

end Text

end DqMadeEasy
