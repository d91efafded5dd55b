import DqMadeEasy.Compiler.Lexemes
import DqMadeEasy.Logic.Bounds
import DqMadeEasy.Rules.Conflicts

/-!
# Contradictory bounds in conjunctions

A conjunction of comparisons of fields with decimal constants has a meaning: the values of the
fields that meet every comparison. The pattern scan finds exactly the comparisons of such a text,
so that the flag can be compared with the meaning. It is raised for bounds that touch without
excluding each other, and it is not raised for an equality outside a bound.
-/

namespace DqMadeEasy

namespace Conflicts

/-! ### Texts of conjunctions -/

namespace Sign

/-- The sign of a comparison. -/
def ofOp : BoundOp → Sign
  | .lt => .lt
  | .le => .le
  | .gt => .gt
  | .ge => .ge
  | .eq => .eq

/-- The text of a comparison's sign. -/
def text : BoundOp → Text
  | .lt => "<"
  | .le => "<="
  | .gt => ">"
  | .ge => ">="
  | .eq => "="

end Sign

/-- What may stand around the comparisons: white space and brackets. -/
def isGlue (c : Char) : Bool := isSpace c || c == '(' || c == ')'

/-- `AND` between two comparisons, in any case. -/
structure Joint where
  before : Text
  word : Text
  after : Text
  before_glue : ∀ c ∈ before, isGlue c = true
  before_ne : before ≠ []
  word_and : word.map Char.toUpper = "AND"
  after_glue : ∀ c ∈ after, isGlue c = true
  after_ne : after ≠ []

section Conjunctions

variable [PyRuntime]

/-- A comparison of a field with a decimal constant. -/
structure Comparison where
  field : Text
  before : Text
  op : BoundOp
  after : Text
  constant : Text
  value : ℚ
  field_ident : Text.isIdent field = true
  before_space : ∀ c ∈ before, isSpace c = true
  after_space : ∀ c ∈ after, isSpace c = true
  constant_number : Tokenizer.number constant = some (constant, [])
  constant_value : decimal constant = some value

namespace Comparison

def text (c : Comparison) : Text :=
  c.field ++ (c.before ++ (Sign.text c.op ++ (c.after ++ c.constant)))

/-- The bound that the comparison puts on its field. Fields are told apart without their case. -/
def bound (c : Comparison) : Text × Bound ℚ := (PyRuntime.lower c.field, ⟨c.op, c.value⟩)

end Comparison

def restText : List (Joint × Comparison) → Text
  | [] => []
  | (joint, c) :: rest => joint.before ++ (joint.word ++ (joint.after ++ (c.text ++ restText rest)))

/-- A conjunction of comparisons. -/
structure Conjunction where
  lead : Text
  first : Comparison
  rest : List (Joint × Comparison)
  tail : Text
  lead_glue : ∀ c ∈ lead, isGlue c = true
  tail_glue : ∀ c ∈ tail, isGlue c = true

namespace Conjunction

def text (a : Conjunction) : Text := a.lead ++ (a.first.text ++ (restText a.rest ++ a.tail))

def comparisons (a : Conjunction) : List Comparison := a.first :: a.rest.map Prod.snd

def bounds (a : Conjunction) : List (Text × Bound ℚ) := a.comparisons.map Comparison.bound

/-- Values of the fields meet every comparison. -/
def Satisfied (values : Text → ℚ) (a : Conjunction) : Prop :=
  ∀ b ∈ a.bounds, Bound.Satisfies values b

end Conjunction

/-! ### Where the pattern does not match -/

variable {c : Char} {prev : Option Char}

omit [PyRuntime] in
theorem isIdentRest_of_start (h : Text.isIdentStart c = true) :
    Text.isIdentRest c = true := by
  simp only [Text.isIdentStart, Text.isIdentRest, Char.isAlphanum, Bool.or_eq_true] at h ⊢
  exact h.imp_left .inl

omit [PyRuntime] in
theorem isIdentStartFolded_of_glue (h : isGlue c = true) :
    Gx.isIdentStartFolded c = false := by
  simp only [isGlue, Bool.or_eq_true, beq_iff_eq] at h
  rcases h with (h | rfl) | rfl
  · rw [Gx.isIdentStartFolded, Bool.or_eq_false_iff]
    constructor
    · rw [Bool.eq_false_iff]
      intro hstart
      rw [Tokenizer.isSpace_of_isIdentRest c (isIdentRest_of_start hstart)] at h
      cases h
    · rw [Text.foldExtra]
      simp only [isSpace, Bool.or_eq_true, Bool.and_eq_true, decide_eq_true_eq, beq_iff_eq] at h
      split_ifs <;> first | rfl | omega
  · decide
  · decide

theorem isWord_of_glue (h : isGlue c = true) : Text.isWord c = false := by
  simp only [isGlue, Bool.or_eq_true, beq_iff_eq] at h
  rw [Text.isWord, Bool.or_eq_false_iff]
  rcases h with (h | rfl) | rfl
  · constructor
    · rw [Bool.eq_false_iff]
      intro halnum
      rw [PyRuntime.isAlnum_not_space c halnum] at h
      cases h
    · rw [beq_eq_false_iff_ne]
      rintro rfl
      cases h
  · exact ⟨PyRuntime.isAlnum_ascii '(' (by decide), by decide⟩
  · exact ⟨PyRuntime.isAlnum_ascii ')' (by decide), by decide⟩

theorem isWord_of_isIdentRest (h : Text.isIdentRest c = true) : Text.isWord c = true := by
  rw [Text.isIdentRest, Bool.or_eq_true] at h
  rw [Text.isWord, Bool.or_eq_true]
  refine h.imp_left fun halnum => ?_
  have hrange := alphanum_range halnum
  rw [PyRuntime.isAlnum_ascii c (by omega), halnum]

theorem comparisonPattern_none_of_head {cs : Text} (h : Gx.isIdentStartFolded c = false) :
    comparisonPattern prev (c :: cs) = none := by
  simp [comparisonPattern, Extract.field, Extract.ident, h]

theorem comparisonPattern_none_of_boundary {t : Text} (h : Scan.boundary prev t = false) :
    comparisonPattern prev t = none := by
  simp [comparisonPattern, Extract.field, h]

/-- No word ends right before the position. -/
def Apart (prev : Option Char) : Prop := prev.any Text.isWord = false

theorem boundary_of_apart {cs : Text} (hprev : Apart prev) (hc : Text.isWord c = true) :
    Scan.boundary prev (c :: cs) = true := by
  rw [Scan.boundary, show prev.any Text.isWord = false from hprev]
  simp [hc]

theorem found_glue {glue : Text} (hglue : ∀ c ∈ glue, isGlue c = true) (prev : Option Char) :
    ∃ prev', (glue ≠ [] ∨ Apart prev → Apart prev') ∧
      ∀ t, Scan.found comparisonPattern prev (glue ++ t) =
        Scan.found comparisonPattern prev' t := by
  induction glue generalizing prev with
  | nil => exact ⟨prev, fun h => h.resolve_left (by simp), fun t => rfl⟩
  | cons c cs ih =>
    have hc := hglue c List.mem_cons_self
    obtain ⟨prev', hapart, hfound⟩ := ih (fun d hd => hglue d (List.mem_cons_of_mem _ hd)) (some c)
    refine ⟨prev', fun _ => hapart (.inr (isWord_of_glue hc)), fun t => ?_⟩
    rw [List.cons_append, Scan.found_none
      (comparisonPattern_none_of_head (isIdentStartFolded_of_glue hc)), hfound]

/-- The characters of a word behind its first one are passed over. -/
theorem found_inside {word : Text} (hword : ∀ c ∈ word, Text.isWord c = true)
    (hc : Text.isWord c = true) :
    ∃ prev', ∀ t, Scan.found comparisonPattern (some c) (word ++ t) =
      Scan.found comparisonPattern prev' t := by
  induction word generalizing c with
  | nil => exact ⟨some c, fun t => rfl⟩
  | cons d ds ih =>
    have hd := hword d List.mem_cons_self
    obtain ⟨prev', hfound⟩ := ih (fun e he => hword e (List.mem_cons_of_mem _ he)) hd
    refine ⟨prev', fun t => ?_⟩
    rw [List.cons_append, Scan.found_none, hfound]
    exact comparisonPattern_none_of_boundary (by simp [Scan.boundary, hc, hd])

/-! ### Where the pattern matches -/

omit [PyRuntime] in
/-- An identifier, taken apart. -/
theorem exists_of_isIdent {name : Text} (h : Text.isIdent name = true) :
    ∃ c cs, name = c :: cs ∧ Text.isIdentStart c = true ∧ ∀ d ∈ c :: cs, Text.isIdentRest d = true := by
  cases name with
  | nil => cases h
  | cons c cs =>
    rw [Text.isIdent, Bool.and_eq_true, List.all_eq_true] at h
    refine ⟨c, cs, rfl, h.1, ?_⟩
    intro d hd
    rcases List.mem_cons.mp hd with rfl | hd
    · exact isIdentRest_of_start h.1
    · exact h.2 d hd

omit [PyRuntime] in
theorem isIdentRestFolded_eq_false (hc : isGlue c = true ∨ c ∈ ['<', '>', '=']) :
    Gx.isIdentRestFolded c = false := by
  rcases hc with hc | hc
  · have hstart := isIdentStartFolded_of_glue hc
    rw [Gx.isIdentStartFolded, Bool.or_eq_false_iff] at hstart
    rw [Gx.isIdentRestFolded, hstart.2, Bool.or_false, Bool.eq_false_iff]
    intro hrest
    simp only [isGlue, Bool.or_eq_true, beq_iff_eq] at hc
    rcases hc with (hc | rfl) | rfl
    · rw [Tokenizer.isSpace_of_isIdentRest c hrest] at hc
      cases hc
    · exact absurd hrest (by decide)
    · exact absurd hrest (by decide)
  · simp only [List.mem_cons, List.not_mem_nil, or_false] at hc
    rcases hc with rfl | rfl | rfl <;> decide

theorem field_append {name rest : Text} (hname : Text.isIdent name = true) (hprev : Apart prev)
    (hrest : ∀ c ∈ rest.head?, Gx.isIdentRestFolded c = false) :
    Extract.field prev (name ++ rest) = some (name, rest) := by
  obtain ⟨c, cs, rfl, hstart, hall⟩ := exists_of_isIdent hname
  have hfolded : ∀ d ∈ c :: cs, Gx.isIdentRestFolded d = true := fun d hd => by
    rw [Gx.isIdentRestFolded, hall d hd, Bool.true_or]
  have hboundary : Scan.boundary prev (c :: cs ++ rest) = true :=
    boundary_of_apart hprev (isWord_of_isIdentRest (hall c List.mem_cons_self))
  rw [Extract.field, if_pos hboundary, Extract.ident,
    Tokenizer.takeWhile_append_of_all hfolded hrest, Tokenizer.dropWhile_append_of_all hfolded hrest]
  simp [Gx.isIdentStartFolded, hstart]

omit [PyRuntime] in
theorem lstrip_append {spaces rest : Text} (hspaces : ∀ c ∈ spaces, isSpace c = true)
    (hrest : ∀ c ∈ rest.head?, isSpace c = false) : Text.lstrip (spaces ++ rest) = rest :=
  Tokenizer.dropWhile_append_of_all hspaces hrest

omit [PyRuntime] in
theorem Sign.read_append {op : BoundOp} {rest : Text}
    (hrest : ∀ c ∈ rest.head?, c ≠ '=' ∧ c ≠ '>') :
    Sign.read (Sign.text op ++ rest) = some (Sign.ofOp op, rest) := by
  cases rest with
  | nil => cases op <;> rfl
  | cons c cs =>
    obtain ⟨heq, hgt⟩ := hrest c rfl
    cases op with
    | le => rfl
    | ge => rfl
    | eq => rfl
    | lt =>
      show Sign.read ('<' :: c :: cs) = _
      rw [Sign.read]
      · rfl
      · rintro rest ⟨⟩; exact heq rfl
      · rintro rest ⟨⟩; exact hgt rfl
    | gt =>
      show Sign.read ('>' :: c :: cs) = _
      rw [Sign.read]
      · rfl
      · rintro rest ⟨⟩; exact heq rfl

/-- A number is read again before a text that does not continue it. -/
theorem number_append {digits rest : Text} (h : Tokenizer.number digits = some (digits, []))
    (hrest : ∀ c ∈ rest.head?, Tokenizer.isDigit c = false ∧ c ≠ '.') :
    Tokenizer.number (digits ++ rest) = some (digits, rest) := by
  have hdigit : ∀ c ∈ rest.head?, Tokenizer.isDigit c = false := fun c hc => (hrest c hc).1
  have hpoint : rest.head? ≠ some '.' := fun hc => (hrest '.' hc).2 rfl
  have hunsigned {digits : Text} (h : Tokenizer.unsignedNumber digits = some (digits, [])) :
      Tokenizer.unsignedNumber (digits ++ rest) = some (digits, rest) := by
    obtain ⟨whole, hne, hwhole, rfl | ⟨fraction, hfne, hfraction, rfl⟩⟩ := unsignedNumber_shape h
    · exact Tokenizer.unsignedNumber_whole hne hwhole hdigit hpoint
    · rw [List.append_assoc]
      exact Tokenizer.unsignedNumber_fraction hne hwhole hfne hfraction hdigit
  rw [Tokenizer.number.eq_def] at h
  split at h
  · rename_i cs
    obtain ⟨⟨body, rest'⟩, hbody, heq⟩ := Option.map_eq_some_iff.mp h
    simp only [Prod.mk.injEq, List.cons.injEq, true_and] at heq
    obtain ⟨rfl, rfl⟩ := heq
    rw [List.cons_append, Tokenizer.number, hunsigned hbody]
    rfl
  · rename_i hminus
    rw [Tokenizer.number]
    · exact hunsigned h
    · intro cs hcs
      cases digits with
      | nil => cases h
      | cons c cs' =>
        rw [List.cons_append] at hcs
        exact hminus cs' (by rw [(List.cons.inj hcs).1])

theorem number_head {digits : Text} (h : Tokenizer.number digits = some (digits, [])) :
    ∃ c cs, digits = c :: cs ∧ isSpace c = false ∧ c ≠ '=' ∧ c ≠ '>' := by
  obtain ⟨-, ⟨c, cs, rfl, hc, -⟩, -⟩ := Tokenizer.number_follows h
  refine ⟨c, cs, rfl, ?_⟩
  rw [Tokenizer.isNumberStart, Bool.or_eq_true, beq_iff_eq] at hc
  rcases hc with hc | rfl
  · exact ⟨Tokenizer.isSpace_of_isDigit c hc, ne_of_isDigit hc (by decide) (by decide),
      ne_of_isDigit hc (by decide) (by decide)⟩
  · decide

namespace Comparison

/-- What the pattern finds of a comparison. -/
def entry (c : Comparison) : Text × Sign × Text := (c.field, Sign.ofOp c.op, c.constant)

theorem comparisonPattern_text (c : Comparison) {prev : Option Char} {rest : Text}
    (hprev : Apart prev) (hrest : ∀ d ∈ rest.head?, isGlue d = true) :
    comparisonPattern prev (c.text ++ rest) = some (c.entry, rest) := by
  obtain ⟨d, ds, hconstant, hspace, heq, hgt⟩ := number_head c.constant_number
  have hnumber : Tokenizer.number (c.constant ++ rest) = some (c.constant, rest) := by
    refine number_append c.constant_number fun e he => ?_
    have hglue := hrest e he
    constructor
    · rw [Bool.eq_false_iff]
      intro hdigit
      have hword : Text.isWord e = true := by
        rw [Text.isWord, PyRuntime.digit_isAlnum e, Bool.true_or]
        rw [← Option.isSome_iff_ne_none]
        exact hdigit
      rw [isWord_of_glue hglue] at hword
      cases hword
    · rintro rfl
      exact absurd hglue (by decide)
  have hvalue : Text.lstrip (c.after ++ (c.constant ++ rest)) = c.constant ++ rest :=
    lstrip_append c.after_space (by simpa [hconstant] using hspace)
  have hsign : Sign.read (Sign.text c.op ++ (c.after ++ (c.constant ++ rest))) =
      some (Sign.ofOp c.op, c.after ++ (c.constant ++ rest)) := by
    refine Sign.read_append fun e he => ?_
    cases hafter : c.after with
    | nil =>
      obtain rfl : d = e := by simpa [hafter, hconstant] using he
      exact ⟨heq, hgt⟩
    | cons f fs =>
      obtain rfl : f = e := by simpa [hafter] using he
      have hf := c.after_space f (by rw [hafter]; exact List.mem_cons_self)
      constructor <;> rintro rfl <;> cases hf
  have hsignHead : ∀ e ∈ (Sign.text c.op ++ (c.after ++ (c.constant ++ rest))).head?,
      e ∈ ['<', '>', '='] := by
    intro e he
    cases hop : c.op <;> rw [hop] at he <;> obtain rfl := Option.some.inj he <;> decide
  have hop : Text.lstrip (c.before ++ (Sign.text c.op ++ (c.after ++ (c.constant ++ rest)))) =
      Sign.text c.op ++ (c.after ++ (c.constant ++ rest)) := by
    refine lstrip_append c.before_space fun e he => ?_
    have := hsignHead e he
    simp only [List.mem_cons, List.not_mem_nil, or_false] at this
    rcases this with rfl | rfl | rfl <;> decide
  have hfieldHead : ∀ e ∈
      (c.before ++ (Sign.text c.op ++ (c.after ++ (c.constant ++ rest)))).head?,
      Gx.isIdentRestFolded e = false := by
    intro e he
    apply isIdentRestFolded_eq_false
    cases hbefore : c.before with
    | nil =>
      rw [hbefore, List.nil_append] at he
      exact .inr (hsignHead e he)
    | cons f fs =>
      obtain rfl : f = e := by simpa [hbefore] using he
      have hf := c.before_space f (by rw [hbefore]; exact List.mem_cons_self)
      exact .inl (by rw [isGlue, hf]; rfl)
  have hfield := field_append c.field_ident hprev hfieldHead
  simp only [text, List.append_assoc, comparisonPattern, hfield, hop, hsign, hvalue, hnumber,
    Option.bind_eq_bind, Option.bind_some, entry]

end Comparison

theorem found_comparison (c : Comparison) {prev : Option Char} (hprev : Apart prev) :
    ∃ prev', ∀ rest : Text, (∀ d ∈ rest.head?, isGlue d = true) →
      Scan.found comparisonPattern prev (c.text ++ rest) =
        c.entry :: Scan.found comparisonPattern prev' rest := by
  obtain ⟨d, ds, hfield, -, -⟩ := exists_of_isIdent c.field_ident
  obtain ⟨ds', htext⟩ : ∃ ds', c.text = d :: ds' := ⟨_, by rw [Comparison.text, hfield]; rfl⟩
  refine ⟨(d :: ds').getLast?, fun rest hrest => ?_⟩
  have hmatch := c.comparisonPattern_text hprev hrest
  rw [htext] at hmatch ⊢
  exact Scan.found_match hmatch

omit [PyRuntime] in
theorem Joint.isAlpha_word (joint : Joint) : ∀ c ∈ joint.word, c.isAlpha = true := by
  intro c hc
  have hupper : c.toUpper ∈ "AND".toList := by
    rw [← joint.word_and]
    exact List.mem_map_of_mem hc
  rcases toUpper_cases c with h | h
  · rw [h] at hupper
    have hletters : "AND".toList.all Char.isAlpha = true := rfl
    exact List.all_eq_true.mp hletters c hupper
  · exact h.1

omit [PyRuntime] in
theorem Joint.isIdent_word (joint : Joint) : Text.isIdent joint.word = true := by
  refine Text.isIdent_of_alpha ?_ joint.isAlpha_word
  intro hnil
  have := joint.word_and
  rw [hnil] at this
  cases this

omit [PyRuntime] in
theorem Sign.read_eq_none {t : Text} (h : ∀ c ∈ t.head?, c ∉ ['<', '>', '=', '!']) :
    Sign.read t = none := by
  cases t with
  | nil => rfl
  | cons c cs =>
    have hc := h c rfl
    simp only [List.mem_cons, List.not_mem_nil, or_false, not_or] at hc
    obtain ⟨hlt, hgt, heq, hbang⟩ := hc
    unfold Sign.read
    split <;> simp_all

omit [PyRuntime] in
/-- Behind glue that an identifier follows, no sign stands. -/
theorem Sign.read_glue {glue rest : Text} (hglue : ∀ c ∈ glue, isGlue c = true)
    (hrest : ∀ c ∈ rest.head?, Text.isIdentStart c = true) :
    Sign.read (Text.lstrip (glue ++ rest)) = none := by
  induction glue with
  | nil =>
    cases rest with
    | nil => rfl
    | cons c cs =>
      have hc := hrest c rfl
      have hspace : isSpace c = false :=
        Tokenizer.isSpace_of_isIdentRest c (isIdentRest_of_start hc)
      rw [List.nil_append, Text.lstrip, List.dropWhile_cons_of_neg (by simp [hspace])]
      apply Sign.read_eq_none
      intro d hd hsign
      obtain rfl : c = d := by simpa using hd
      simp only [List.mem_cons, List.not_mem_nil, or_false] at hsign
      rcases hsign with rfl | rfl | rfl | rfl <;> exact absurd hc (by decide)
  | cons c cs ih =>
    have hcs := ih fun d hd => hglue d (List.mem_cons_of_mem _ hd)
    cases hspace : isSpace c with
    | true =>
      rw [List.cons_append, Text.lstrip, List.dropWhile_cons_of_pos hspace]
      exact hcs
    | false =>
      rw [List.cons_append, Text.lstrip, List.dropWhile_cons_of_neg (by simp [hspace])]
      apply Sign.read_eq_none
      intro d hd hsign
      obtain rfl : c = d := by simpa using hd
      have hc := hglue c List.mem_cons_self
      simp only [List.mem_cons, List.not_mem_nil, or_false] at hsign
      rcases hsign with rfl | rfl | rfl | rfl <;> exact absurd hc (by decide)

/-- The word of a joint is passed over: behind its glue no sign follows. -/
theorem found_word (joint : Joint) {prev : Option Char} (hprev : Apart prev) :
    ∃ prev', ∀ rest : Text, (∀ c ∈ rest.head?, Text.isIdentStart c = true) →
      Scan.found comparisonPattern prev (joint.word ++ (joint.after ++ rest)) =
        Scan.found comparisonPattern prev' (joint.after ++ rest) := by
  obtain ⟨c, cs, hword, -, hall⟩ := exists_of_isIdent joint.isIdent_word
  have hinside : ∀ d ∈ c :: cs, Text.isWord d = true := fun d hd => isWord_of_isIdentRest (hall d hd)
  obtain ⟨prev', hfound⟩ := found_inside (fun d hd => hinside d (List.mem_cons_of_mem _ hd))
    (hinside c List.mem_cons_self)
  refine ⟨prev', fun rest hrest => ?_⟩
  have hafter : ∀ d ∈ (joint.after ++ rest).head?, isGlue d = true := by
    intro d hd
    obtain ⟨e, es, he⟩ := List.exists_cons_of_ne_nil joint.after_ne
    obtain rfl : e = d := by simpa [he] using hd
    exact joint.after_glue e (by rw [he]; exact List.mem_cons_self)
  have hfield : Extract.field prev (joint.word ++ (joint.after ++ rest)) =
      some (joint.word, joint.after ++ rest) :=
    field_append joint.isIdent_word hprev fun d hd =>
      isIdentRestFolded_eq_false (.inl (hafter d hd))
  have hread := Sign.read_glue joint.after_glue hrest
  have hnone : comparisonPattern prev (joint.word ++ (joint.after ++ rest)) = none := by
    simp [comparisonPattern, hfield, hread]
  rw [hword] at hnone ⊢
  rw [List.cons_append] at hnone ⊢
  rw [Scan.found_none hnone, hfound]

/-- Glue, or nothing, follows a comparison. -/
theorem head_restText (rest : List (Joint × Comparison)) {tail : Text}
    (htail : ∀ c ∈ tail, isGlue c = true) :
    ∀ c ∈ (restText rest ++ tail).head?, isGlue c = true := by
  intro d hd
  cases rest with
  | nil =>
    cases tail with
    | nil => cases hd
    | cons e es =>
      obtain rfl : e = d := by simpa [restText] using hd
      exact htail e List.mem_cons_self
  | cons item rest =>
    obtain ⟨e, es, hbefore⟩ := List.exists_cons_of_ne_nil item.1.before_ne
    obtain rfl : e = d := by simpa [restText, hbefore] using hd
    exact item.1.before_glue e (by rw [hbefore]; exact List.mem_cons_self)

/-- The scan finds every comparison behind the first one. -/
theorem found_rest (rest : List (Joint × Comparison)) {tail : Text}
    (htail : ∀ c ∈ tail, isGlue c = true) (prev : Option Char) :
    Scan.found comparisonPattern prev (restText rest ++ tail) =
      rest.map fun item => item.2.entry := by
  induction rest generalizing prev with
  | nil =>
    obtain ⟨prev', -, hfound⟩ := found_glue htail prev
    have := hfound []
    rw [List.append_nil, Scan.found_nil] at this
    exact this
  | cons item rest ih =>
    obtain ⟨joint, c⟩ := item
    obtain ⟨prev₁, hapart₁, hbefore⟩ := found_glue joint.before_glue prev
    obtain ⟨prev₂, hword⟩ := found_word joint (hapart₁ (.inl joint.before_ne))
    obtain ⟨prev₃, hapart₃, hafter⟩ := found_glue joint.after_glue prev₂
    obtain ⟨prev₄, hcomparison⟩ := found_comparison c (hapart₃ (.inl joint.after_ne))
    have hhead : ∀ d ∈ (c.text ++ (restText rest ++ tail)).head?, Text.isIdentStart d = true := by
      intro d hd
      obtain ⟨e, es, hfield, hstart, -⟩ := exists_of_isIdent c.field_ident
      obtain rfl : e = d := by simpa [Comparison.text, hfield] using hd
      exact hstart
    simp only [restText, List.append_assoc, List.map_cons]
    rw [hbefore, hword _ hhead, hafter, hcomparison _ (head_restText rest htail), ih]

theorem found_text (a : Conjunction) :
    Scan.found comparisonPattern none a.text = a.comparisons.map Comparison.entry := by
  obtain ⟨prev, hapart, hlead⟩ := found_glue a.lead_glue none
  obtain ⟨prev', hfirst⟩ := found_comparison a.first (hapart (.inr rfl))
  rw [Conjunction.text, hlead, hfirst _ (head_restText a.rest a.tail_glue), found_rest a.rest a.tail_glue]
  simp [Conjunction.comparisons]

/-- What the extraction makes of a bound. -/
def predicateOf (b : Text × Bound ℚ) : Text × Sign × PyFloat :=
  (b.1, Sign.ofOp b.2.op, PyRuntime.roundFloat b.2.value)

theorem scalarPredicates_text (a : Conjunction) :
    scalarPredicates a.text = a.bounds.map predicateOf := by
  have hentry (c : Comparison) : scalarPredicate c.entry = some (predicateOf c.bound) := by
    simp [scalarPredicate, Comparison.entry, c.constant_value, predicateOf, Comparison.bound]
  have hcomp : scalarPredicate ∘ Comparison.entry = some ∘ (predicateOf ∘ Comparison.bound) :=
    funext hentry
  rw [scalarPredicates, found_text, List.filterMap_map, hcomp, List.filterMap_eq_map,
    Conjunction.bounds, List.map_map]

/-! ### The flag and the meaning -/

/-- Two comparisons of one field, one of each conjunction, exclude each other. -/
def Clash (a b : Conjunction) : Prop :=
  ∃ c ∈ a.bounds, ∃ d ∈ b.bounds, c.1 = d.1 ∧ Bound.Excludes c.2 d.2

/-- Two such comparisons, none of which is an equality. -/
def BoundClash (a b : Conjunction) : Prop :=
  ∃ c ∈ a.bounds, ∃ d ∈ b.bounds, c.1 = d.1 ∧ Bound.Excludes c.2 d.2 ∧
    c.2.op ≠ .eq ∧ d.2.op ≠ .eq

/-- Two such comparisons, of which one is an equality. -/
def EqualityClash (a b : Conjunction) : Prop :=
  ∃ c ∈ a.bounds, ∃ d ∈ b.bounds, c.1 = d.1 ∧ Bound.Excludes c.2 d.2 ∧
    (c.2.op = .eq ∨ d.2.op = .eq)

/-- A bound with `>` or `>=` and one with `<` or `<=`, of a field that both conjunctions compare
and in either of them. -/
def Facing (a b : Conjunction) (lower upper : Text × Bound ℚ) : Prop :=
  lower ∈ a.bounds ++ b.bounds ∧ upper ∈ a.bounds ++ b.bounds ∧ lower.1 = upper.1 ∧
    (∃ c ∈ a.bounds, c.1 = lower.1) ∧ (∃ d ∈ b.bounds, d.1 = lower.1) ∧
      (lower.2.op = .gt ∨ lower.2.op = .ge) ∧ (upper.2.op = .lt ∨ upper.2.op = .le)

/-- The constant of a lower bound is, as a float, no less than the one of an upper bound. -/
def Meets (a b : Conjunction) : Prop :=
  ∃ lower upper, Facing a b lower upper ∧
    (PyRuntime.roundFloat upper.2.value).le (PyRuntime.roundFloat lower.2.value) = true

/-- The constants of a lower and an upper bound are in order, and are the same as floats. -/
def Touches (a b : Conjunction) : Prop :=
  ∃ lower upper, Facing a b lower upper ∧ lower.2.value ≤ upper.2.value ∧
    (PyRuntime.roundFloat upper.2.value).le (PyRuntime.roundFloat lower.2.value) = true

variable {a b : Conjunction}

theorem clash_iff : Clash a b ↔ BoundClash a b ∨ EqualityClash a b := by
  constructor
  · rintro ⟨c, hc, d, hd, hfield, hexcludes⟩
    by_cases heq : c.2.op = .eq ∨ d.2.op = .eq
    · exact .inr ⟨c, hc, d, hd, hfield, hexcludes, heq⟩
    · exact .inl ⟨c, hc, d, hd, hfield, hexcludes, not_or.mp heq⟩
  · rintro (⟨c, hc, d, hd, hfield, hexcludes, -⟩ | ⟨c, hc, d, hd, hfield, hexcludes, -⟩)
    · exact ⟨c, hc, d, hd, hfield, hexcludes⟩
    · exact ⟨c, hc, d, hd, hfield, hexcludes⟩

/-- In one satisfiable conjunction no bound exceeds another one of its field. -/
theorem not_excludes_within (ha : ∃ values, a.Satisfied values) :
    ∀ c ∈ a.bounds, ∀ d ∈ a.bounds, c.1 = d.1 → ¬ Bound.Excludes c.2 d.2 :=
  (Bound.exists_satisfies_iff a.bounds).mp ha

/-- Two conjunctions that are each satisfiable cannot hold together exactly when they clash. -/
theorem not_exists_satisfied_iff (ha : ∃ values, a.Satisfied values)
    (hb : ∃ values, b.Satisfied values) :
    (¬ ∃ values, a.Satisfied values ∧ b.Satisfied values) ↔ Clash a b := by
  have hboth : (∃ values, a.Satisfied values ∧ b.Satisfied values) ↔
      ∃ values : Text → ℚ, ∀ c ∈ a.bounds ++ b.bounds, Bound.Satisfies values c := by
    simp only [Conjunction.Satisfied, List.forall_mem_append]
  rw [hboth, Bound.exists_satisfies_iff]
  constructor
  · intro h
    by_contra hclash
    apply h
    have hcross : ∀ c ∈ a.bounds, ∀ d ∈ b.bounds, c.1 = d.1 → ¬ Bound.Excludes c.2 d.2 :=
      fun c hc d hd heq hexcludes => hclash ⟨c, hc, d, hd, heq, hexcludes⟩
    intro c hc d hd heq
    rcases List.mem_append.mp hc with hc | hc
    · rcases List.mem_append.mp hd with hd | hd
      · exact not_excludes_within ha c hc d hd heq
      · exact hcross c hc d hd heq
    · rcases List.mem_append.mp hd with hd | hd
      · exact fun hexcludes => hcross d hd c hc heq.symm hexcludes.symm
      · exact not_excludes_within hb c hc d hd heq
  · rintro ⟨c, hc, d, hd, heq, hexcludes⟩ h
    exact h c (List.mem_append_left _ hc) d (List.mem_append_right _ hd) heq hexcludes

omit [PyRuntime] in
theorem Sign.isLower_ofOp {op : BoundOp} :
    (Sign.ofOp op).isLower = true ↔ op = .gt ∨ op = .ge := by
  cases op <;> decide

omit [PyRuntime] in
theorem Sign.isUpper_ofOp {op : BoundOp} :
    (Sign.ofOp op).isUpper = true ↔ op = .lt ∨ op = .le := by
  cases op <;> decide

/-- The flag is raised exactly when the bounds meet. -/
theorem hasContradictoryPredicates_text_iff [RoundsMonotonically] (a b : Conjunction) :
    hasContradictoryPredicates a.text b.text = true ↔ Meets a b := by
  have hmem {a : Conjunction} {field : Text} :
      (∃ op, (field, op) ∈ a.bounds.map predicateOf) ↔ ∃ c ∈ a.bounds, c.1 = field := by
    constructor
    · rintro ⟨op, hop⟩
      obtain ⟨c, hc, heq⟩ := List.mem_map.mp hop
      exact ⟨c, hc, congrArg Prod.fst heq⟩
    · rintro ⟨c, hc, rfl⟩
      exact ⟨(predicateOf c).2, List.mem_map.mpr ⟨c, hc, rfl⟩⟩
  rw [hasContradictoryPredicates_iff, scalarPredicates_text, scalarPredicates_text]
  rw [← List.map_append]
  constructor
  · rintro ⟨field, ha, hb, lower, upper, hlower, hupper, hisLower, hisUpper, hle⟩
    obtain ⟨c, hc, hceq⟩ := List.mem_map.mp hlower
    obtain ⟨d, hd, hdeq⟩ := List.mem_map.mp hupper
    obtain ⟨rfl, rfl⟩ := Prod.mk.injEq .. ▸ hceq
    obtain ⟨hdfield, rfl⟩ := Prod.mk.injEq .. ▸ hdeq
    exact ⟨c, d, ⟨hc, hd, hdfield.symm, hmem.mp ha, hmem.mp hb, Sign.isLower_ofOp.mp hisLower,
      Sign.isUpper_ofOp.mp hisUpper⟩, hle⟩
  · rintro ⟨c, d, ⟨hc, hd, hfield, ha, hb, hisLower, hisUpper⟩, hle⟩
    refine ⟨c.1, hmem.mpr ha, hmem.mpr hb, (predicateOf c).2, (predicateOf d).2,
      List.mem_map.mpr ⟨c, hc, rfl⟩, List.mem_map.mpr ⟨d, hd, ?_⟩, Sign.isLower_ofOp.mpr hisLower,
      Sign.isUpper_ofOp.mpr hisUpper, hle⟩
    rw [hfield]
    rfl

omit [PyRuntime] in
theorem facing_of_exceeds {x y : Bound ℚ} (hx : x.op ≠ .eq) (hy : y.op ≠ .eq)
    (h : Bound.Exceeds x y) :
    (x.op = .gt ∨ x.op = .ge) ∧ (y.op = .lt ∨ y.op = .le) ∧ y.value ≤ x.value := by
  obtain ⟨hlower, hupper, hvalues⟩ := h
  have hle : y.value ≤ x.value := hvalues.elim le_of_lt fun h => le_of_eq h.1
  simp only [Bound.isLower, Bound.isUpper, decide_eq_true_eq] at hlower hupper
  tauto

theorem BoundClash.meets [RoundsMonotonically] (h : BoundClash a b) :
    Meets a b := by
  obtain ⟨c, hc, d, hd, hfield, hexcludes, hceq, hdeq⟩ := h
  have hca := List.mem_append_left b.bounds hc
  have hdb := List.mem_append_right a.bounds hd
  rcases hexcludes with h | h
  · obtain ⟨hisLower, hisUpper, hle⟩ := facing_of_exceeds hceq hdeq h
    exact ⟨c, d, ⟨hca, hdb, hfield, ⟨c, hc, rfl⟩, ⟨d, hd, hfield.symm⟩, hisLower, hisUpper⟩,
      RoundsMonotonically.round_le hle⟩
  · obtain ⟨hisLower, hisUpper, hle⟩ := facing_of_exceeds hdeq hceq h
    exact ⟨d, c, ⟨hdb, hca, hfield.symm, ⟨c, hc, hfield⟩, ⟨d, hd, rfl⟩, hisLower, hisUpper⟩,
      RoundsMonotonically.round_le hle⟩

/-- Bounds of satisfiable conjunctions meet when they exclude each other or touch. -/
theorem meets_iff [RoundsMonotonically] (ha : ∃ values, a.Satisfied values)
    (hb : ∃ values, b.Satisfied values) : Meets a b ↔ BoundClash a b ∨ Touches a b := by
  constructor
  · rintro ⟨lower, upper, hfacing, hle⟩
    by_cases hvalues : lower.2.value ≤ upper.2.value
    · exact .inr ⟨lower, upper, hfacing, hvalues, hle⟩
    · obtain ⟨hlower, hupper, hfield, -, -, hisLower, hisUpper⟩ := hfacing
      have hexceeds : Bound.Exceeds lower.2 upper.2 := by
        refine ⟨?_, ?_, .inl (lt_of_not_ge hvalues)⟩
        · rcases hisLower with h | h <;> rw [h] <;> rfl
        · rcases hisUpper with h | h <;> rw [h] <;> rfl
      have hlowerNe : lower.2.op ≠ .eq := by rcases hisLower with h | h <;> rw [h] <;> nofun
      have hupperNe : upper.2.op ≠ .eq := by rcases hisUpper with h | h <;> rw [h] <;> nofun
      refine .inl ?_
      rcases List.mem_append.mp hlower with hlower | hlower
      · rcases List.mem_append.mp hupper with hupper | hupper
        · exact absurd (.inl hexceeds) (not_excludes_within ha lower hlower upper hupper hfield)
        · exact ⟨lower, hlower, upper, hupper, hfield, .inl hexceeds, hlowerNe, hupperNe⟩
      · rcases List.mem_append.mp hupper with hupper | hupper
        · exact ⟨upper, hupper, lower, hlower, hfield.symm, .inr hexceeds, hupperNe, hlowerNe⟩
        · exact absurd (.inl hexceeds) (not_excludes_within hb lower hlower upper hupper hfield)
  · rintro (h | ⟨lower, upper, hfacing, -, hle⟩)
    · exact h.meets
    · exact ⟨lower, upper, hfacing, hle⟩

/-- When the flag tells whether two satisfiable conjunctions exclude each other, and that the
order of rules with distinct ids does not change what is reported of them. -/
theorem flag_decides_iff [RoundsMonotonically] :
    (∀ a b : Conjunction, (∃ values, a.Satisfied values) → (∃ values, b.Satisfied values) →
      ((hasContradictoryPredicates a.text b.text = true ↔
          ¬ ∃ values, a.Satisfied values ∧ b.Satisfied values) ↔
        BoundClash a b ∨ (Touches a b ↔ EqualityClash a b))) ∧
    ∀ rules rules' : List RuleSummary, (rules.map RuleSummary.id).Nodup → rules.Perm rules' →
      ((detectConflicts rules).map report).Perm ((detectConflicts rules').map report) := by
  refine ⟨fun a b ha hb => ?_, fun rules rules' => report_detectConflicts_perm⟩
  rw [hasContradictoryPredicates_text_iff, meets_iff ha hb, not_exists_satisfied_iff ha hb, clash_iff]
  tauto

end Conjunctions

section Samples

local instance sampleRuntimeConflicts : PyRuntime := PyRuntime.ascii .finite fun _ => []

local instance sampleRounding : RoundsMonotonically where
  round_le {p q} h := by
    show (PyFloat.finite p).le (.finite q) = true
    rcases lt_or_eq_of_le h with hlt | rfl
    · exact PyFloat.le_of_lt (decide_eq_true hlt)
    · exact PyFloat.le_refl nofun

/-- A comparison of the price with five. -/
def samplePrice (op : BoundOp) : Comparison where
  field := "price"
  before := [' ']
  op := op
  after := [' ']
  constant := ['5']
  value := 5
  field_ident := rfl
  before_space := List.forall_mem_singleton.mpr rfl
  after_space := List.forall_mem_singleton.mpr rfl
  constant_number := by decide +kernel
  constant_value := by decide +kernel

/-- The comparison alone. -/
def samplePriceOnly (op : BoundOp) : Conjunction := ⟨[], samplePrice op, [], [], nofun, nofun⟩

theorem samplePriceOnly_satisfied {values : Text → ℚ} {op : BoundOp}
    (h : Bound.Satisfies values (samplePrice op).bound) :
    (samplePriceOnly op).Satisfied values := by
  intro b hb
  obtain rfl := List.mem_singleton.mp hb
  exact h

/-- A price that is at least five can be at most five as well, and is reported as contradictory. -/
theorem contradiction_overreported :
    ¬ ∀ a b : Conjunction, (∃ values, a.Satisfied values) → (∃ values, b.Satisfied values) →
      (hasContradictoryPredicates a.text b.text = true ↔
        ¬ ∃ values, a.Satisfied values ∧ b.Satisfied values) := by
  intro h
  have hge : (samplePriceOnly .ge).Satisfied fun _ => 5 :=
    samplePriceOnly_satisfied (le_refl (5 : ℚ))
  have hle : (samplePriceOnly .le).Satisfied fun _ => 5 :=
    samplePriceOnly_satisfied (le_refl (5 : ℚ))
  have hflag : hasContradictoryPredicates (samplePriceOnly .ge).text (samplePriceOnly .le).text =
      true := by decide +kernel
  exact (h _ _ ⟨_, hge⟩ ⟨_, hle⟩).mp hflag ⟨_, hge, hle⟩

theorem flag_decides_price :
    (hasContradictoryPredicates (samplePriceOnly .gt).text (samplePriceOnly .lt).text = true ↔
        ¬ ∃ values, (samplePriceOnly .gt).Satisfied values ∧
          (samplePriceOnly .lt).Satisfied values) ∧
      ((detectConflicts [⟨some ['a'], none, some "x > 5"⟩,
        ⟨some ['b'], none, some "x < 3"⟩]).map report).Perm
      ((detectConflicts [⟨some ['b'], none, some "x < 3"⟩,
        ⟨some ['a'], none, some "x > 5"⟩]).map report) := by
  have hgt : (samplePriceOnly .gt).Satisfied fun _ => 6 :=
    samplePriceOnly_satisfied (show (5 : ℚ) < 6 by norm_num)
  have hlt : (samplePriceOnly .lt).Satisfied fun _ => 4 :=
    samplePriceOnly_satisfied (show (4 : ℚ) < 5 by norm_num)
  refine ⟨(flag_decides_iff.1 _ _ ⟨_, hgt⟩ ⟨_, hlt⟩).mpr (.inl ?_),
    flag_decides_iff.2 _ _ (by decide +kernel) (.swap _ _ _)⟩
  exact ⟨(samplePrice .gt).bound, List.mem_singleton.mpr rfl, (samplePrice .lt).bound,
    List.mem_singleton.mpr rfl, rfl, .inl ⟨rfl, rfl, .inr ⟨rfl, .inl rfl⟩⟩, nofun, nofun⟩

end Samples

end Conflicts

end DqMadeEasy
