import DqMadeEasy.Compiler.Literals
import DqMadeEasy.Text.Dividers
import DqMadeEasy.Semantics.Check

/-!
# Operands read back from a flat text

The operands of a list or a range are decoded in two ways: one by one from the tree, and together
from the flat text that joins them. The flat text of a list is cut at the commas that a scan finds
outside quotes; the scan takes a backslash before a quote for no escape. That of a range is cut at
its first ` AND `, inside quotes or not. The two ways agree exactly when no operand misleads the
cut.
-/

namespace DqMadeEasy

namespace Text

/-! ### Counting through replacements -/

/-- A replacement by a text with as many counted characters leaves their number. -/
theorem countP_replaceFrom {p : Char → Bool} {old new : Text} (hne : old ≠ [])
    (hcount : new.countP p = old.countP p) (skip : ℕ) (t : Text) :
    (replaceFrom old new skip t).countP p = (t.drop skip).countP p := by
  induction t generalizing skip with
  | nil => cases skip <;> simp [replaceFrom]
  | cons c cs ih =>
    cases skip with
    | succ skip => exact ih skip
    | zero =>
      rw [replaceFrom, List.drop_zero]
      split
      · rename_i hleading
        obtain ⟨rest, hrest⟩ := List.isPrefixOf_iff_prefix.mp hleading
        have hdrop : cs.drop (old.length - 1) = rest := by
          cases old with
          | nil => contradiction
          | cons o os =>
            have htail : cs = os ++ rest := (List.cons.inj hrest).2.symm
            simp [htail]
        rw [List.countP_append, ih, hdrop, hcount, ← List.countP_append, hrest]
      · rw [List.countP_cons, List.countP_cons, ih, List.drop_zero]

theorem countP_replace {p : Char → Bool} {old new : Text} (hne : old ≠ [])
    (hcount : new.countP p = old.countP p) (t : Text) : (replace old new t).countP p = t.countP p :=
  countP_replaceFrom hne hcount 0 t

/-- Stripping leaves the number of characters that are no white space. -/
theorem countP_strip_le (p : Char → Bool) (t : Text) : (strip t).countP p ≤ t.countP p := by
  have hleading : strip t <+: t.dropWhile isSpace := List.rdropWhile_prefix isSpace _
  have hsuffix : t.dropWhile isSpace <:+ t := List.dropWhile_suffix isSpace
  exact (hleading.sublist.trans hsuffix.sublist).countP_le

/-- Stripping leaves a class of characters that are no white space. -/
theorem countP_strip {p : Char → Bool} (hp : ∀ c, p c = true → isSpace c = false) (t : Text) :
    (strip t).countP p = t.countP p := by
  have hspaces : ∀ u : Text, (∀ c ∈ u, isSpace c = true) → u.countP p = 0 := by
    intro u hu
    rw [List.countP_eq_zero]
    intro c hc hpc
    have := hp c hpc
    rw [hu c hc] at this
    cases this
  have hleft := congrArg (List.countP p) (List.takeWhile_append_dropWhile (p := isSpace) (l := t))
  rw [List.countP_append, hspaces _ fun c hc => List.mem_takeWhile_imp hc, Nat.zero_add] at hleft
  rw [← hleft, strip, List.rdropWhile]
  have hright := congrArg (List.countP p)
    (List.takeWhile_append_dropWhile (p := isSpace) (l := (t.dropWhile isSpace).reverse))
  rw [List.countP_append, hspaces _ fun c hc => List.mem_takeWhile_imp hc, Nat.zero_add] at hright
  rw [List.countP_reverse, hright, List.countP_reverse]

theorem strip_append_of_spaces {b t : Text} (hb : ∀ c ∈ b, isSpace c = true) :
    strip (b ++ t) = strip t := by
  rw [strip, strip, List.dropWhile_append_of_pos hb]

end Text

namespace Gx

section Decoding

variable [PyRuntime]

/-! ### What a literal keeps of its text -/

/-- A class of characters that no literal consumes: no quotes and backslashes, no letters, and
nothing of a number. -/
structure Inert (p : Char → Bool) : Prop where
  quotes : p '\'' = false ∧ p '"' = false ∧ p '\\' = false
  letters : ∀ c, p c = true → c.isAlpha = false ∧ Text.foldExtra c = none
  numbers : ∀ c, p c = true → isNumeric c = false

/-- The characters of a class in a value. -/
def valueCount (p : Char → Bool) : PyValue → ℕ
  | .str t => t.countP p
  | _ => 0

theorem isNumeric_of_ascii {c : Char} (hascii : c.toNat < 128) (hdigit : c.isDigit = false)
    (hminus : c ≠ '-') (hpoint : c ≠ '.') : isNumeric c = false := by
  simp [isNumeric, Tokenizer.isDigit, PyRuntime.digit_ascii c hascii, hdigit, hminus, hpoint]

theorem inert_comma : Inert (· == ',') where
  quotes := by decide
  letters := by
    intro c hc
    rw [beq_iff_eq] at hc
    subst hc
    decide
  numbers := by
    intro c hc
    rw [beq_iff_eq] at hc
    subst hc
    exact isNumeric_of_ascii (by decide) (by decide) (by decide) (by decide)

theorem inert_space : Inert isSpace where
  quotes := by decide
  letters := by
    intro c hc
    constructor
    · by_contra halpha
      rw [Bool.not_eq_false] at halpha
      have hstart : Text.isIdentStart c = true := by simp [Text.isIdentStart, halpha]
      have hrange := Tokenizer.isIdentStart_toNat hstart
      rw [isSpace_eq_false_of_range (by omega) (by omega)] at hc
      cases hc
    · cases hfold : Text.foldExtra c with
      | none => rfl
      | some l =>
        simp only [isSpace, Bool.or_eq_true, Bool.and_eq_true, decide_eq_true_eq, beq_iff_eq] at hc
        simp only [Text.foldExtra] at hfold
        split at hfold
        · omega
        split at hfold
        · omega
        split at hfold
        · omega
        · cases hfold
  numbers := by
    intro c hc
    by_contra hnumeric
    rw [Bool.not_eq_false] at hnumeric
    simp only [isNumeric, Bool.or_eq_true, beq_iff_eq] at hnumeric
    rcases hnumeric with (h | rfl) | rfl
    · rw [(Tokenizer.isDigit_start h).1] at hc
      cases hc
    · cases hc
    · cases hc

/-! ### The value of a literal -/

variable {p : Char → Bool} {t : Text}

/-- No character of an inert class is the spelling of a capital. -/
theorem Inert.toUpper (hp : Inert p) {c : Char} (hc : p c = true) :
    c.toUpper.isUpper = false := by
  obtain ⟨halpha, -⟩ := hp.letters c hc
  rcases toUpper_cases c with hsame | ⟨hletter, -⟩
  · rw [hsame]
    exact (Bool.or_eq_false_iff.mp halpha).1
  · rw [hletter] at halpha
    cases halpha

theorem Inert.matchesLetter (hp : Inert p) {w c : Char} (hw : w.isUpper = true)
    (h : Text.matchesLetter w c = true) : p c = false := by
  by_contra hc
  rw [Bool.not_eq_false] at hc
  rw [Text.matchesLetter, (hp.letters c hc).2] at h
  have hupper : c.toUpper = w := by simpa using h
  rw [← hupper, hp.toUpper hc] at hw
  cases hw

theorem Inert.countP_dropWord (hp : Inert p) {word : Text} (hword : word.all Char.isUpper = true)
    (h : Text.dropWord word t = some []) :
    t.countP p = 0 := by
  induction word generalizing t with
  | nil =>
    cases h
    rfl
  | cons w ws ih =>
    cases t with
    | nil => rfl
    | cons c cs =>
      simp only [List.all_cons, Bool.and_eq_true] at hword
      rw [Text.dropWord] at h
      split at h
      · rename_i hc
        rw [List.countP_cons_of_neg (by simp [hp.matchesLetter hword.1 hc]), ih hword.2 h]
      · cases h

theorem Inert.countP_toUpper (hp : Inert p) {word : Text} (hword : word.all Char.isUpper = true)
    (h : t.map Char.toUpper = word) : t.countP p = 0 := by
  rw [List.countP_eq_zero]
  intro c hc hpc
  have hmem : c.toUpper ∈ word := h ▸ List.mem_map_of_mem hc
  have hupper := List.all_eq_true.mp hword _ hmem
  rw [hp.toUpper hpc] at hupper
  cases hupper

theorem Inert.countP_numeric (hp : Inert p) (h : ∀ c ∈ t, isNumeric c = true) : t.countP p = 0 := by
  rw [List.countP_eq_zero]
  intro c hc hpc
  have hnumeric := h c hc
  rw [hp.numbers c hpc] at hnumeric
  cases hnumeric

omit [PyRuntime] in
theorem countP_inner {q : Char} (hq : p q = false) (hlength : 2 ≤ t.length)
    (hhead : t.head? = some q) (hlast : t.getLast? = some q) :
    t.inner.countP p = t.countP p := by
  cases t with
  | nil => cases hhead
  | cons c cs =>
    cases hhead
    rcases List.eq_nil_or_concat cs with rfl | ⟨body, d, rfl⟩
    · simp at hlength
    · rw [List.concat_eq_append] at hlast ⊢
      rw [← List.cons_append, List.getLast?_append] at hlast
      have hd : d = q := by simpa using hlast
      rw [Text.inner_wrap]
      simp [hq, hd]

/-- Unquoting leaves the characters of an inert class. -/
theorem Inert.countP_stripSqlStringQuotes (hp : Inert p) (t : Text) :
    (stripSqlStringQuotes t).countP p = t.strip.countP p := by
  obtain ⟨hsingle, hdouble, hback⟩ := hp.quotes
  rw [stripSqlStringQuotes]
  split
  · rename_i h
    rw [Text.countP_replace (by simp) (by simp [hsingle])]
    exact countP_inner hsingle h.1 h.2.1 h.2.2
  · split
    · rename_i h
      rw [Text.countP_replace (by simp) (by simp [hback]),
        Text.countP_replace (by simp) (by simp [hback, hdouble])]
      exact countP_inner hdouble h.1 h.2.1 h.2.2
    · rfl

/-- A literal keeps the characters of an inert class. -/
theorem Inert.valueCount (hp : Inert p) {value : PyValue} (h : parseSqlLiteral t = .ok value) :
    valueCount p value = t.strip.countP p := by
  rw [parseSqlLiteral, parseStrippedLiteral] at h
  split at h
  · cases h
  split at h
  · rename_i hword
    have hdrop : Text.dropWord "TRUE" t.strip = some [] := by
      simpa [Text.matchesWord] using hword
    cases h
    exact (hp.countP_dropWord (by decide) hdrop).symm
  split at h
  · rename_i hword
    have hdrop : Text.dropWord "FALSE" t.strip = some [] := by
      simpa [Text.matchesWord] using hword
    cases h
    exact (hp.countP_dropWord (by decide) hdrop).symm
  split at h
  · rename_i n hn
    cases h
    exact (hp.countP_numeric (numeric_of_intValue hn)).symm
  split at h
  · rename_i q hq
    cases h
    exact (hp.countP_numeric (numeric_of_decimalValue hq)).symm
  split at h
  · rename_i hnull
    cases h
    exact (hp.countP_toUpper (by decide) hnull).symm
  split at h
  · cases h
    have hcount := hp.countP_stripSqlStringQuotes t.strip
    rwa [Text.strip_strip] at hcount
  · cases h

/-! ### Cutting a list -/

/-- What the scan of a list has come to after a text: the open quote and the depth, or nothing
when it has cut inside the text. -/
def scanEnd (quote : Option Char) (depth : ℤ) : Text → Option (Option Char × ℤ)
  | [] => some (quote, depth)
  | c :: cs =>
    match quote with
    | some q =>
      if c = q then
        match cs with
        | d :: ds =>
          if q = '\'' ∧ d = '\'' then scanEnd (some q) depth ds
          else scanEnd none depth (d :: ds)
        | [] => some (none, depth)
      else scanEnd (some q) depth cs
    | none =>
      if c = '\'' ∨ c = '"' then scanEnd (some c) depth cs
      else if c = '(' then scanEnd none (depth + 1) cs
      else if c = ')' then scanEnd none (depth - 1) cs
      else if c = ',' ∧ depth = 0 then none
      else scanEnd none depth cs

section Scan

omit [PyRuntime]

variable {quote : Option Char} {q c : Char} {depth : ℤ} {buffer cs : Text}

/-- One character of the scan. -/
theorem splitItems_cons (quote : Option Char) (depth : ℤ) (buffer : Text) (c : Char) (cs : Text) :
    splitItems quote depth buffer (c :: cs) =
      match quote with
      | some q =>
        if c = q then
          match cs with
          | d :: ds =>
            if q = '\'' ∧ d = '\'' then splitItems (some q) depth (buffer ++ [c, d]) ds
            else splitItems none depth (buffer ++ [c]) (d :: ds)
          | [] => splitItems none depth (buffer ++ [c]) []
        else splitItems (some q) depth (buffer ++ [c]) cs
      | none =>
        if c = '\'' ∨ c = '"' then splitItems (some c) depth (buffer ++ [c]) cs
        else if c = '(' then splitItems none (depth + 1) (buffer ++ [c]) cs
        else if c = ')' then splitItems none (depth - 1) (buffer ++ [c]) cs
        else if c = ',' ∧ depth = 0 then flushItem buffer ++ splitItems none depth [] cs
        else splitItems none depth (buffer ++ [c]) cs := by
  rewrite [splitItems.eq_def]
  rfl

theorem splitItems_pair : splitItems (some '\'') depth buffer ('\'' :: '\'' :: cs) =
    splitItems (some '\'') depth (buffer ++ ['\'', '\'']) cs := by
  simp only [splitItems_cons, if_true, and_self]

theorem splitItems_close (h : ¬(q = '\'' ∧ cs.head? = some '\'')) :
    splitItems (some q) depth buffer (q :: cs) = splitItems none depth (buffer ++ [q]) cs := by
  rw [splitItems_cons]
  cases cs with
  | nil => simp only [if_true]
  | cons d ds =>
    simp only [if_true]
    rw [if_neg]
    simpa using h

theorem splitItems_inside (h : c ≠ q) : splitItems (some q) depth buffer (c :: cs) =
    splitItems (some q) depth (buffer ++ [c]) cs := by
  rw [splitItems_cons]
  exact if_neg h

theorem splitItems_open (h : c = '\'' ∨ c = '"') : splitItems none depth buffer (c :: cs) =
    splitItems (some c) depth (buffer ++ [c]) cs := by
  rw [splitItems_cons]
  exact if_pos h

theorem splitItems_lparen : splitItems none depth buffer ('(' :: cs) =
    splitItems none (depth + 1) (buffer ++ ['(']) cs := rfl

theorem splitItems_rparen : splitItems none depth buffer (')' :: cs) =
    splitItems none (depth - 1) (buffer ++ [')']) cs := rfl

theorem splitItems_cut : splitItems none 0 buffer (',' :: cs) =
    flushItem buffer ++ splitItems none 0 [] cs := rfl

theorem splitItems_plain (hquote : ¬(c = '\'' ∨ c = '"')) (hopen : c ≠ '(') (hclose : c ≠ ')')
    (hcut : ¬(c = ',' ∧ depth = 0)) :
    splitItems none depth buffer (c :: cs) = splitItems none depth (buffer ++ [c]) cs := by
  rw [splitItems_cons]
  simp only [if_neg hquote, if_neg hopen, if_neg hclose, if_neg hcut]

/-- What the end of a scan says of a split: it goes on there, unless a quote at the end of the text
is followed by another, and the open quote is never a comma. -/
structure Reaches (quote : Option Char) (depth : ℤ) (t : Text) (quote' : Option Char) (depth' : ℤ) :
    Prop where
  append : ∀ {rest : Text} (buffer : Text), rest.head? ≠ some '\'' →
    splitItems quote depth buffer (t ++ rest) = splitItems quote' depth' (buffer ++ t) rest
  quote : quote ≠ some ',' → quote' ≠ some ','

def CutsInside (quote : Option Char) (depth : ℤ) (t : Text) : Prop :=
  ∃ before after, t = before ++ ',' :: after ∧ scanEnd quote depth before = some (none, 0)

theorem scanEnd_spec (quote : Option Char) (depth : ℤ) (t : Text) :
    (∀ quote' depth', scanEnd quote depth t = some (quote', depth') →
      Reaches quote depth t quote' depth') ∧
    (scanEnd quote depth t = none → CutsInside quote depth t) := by
  fun_induction scanEnd quote depth t with
  | case1 =>
    refine ⟨?_, nofun⟩
    rintro _ _ ⟨⟩
    exact ⟨fun buffer _ => by simp, id⟩
  | case2 depth q d ds hpair ih =>
    constructor
    · intro quote' depth' h
      have hds := ih.1 quote' depth' h
      refine ⟨fun buffer hrest => ?_, hds.quote⟩
      obtain ⟨rfl, rfl⟩ := hpair
      rw [List.cons_append, List.cons_append, splitItems_pair, hds.append _ hrest]
      simp
    · intro h
      obtain ⟨before, after, rfl, hbefore⟩ := ih.2 h
      exact ⟨q :: d :: before, after, rfl, by rw [scanEnd, if_pos rfl, if_pos hpair, hbefore]⟩
  | case3 depth q d ds hpair ih =>
    constructor
    · intro quote' depth' h
      have hds := ih.1 quote' depth' h
      refine ⟨fun buffer hrest => ?_, fun _ => hds.quote (by simp)⟩
      rw [List.cons_append, splitItems_close (by simpa using hpair), hds.append _ hrest]
      simp
    · intro h
      obtain ⟨before, after, heq, hbefore⟩ := ih.2 h
      cases before with
      | nil =>
        obtain ⟨rfl, rfl⟩ := List.cons.inj heq
        cases hbefore
        exact ⟨[q], ds, rfl, by simp [scanEnd]⟩
      | cons b bs =>
        obtain ⟨rfl, rfl⟩ := List.cons.inj heq
        exact ⟨q :: d :: bs, after, rfl, by rw [scanEnd, if_pos rfl, if_neg hpair, hbefore]⟩
  | case4 depth q =>
    refine ⟨?_, nofun⟩
    rintro _ _ ⟨⟩
    exact ⟨fun buffer hrest => splitItems_close fun hpair => hrest hpair.2, by simp⟩
  | case5 depth c cs q hne ih =>
    constructor
    · intro quote' depth' h
      have hcs := ih.1 quote' depth' h
      refine ⟨fun buffer hrest => ?_, hcs.quote⟩
      rw [List.cons_append, splitItems_inside hne, hcs.append _ hrest]
      simp
    · intro h
      obtain ⟨before, after, rfl, hbefore⟩ := ih.2 h
      refine ⟨c :: before, after, rfl, ?_⟩
      rw [scanEnd.eq_def, ← hbefore]
      exact if_neg hne
  | case6 depth c cs hopen ih =>
    constructor
    · intro quote' depth' h
      have hcs := ih.1 quote' depth' h
      refine ⟨fun buffer hrest => ?_, fun _ => hcs.quote ?_⟩
      · rw [List.cons_append, splitItems_open hopen, hcs.append _ hrest]
        simp
      · rcases hopen with rfl | rfl <;> decide
    · intro h
      obtain ⟨before, after, rfl, hbefore⟩ := ih.2 h
      exact ⟨c :: before, after, rfl, by rw [scanEnd, if_pos hopen, hbefore]⟩
  | case7 depth cs hquote ih =>
    constructor
    · intro quote' depth' h
      have hcs := ih.1 quote' depth' h
      refine ⟨fun buffer hrest => ?_, fun _ => hcs.quote (by simp)⟩
      rw [List.cons_append, splitItems_lparen, hcs.append _ hrest]
      simp
    · intro h
      obtain ⟨before, after, rfl, hbefore⟩ := ih.2 h
      exact ⟨'(' :: before, after, rfl, by rw [scanEnd, if_neg hquote, if_pos rfl, hbefore]⟩
  | case8 depth cs hquote hopen ih =>
    constructor
    · intro quote' depth' h
      have hcs := ih.1 quote' depth' h
      refine ⟨fun buffer hrest => ?_, fun _ => hcs.quote (by simp)⟩
      rw [List.cons_append, splitItems_rparen, hcs.append _ hrest]
      simp
    · intro h
      obtain ⟨before, after, rfl, hbefore⟩ := ih.2 h
      exact ⟨')' :: before, after, rfl,
        by rw [scanEnd, if_neg hquote, if_neg hopen, if_pos rfl, hbefore]⟩
  | case9 depth c cs _ _ _ hcut =>
    refine ⟨nofun, fun _ => ?_⟩
    obtain ⟨rfl, rfl⟩ := hcut
    exact ⟨[], cs, rfl, rfl⟩
  | case10 depth c cs hquote hopen hclose hcut ih =>
    constructor
    · intro quote' depth' h
      have hcs := ih.1 quote' depth' h
      refine ⟨fun buffer hrest => ?_, fun _ => hcs.quote (by simp)⟩
      rw [List.cons_append, splitItems_plain hquote hopen hclose hcut, hcs.append _ hrest]
      simp
    · intro h
      obtain ⟨before, after, rfl, hbefore⟩ := ih.2 h
      exact ⟨c :: before, after, rfl,
        by rw [scanEnd, if_neg hquote, if_neg hopen, if_neg hclose, if_neg hcut, hbefore]⟩

theorem splitItems_append {t rest : Text} {quote' : Option Char} {depth' : ℤ}
    (h : scanEnd quote depth t = some (quote', depth')) (hrest : rest.head? ≠ some '\'') :
    splitItems quote depth buffer (t ++ rest) = splitItems quote' depth' (buffer ++ t) rest :=
  ((scanEnd_spec quote depth t).1 quote' depth' h).append buffer hrest

theorem scanEnd_quote {t : Text} {quote' : Option Char} {depth' : ℤ}
    (h : scanEnd quote depth t = some (quote', depth')) (hquote : quote ≠ some ',') :
    quote' ≠ some ',' :=
  ((scanEnd_spec quote depth t).1 quote' depth' h).quote hquote

theorem flushItem_of_mem (hc : c ∈ buffer) (hspace : isSpace c = false) :
    flushItem buffer = [buffer.strip] :=
  if_neg (Text.strip_ne_nil hc hspace)

def BeginsWith (buffer t : Text) (items : List Text) : Prop :=
  ∃ before after rest, t = before ++ after ∧ items = (buffer ++ before).strip :: rest

theorem BeginsWith.step {read t : Text} {items : List Text}
    (h : BeginsWith (buffer ++ read) t items) : BeginsWith buffer (read ++ t) items := by
  obtain ⟨before, after, rest, rfl, rfl⟩ := h
  exact ⟨read ++ before, after, rest, by simp, by simp⟩

theorem splitItems_first {t : Text} (hc : c ∈ buffer) (hspace : isSpace c = false) :
    BeginsWith buffer t (splitItems quote depth buffer t) := by
  fun_induction splitItems quote depth buffer t with
  | case1 => exact ⟨[], [], [], rfl, by simp [flushItem_of_mem hc hspace]⟩
  | case2 depth buffer q d ds _ ih =>
    exact BeginsWith.step (ih (List.mem_append_left _ hc))
  | case3 depth buffer q d ds _ ih => exact (ih (List.mem_append_left _ hc)).step
  | case4 depth buffer q ih => exact (ih (List.mem_append_left _ hc)).step
  | case5 depth buffer c cs q _ ih => exact (ih (List.mem_append_left _ hc)).step
  | case6 depth buffer c cs _ ih => exact (ih (List.mem_append_left _ hc)).step
  | case7 depth buffer cs _ ih => exact (ih (List.mem_append_left _ hc)).step
  | case8 depth buffer cs _ _ ih => exact (ih (List.mem_append_left _ hc)).step
  | case9 depth buffer c cs =>
    exact ⟨[], c :: cs, _, rfl, by rw [flushItem_of_mem hc hspace, List.append_nil]; rfl⟩
  | case10 depth buffer c cs _ _ _ _ ih => exact (ih (List.mem_append_left _ hc)).step

theorem splitItems_comma (hquote : quote ≠ some ',') (hcut : ¬(quote = none ∧ depth = 0)) :
    splitItems quote depth buffer (',' :: cs) = splitItems quote depth (buffer ++ [',']) cs := by
  cases quote with
  | none => exact splitItems_plain (by decide) (by decide) (by decide) (by simpa using hcut)
  | some q => exact splitItems_inside fun h => hquote (h ▸ rfl)

end Scan

/-! ### Lists -/

/-- The operands of a list that the scan cuts where they end and nowhere else. After the last one
it may be inside quotes or parentheses. -/
def Separable : List Text → Prop
  | [] => False
  | [t] => scanEnd none 0 t ≠ none
  | t :: ts => scanEnd none 0 t = some (none, 0) ∧ Separable ts

instance decidableSeparable : (ts : List Text) → Decidable (Separable ts)
  | [] => inferInstanceAs (Decidable False)
  | [t] => inferInstanceAs (Decidable (scanEnd none 0 t ≠ none))
  | t :: u :: us =>
    have := decidableSeparable (u :: us)
    inferInstanceAs (Decidable (scanEnd none 0 t = some (none, 0) ∧ Separable (u :: us)))

variable {b t : Text} {values : List PyValue}

theorem strip_append_literal (h : LiteralShape t) (hb : ∀ c ∈ b, isSpace c = true) :
    (b ++ t).strip = t := by
  rw [Text.strip_append_of_spaces hb, h.strip]

theorem flushItem_literal (h : LiteralShape t) (hb : ∀ c ∈ b, isSpace c = true) :
    flushItem (b ++ t) = [t] := by
  obtain ⟨c, cs, rfl, hspace, -⟩ := h.head
  rw [flushItem_of_mem (List.mem_append_right _ List.mem_cons_self) hspace, strip_append_literal h hb]

omit [PyRuntime] in
theorem join_cons_cons (t u : Text) (us : List Text) : Text.join ", " (t :: u :: us) =
    t ++ ',' :: ' ' :: Text.join ", " (u :: us) := by
  simp [Text.join]

/-- Separable operands are the items of their list. -/
theorem splitItems_of_separable {ts : List Text} (hshape : ∀ t ∈ ts, LiteralShape t)
    (h : Separable ts) (hb : ∀ c ∈ b, isSpace c = true) :
    splitItems none 0 b (Text.join ", " ts) = ts := by
  induction ts generalizing b with
  | nil => exact h.elim
  | cons t ts ih =>
    have ht := hshape t List.mem_cons_self
    cases ts with
    | nil =>
      obtain ⟨⟨quote, depth⟩, hend⟩ := Option.ne_none_iff_exists'.mp h
      have happend : splitItems none 0 b (t ++ []) = splitItems quote depth (b ++ t) [] :=
        splitItems_append hend (by simp)
      rw [List.append_nil] at happend
      rw [Text.join, happend, splitItems, flushItem_literal ht hb]
    | cons u us =>
      have hrest := ih (fun t' h' => hshape t' (List.mem_cons_of_mem _ h')) h.2
        (b := [' ']) (by simp [isSpace])
      rw [join_cons_cons, splitItems_append h.1 (by simp), splitItems_cut, flushItem_literal ht hb,
        splitItems_plain (by decide) (by decide) (by decide) (by decide), List.nil_append, hrest]
      rfl

omit [PyRuntime] in
theorem mapM_cons_ok {ε α β : Type} {f : α → Except ε β} {x : α} {xs : List α} {ys : List β}
    (h : (x :: xs).mapM f = .ok ys) : ∃ y ys', ys = y :: ys' ∧ f x = .ok y ∧
      xs.mapM f = .ok ys' := by
  cases mapM_ok h with
  | @cons _ y _ ys' hx hxs => exact ⟨y, ys', rfl, hx, mapM_of_forall₂ hxs⟩

theorem commas_eq {x : Text} {value : PyValue} (hx : parseSqlLiteral x = .ok value)
    (ht : parseSqlLiteral t = .ok value) : x.countP (· == ',') = t.countP (· == ',') := by
  have hcomma : ∀ c : Char, (c == ',') = true → isSpace c = false := by
    intro c hc
    rw [beq_iff_eq.mp hc]
    decide
  have hcount := (inert_comma.valueCount hx).symm.trans (inert_comma.valueCount ht)
  rwa [Text.countP_strip hcomma, Text.countP_strip hcomma] at hcount

omit [PyRuntime] in
theorem isSpace_of_comma {c : Char} (hc : (c == ',') = true) : isSpace c = false := by
  rw [beq_iff_eq.mp hc]
  decide

/-- When the first item has the value of the operand, the scan does not cut inside it: a cut at a
comma of the operand would leave the item with fewer. -/
theorem scanEnd_ne_none {rest : Text} (ht : LiteralShape t) {value : PyValue}
    (hvalue : parseSqlLiteral t = .ok value) (hb : ∀ c ∈ b, isSpace c = true)
    (hitems : (splitItems none 0 b (t ++ rest)).mapM parseSqlLiteral = .ok (value :: values)) :
    scanEnd none 0 t ≠ none := by
  intro hnone
  obtain ⟨before, after, heq, hbefore⟩ := (scanEnd_spec _ _ _).2 hnone
  obtain ⟨c, cs, hhead, hspace, hcomma⟩ := ht.head
  have hmem : c ∈ before := by
    rw [hhead] at heq
    cases before with
    | nil => exact absurd (List.cons.inj heq).1 hcomma
    | cons d ds =>
      rw [(List.cons.inj heq).1]
      exact List.mem_cons_self
  rw [heq, List.append_assoc, splitItems_append hbefore (by simp), List.cons_append,
    splitItems_cut, flushItem_of_mem (List.mem_append_right _ hmem) hspace,
    List.singleton_append] at hitems
  obtain ⟨_, _, hcons, hitem, -⟩ := mapM_cons_ok hitems
  cases hcons
  have hcount := commas_eq hitem hvalue
  rw [Text.strip_append_of_spaces hb, Text.countP_strip fun _ => isSpace_of_comma, heq] at hcount
  simp at hcount

/-- Nor does it pass over the comma after it: the item would have more. -/
theorem scanEnd_eq {rest : Text} (ht : LiteralShape t) {value : PyValue}
    (hvalue : parseSqlLiteral t = .ok value) (hb : ∀ c ∈ b, isSpace c = true)
    (hitems : (splitItems none 0 b (t ++ ',' :: rest)).mapM parseSqlLiteral =
      .ok (value :: values)) : scanEnd none 0 t = some (none, 0) := by
  obtain ⟨⟨quote, depth⟩, hend⟩ :=
    Option.ne_none_iff_exists'.mp (scanEnd_ne_none ht hvalue hb hitems)
  by_cases hcut : quote = none ∧ depth = 0
  · obtain ⟨rfl, rfl⟩ := hcut
    exact hend
  obtain ⟨c, cs, hhead, hspace, -⟩ := ht.head
  have hmem : c ∈ b ++ t ++ [','] := by simp [hhead]
  rw [splitItems_append hend (by simp), splitItems_comma (scanEnd_quote hend (by simp)) hcut]
    at hitems
  obtain ⟨before, after, items, -, hfirst⟩ := splitItems_first hmem hspace
  rw [hfirst] at hitems
  obtain ⟨_, _, hcons, hitem, -⟩ := mapM_cons_ok hitems
  cases hcons
  have hcount := commas_eq hitem hvalue
  rw [Text.countP_strip fun _ => isSpace_of_comma] at hcount
  simp at hcount
  omega

/-- Items that have the values of the operands are cut where the operands end. -/
theorem separable_of_splitItems {ts : List Text} (hne : ts ≠ []) (hshape : ∀ t ∈ ts, LiteralShape t)
    (hvalues : ts.mapM parseSqlLiteral = .ok values) (hb : ∀ c ∈ b, isSpace c = true)
    (hitems : (splitItems none 0 b (Text.join ", " ts)).mapM parseSqlLiteral = .ok values) :
    Separable ts := by
  induction ts generalizing b values with
  | nil => exact absurd rfl hne
  | cons t ts ih =>
    have ht := hshape t List.mem_cons_self
    obtain ⟨value, rest, rfl, hvalue, hrest⟩ := mapM_cons_ok hvalues
    cases ts with
    | nil =>
      rw [show Text.join ", " [t] = t ++ [] by simp [Text.join]] at hitems
      exact scanEnd_ne_none ht hvalue hb hitems
    | cons u us =>
      rw [join_cons_cons] at hitems
      have hend := scanEnd_eq ht hvalue hb hitems
      rw [splitItems_append hend (by simp), splitItems_cut, flushItem_literal ht hb,
        splitItems_plain (by decide) (by decide) (by decide) (by decide)] at hitems
      obtain ⟨_, _, hcons, -, hitems⟩ := mapM_cons_ok hitems
      cases hcons
      exact ⟨hend, ih (by simp) (fun t' h' => hshape t' (List.mem_cons_of_mem _ h')) hrest
        (by simp [isSpace]) hitems⟩

/-! ### Ranges -/

section Search

omit [PyRuntime]

def upperBoundAfter (lower t : Text) : Option Text :=
  if lower.isEmpty then none else upperBoundText t

theorem splitBoundsFrom_cons (lower : Text) (c : Char) (cs : Text) :
    splitBoundsFrom lower (c :: cs) =
      match upperBoundAfter lower (c :: cs) with
      | some upper => some (lower, upper)
      | none => if c = '\n' then none else splitBoundsFrom (lower ++ [c]) cs := rfl

theorem head_of_upperBoundText {t upper : Text} (h : upperBoundText t = some upper) :
    ∃ c cs, t = c :: cs ∧ isSpace c = true := by
  rw [upperBoundText] at h
  split at h
  · cases h
  · rename_i hspaces
    cases t with
    | nil => simp at hspaces
    | cons c cs =>
      refine ⟨c, cs, rfl, ?_⟩
      by_contra hc
      simp [hc] at hspaces

theorem upperBoundAfter_some {lower t upper : Text} (h : upperBoundAfter lower t = some upper) :
    lower ≠ [] ∧ upperBoundText t = some upper := by
  rw [upperBoundAfter] at h
  split at h
  · cases h
  · rename_i hlower
    exact ⟨by simpa using hlower, h⟩

/-- The search passes over a text without line breaks after whose prefixes there is no bound. -/
theorem splitBoundsFrom_append {lower m s upper : Text} (hbreak : '\n' ∉ m)
    (hearlier : ∀ m₁ m₂, m = m₁ ++ m₂ → m₂ ≠ [] → upperBoundAfter (lower ++ m₁) (m₂ ++ s) = none)
    (hne : lower ++ m ≠ []) (hupper : upperBoundText s = some upper) :
    splitBoundsFrom lower (m ++ s) = some (lower ++ m, upper) := by
  induction m generalizing lower with
  | nil =>
    obtain ⟨c, cs, rfl, -⟩ := head_of_upperBoundText hupper
    have hafter : upperBoundAfter lower (c :: cs) = some upper := by
      rw [upperBoundAfter, if_neg (by simpa using hne), hupper]
    rw [List.nil_append, splitBoundsFrom_cons, hafter, List.append_nil]
  | cons c cs ih =>
    have hnone := hearlier [] (c :: cs) rfl (by simp)
    rw [List.append_nil, List.cons_append] at hnone
    have hc : c ≠ '\n' := fun h => hbreak (h ▸ List.mem_cons_self)
    rw [List.cons_append, splitBoundsFrom_cons, hnone]
    simp only [if_neg hc]
    rw [ih (fun h => hbreak (List.mem_cons_of_mem _ h)) ?_ (by simp), List.append_assoc]
    · rfl
    · rintro m₁ m₂ rfl hm₂
      rw [List.append_assoc]
      exact hearlier (c :: m₁) m₂ rfl hm₂

/-- What the search has found. -/
theorem splitBoundsFrom_ok {lower t lo upper : Text}
    (h : splitBoundsFrom lower t = some (lo, upper)) : ∃ m s, t = m ++ s ∧ lo = lower ++ m ∧
      '\n' ∉ m ∧ upperBoundText s = some upper ∧
      ∀ m₁ m₂, m = m₁ ++ m₂ → m₂ ≠ [] → upperBoundAfter (lower ++ m₁) (m₂ ++ s) = none := by
  induction t generalizing lower with
  | nil => cases h
  | cons c cs ih =>
    rw [splitBoundsFrom_cons] at h
    cases hafter : upperBoundAfter lower (c :: cs) with
    | some u =>
      rw [hafter] at h
      cases h
      refine ⟨[], c :: cs, rfl, by simp, by simp, (upperBoundAfter_some hafter).2, ?_⟩
      intro m₁ m₂ hsplit hm₂
      exact absurd (List.append_eq_nil_iff.mp hsplit.symm).2 hm₂
    | none =>
      rw [hafter] at h
      simp only at h
      split at h
      · cases h
      · rename_i hc
        obtain ⟨m, s, rfl, rfl, hbreak, hupper, hearlier⟩ := ih h
        refine ⟨c :: m, s, rfl, by simp, by simpa using ⟨Ne.symm hc, hbreak⟩, hupper, ?_⟩
        intro m₁ m₂ hsplit hm₂
        cases m₁ with
        | nil =>
          rw [List.nil_append] at hsplit
          rw [← hsplit, List.append_nil]
          exact hafter
        | cons d ds =>
          obtain ⟨rfl, rfl⟩ := List.cons.inj hsplit
          have := hearlier ds m₂ rfl hm₂
          rwa [List.append_assoc] at this

/-! ### The word between the bounds -/

/-- White space, the word `AND`, and white space. -/
def andBetweenSpaces (t : Text) : Bool :=
  !(t.takeWhile isSpace).isEmpty &&
    (Text.dropWord "AND" (t.dropWhile isSpace)).any fun rest =>
      !(rest.takeWhile isSpace).isEmpty

/-- The word is not cut by the end of a text that does not end with its last letter. -/
theorem dropAnd_append (cs tail : Text) {c : Char} (hD : Text.matchesLetter 'D' c = false) :
    Text.dropWord "AND" (cs ++ c :: ' ' :: tail) =
        (Text.dropWord "AND" (cs ++ [c])).map (· ++ ' ' :: tail) ∧
      ∀ rest, Text.dropWord "AND" (cs ++ [c]) = some rest → ∃ ds, rest = ds ++ [c] := by
  have hN : Text.matchesLetter 'N' ' ' = false := by decide
  have hspace : Text.matchesLetter 'D' ' ' = false := by decide
  match cs with
  | [] => by_cases hA : Text.matchesLetter 'A' c = true <;> simp [Text.dropWord, hA, hN]
  | [x] =>
    by_cases hA : Text.matchesLetter 'A' x = true <;>
      by_cases hcN : Text.matchesLetter 'N' c = true <;>
        simp [Text.dropWord, hA, hcN, hspace]
  | [x, y] =>
    by_cases hA : Text.matchesLetter 'A' x = true <;>
      by_cases hyN : Text.matchesLetter 'N' y = true <;>
        simp [Text.dropWord, hA, hyN, hD]
  | x :: y :: z :: ds =>
    by_cases hA : Text.matchesLetter 'A' x = true <;>
      by_cases hyN : Text.matchesLetter 'N' y = true <;>
        by_cases hzD : Text.matchesLetter 'D' z = true <;>
          simp [Text.dropWord, hA, hyN, hzD]

/-- Inside the lower bound there is an upper bound only after the word. -/
theorem upperBoundText_none {cs tail : Text} {c : Char} (hc : isSpace c = false)
    (hD : Text.matchesLetter 'D' c = false) (h : andBetweenSpaces (cs ++ [c]) = false) :
    upperBoundText (cs ++ c :: ' ' :: tail) = none := by
  obtain ⟨hdrop, hlast⟩ := dropAnd_append (cs.dropWhile isSpace) tail hD
  rw [upperBoundText, takeWhile_append_stop hc, dropWhile_append_stop hc, hdrop]
  rw [andBetweenSpaces, takeWhile_append_stop hc, dropWhile_append_stop hc] at h
  split
  · rfl
  · rename_i hspaces
    cases hand : Text.dropWord "AND" (cs.dropWhile isSpace ++ [c]) with
    | none => rfl
    | some rest =>
      obtain ⟨ds, rfl⟩ := hlast rest hand
      rw [hand] at h
      simp only [hspaces, Option.any_some, takeWhile_append_stop hc] at h
      have hempty : (ds.takeWhile isSpace).isEmpty = true := by simpa using h
      simp [takeWhile_append_stop hc, hempty]

/-- And there is one, when no line break follows. -/
theorem upperBoundText_some {cs tail : Text} {c : Char} (hc : isSpace c = false)
    (hD : Text.matchesLetter 'D' c = false) (h : andBetweenSpaces (cs ++ [c]) = true)
    (hbreak : '\n' ∉ cs ++ c :: ' ' :: tail) :
    ∃ upper, upperBoundText (cs ++ c :: ' ' :: tail) = some upper := by
  obtain ⟨hdrop, hlast⟩ := dropAnd_append (cs.dropWhile isSpace) tail hD
  rw [andBetweenSpaces, takeWhile_append_stop hc, dropWhile_append_stop hc, Bool.and_eq_true,
    Option.any_eq_true] at h
  obtain ⟨hspaces, rest, hand, hrest⟩ := h
  obtain ⟨ds, rfl⟩ := hlast rest hand
  rw [takeWhile_append_stop hc] at hrest
  obtain ⟨word, hword, -, -⟩ := Text.letters_of_dropWord (by decide) hand
  have hmem : ∀ d ∈ ds ++ c :: ' ' :: tail, d ∈ cs ++ c :: ' ' :: tail := by
    intro d hd
    have hsuffix : ds ++ c :: ' ' :: tail <:+ cs ++ c :: ' ' :: tail := by
      have hbody : ds ++ c :: ' ' :: tail <:+ cs.dropWhile isSpace ++ c :: ' ' :: tail := by
        refine ⟨word, ?_⟩
        have := congrArg (· ++ ' ' :: tail) hword
        simpa using this.symm
      refine hbody.trans ?_
      rw [← dropWhile_append_stop hc]
      exact List.dropWhile_suffix _
    exact hsuffix.subset hd
  have hinside : '\n' ∉ ds.dropWhile isSpace ++ c :: ' ' :: tail := by
    intro hn
    rw [← dropWhile_append_stop hc] at hn
    exact hbreak (hmem _ ((List.dropWhile_suffix _).subset hn))
  refine ⟨ds.dropWhile isSpace ++ c :: ' ' :: tail, ?_⟩
  rw [upperBoundText, takeWhile_append_stop hc, dropWhile_append_stop hc, hdrop, hand]
  simp only [Option.map_some, List.append_assoc, List.singleton_append,
    takeWhile_append_stop hc, dropWhile_append_stop hc]
  rw [if_neg (by simpa using hspaces), if_neg (by simpa using hrest), if_neg (by simp),
    if_neg (by simpa using hinside)]

/-- After the whole lower bound comes the upper one, unless it has a line break. -/
theorem upperBoundText_and {u : Text} {c : Char} {cs : Text} (hu : u = c :: cs)
    (hc : isSpace c = false) :
    upperBoundText (" AND " ++ u) = if u.contains '\n' then none else some u := by
  subst hu
  simp [upperBoundText, Text.dropWord, hc, show isSpace ' ' = true by decide,
    show isSpace 'A' = false by decide, show Text.matchesLetter 'A' 'A' = true by decide,
    show Text.matchesLetter 'N' 'N' = true by decide,
    show Text.matchesLetter 'D' 'D' = true by decide]

end Search

/-- The bounds of a range that the search finds where they are: no line breaks, and no ` AND ` in
the lower bound. -/
def Undivided (lower upper : Text) : Prop :=
  '\n' ∉ lower ∧ '\n' ∉ upper ∧ lower.tails.any andBetweenSpaces = false

instance decidableUndivided (lower upper : Text) : Decidable (Undivided lower upper) :=
  inferInstanceAs (Decidable (_ ∧ _ ∧ _))

variable {t : Text} {ts : List Text}

theorem spaces_eq {x : Text} {value : PyValue} (hx : parseSqlLiteral x = .ok value)
    (ht : parseSqlLiteral t = .ok value) : x.strip.countP isSpace = t.strip.countP isSpace :=
  (inert_space.valueCount hx).symm.trans (inert_space.valueCount ht)

omit [PyRuntime] in
/-- Stripping keeps what is between two characters that are no white space. -/
theorem prefix_strip {a b : Text} {c d : Char} (hc : isSpace c = false) (hd : isSpace d = false) :
    c :: (a ++ [d]) <+: Text.strip (c :: (a ++ d :: b)) := by
  have hdrop : (c :: (a ++ d :: b)).dropWhile isSpace = c :: (a ++ d :: b) := by simp [hc]
  have hreverse : (c :: (a ++ d :: b)).reverse = b.reverse ++ d :: (c :: a).reverse := by simp
  refine ⟨(b.reverse.dropWhile isSpace).reverse, ?_⟩
  rw [Text.strip, hdrop, List.rdropWhile, hreverse, dropWhile_append_stop hd]
  simp

/-- Separable bounds are found. -/
theorem splitBoundsFrom_of_undivided {lower upper : Text} (hlower : LiteralShape lower)
    (hupper : LiteralShape upper) (h : Undivided lower upper) :
    splitBoundsFrom [] (lower ++ " AND " ++ upper) = some (lower, upper) := by
  obtain ⟨hbreakLower, hbreakUpper, hand⟩ := h
  obtain ⟨c, cs, hhead, hc, -⟩ := hupper.head
  obtain ⟨ds, d, hlast, hd, hD⟩ := hlower.getLast
  have htext : upperBoundText (" AND " ++ upper) = some upper := by
    rw [upperBoundText_and hhead hc, if_neg (by simpa using hbreakUpper)]
  rw [List.append_assoc]
  refine splitBoundsFrom_append hbreakLower ?_ (by simp [hlast]) htext
  intro m₁ m₂ hsplit hm₂
  rw [upperBoundAfter]
  split
  · rfl
  · rcases List.eq_nil_or_concat m₂ with rfl | ⟨es, e, rfl⟩
    · contradiction
    · rw [List.concat_eq_append] at hsplit ⊢
      obtain rfl : e = d := by
        have := congrArg List.getLast? (hlast.symm.trans hsplit)
        simpa using this.symm
      have htail : andBetweenSpaces (es ++ [e]) = false := by
        rw [List.any_eq_false] at hand
        have := hand (es ++ [e]) (by rw [List.mem_tails]; exact ⟨m₁, hsplit.symm⟩)
        simpa using this
      rw [List.append_assoc]
      exact upperBoundText_none hd hD htail

/-- The word inside the lower bound is an earlier cut. -/
theorem andBetweenSpaces_earlier {lower upper m₁ suffix : Text} (hlower : LiteralShape lower)
    (hbreakLower : '\n' ∉ lower) (hbreakUpper : '\n' ∉ upper) (hsplit : lower = m₁ ++ suffix)
    (hand : andBetweenSpaces suffix = true)
    (hnone : upperBoundAfter ([] ++ m₁) (suffix ++ (" AND " ++ upper)) = none) : False := by
  obtain ⟨c, cs, hhead, hc, -⟩ := hlower.head
  obtain ⟨es, e, hlast, he, hD⟩ := hlower.getLast
  rcases List.eq_nil_or_concat suffix with rfl | ⟨fs, f, rfl⟩
  · cases hand
  rw [List.concat_eq_append] at hsplit hand hnone
  obtain rfl : f = e := by
    have := congrArg List.getLast? (hlast.symm.trans hsplit)
    simpa using this.symm
  have hbreak : '\n' ∉ fs ++ f :: ' ' :: ("AND " ++ upper) := by
    rw [hsplit] at hbreakLower
    simp only [List.mem_append, List.mem_cons, not_or] at hbreakLower ⊢
    obtain ⟨-, hfs, hf, -⟩ := hbreakLower
    exact ⟨hfs, hf, by decide, by decide, hbreakUpper⟩
  obtain ⟨up, hup⟩ := upperBoundText_some he hD hand hbreak
  rw [List.nil_append, upperBoundAfter] at hnone
  split at hnone
  · -- The text itself begins with no white space.
    rename_i hm₁
    rw [List.isEmpty_iff.mp hm₁, List.nil_append, hhead] at hsplit
    rw [← hsplit] at hand
    simp [andBetweenSpaces, hc] at hand
  · rw [List.append_assoc] at hnone
    rw [show [f] ++ (" AND " ++ upper) = f :: ' ' :: ("AND " ++ upper) from rfl,
      hup] at hnone
    cases hnone

/-- Bounds with the values of the operands are found where the operands end: a shorter lower bound
would have less white space, and a longer one more. -/
theorem undivided_of_splitBoundsFrom {lower upper lo up : Text} (hlower : LiteralShape lower)
    (hupper : LiteralShape upper) {value : PyValue} (hvalue : parseSqlLiteral lower = .ok value)
    (hsplit : splitBoundsFrom [] (lower ++ " AND ".toList ++ upper) = some (lo, up))
    (hlo : parseSqlLiteral lo = .ok value) : Undivided lower upper := by
  have hcount := spaces_eq hlo hvalue
  rw [hlower.strip] at hcount
  obtain ⟨c, cs, hhead, hc, -⟩ := hlower.head
  obtain ⟨d, ds, huhead, hd, -⟩ := hupper.head
  obtain ⟨es, e, hlast, he, hD⟩ := hlower.getLast
  obtain ⟨m, s, htext, rfl, hbreak, htail, hearlier⟩ := splitBoundsFrom_ok hsplit
  obtain ⟨b, bs, hs, hb⟩ := head_of_upperBoundText htail
  rw [List.append_assoc] at htext
  have hcases : (∃ pre, lo = lower ++ pre ∧ " AND ".toList ++ upper = pre ++ s) ∨
      ∃ y ys, lower = lo ++ y :: ys ∧ s = y :: ys ++ (" AND ".toList ++ upper) := by
    rcases List.append_eq_append_iff.mp htext with ⟨pre, hpre, hrest⟩ | ⟨x, hx, hrest⟩
    · exact .inl ⟨pre, hpre, hrest⟩
    · cases x with
      | nil => exact .inl ⟨[], by simpa using hx.symm, by simpa using hrest.symm⟩
      | cons y ys => exact .inr ⟨y, ys, hx, hrest⟩
  have htext' : " AND ".toList = [' ', 'A', 'N', 'D', ' '] := by decide
  rcases hcases with ⟨pre, rfl, hrest⟩ | ⟨y, ys, hlower', hrest⟩
  · match pre with
    | [] =>
      -- The cut is at the end of the lower bound.
      rw [List.append_nil] at hbreak hearlier
      rw [List.nil_append] at hrest
      rw [← hrest] at hearlier htail
      rw [upperBoundText_and huhead hd] at htail
      split at htail
      · cases htail
      · rename_i hbreakUpper
        rw [List.contains_iff_mem] at hbreakUpper
        refine ⟨hbreak, hbreakUpper, List.any_eq_false.mpr fun suffix hsuffix hand => ?_⟩
        obtain ⟨m₁, hm₁⟩ := (List.mem_tails suffix lower).mp hsuffix
        exact andBetweenSpaces_earlier hlower hbreak hbreakUpper hm₁.symm hand
          (hearlier m₁ suffix hm₁.symm fun hnil => by rw [hnil] at hand; cases hand)
    | [p] =>
      -- The word would have to begin with white space.
      rw [htext', hs] at hrest
      simp only [List.cons_append, List.nil_append, List.cons.injEq] at hrest
      rw [← hrest.2.1] at hb
      exact absurd hb (by decide)
    | p :: q :: rest =>
      rw [htext'] at hrest
      simp only [List.cons_append, List.nil_append, List.cons.injEq] at hrest
      obtain ⟨rfl, rfl, -⟩ := hrest
      have hleading : c :: (cs ++ [' '] ++ ['A']) <+: (lower ++ ' ' :: 'A' :: rest).strip := by
        have := prefix_strip (a := cs ++ [' ']) (b := rest) hc (show isSpace 'A' = false by decide)
        rw [hhead]
        simpa using this
      have hle := hleading.sublist.countP_le (p := isSpace)
      rw [hcount, hhead] at hle
      have hspace : isSpace ' ' = true := by decide
      simp [List.countP_cons, hspace] at hle
  · have hy : y = b := by
      rw [hs] at hrest
      exact (List.cons.inj hrest).1.symm
    have hle := Text.countP_strip_le isSpace lo
    rw [hcount, hlower', List.countP_append, List.countP_cons_of_pos (hy ▸ hb)] at hle
    omega

/-! ### Literal operands are literals -/

theorem ne_of_isNumeric {c d : Char} (h : isNumeric c = true) (hd : isNumeric d = false) :
    c ≠ d := by
  rintro rfl
  rw [hd] at h
  cases h

theorem startsLike_literal (h : LiteralShape t) : startsLikeLiteral t := by
  cases h with
  | number hplain hnumber =>
    cases t with
    | nil => exact absurd rfl (ne_nil_of_isNumberText hnumber)
    | cons c cs =>
      have hc := numeric_of_isNumberText hnumber c List.mem_cons_self
      have hN : isNumeric 'N' = false :=
        isNumeric_of_ascii (by decide) (by decide) (by decide) (by decide)
      have hn : isNumeric 'n' = false :=
        isNumeric_of_ascii (by decide) (by decide) (by decide) (by decide)
      exact ⟨c, cs, rfl, (isPlain_iff.mp (hplain c List.mem_cons_self)).1, ne_of_isNumeric hc hN,
        ne_of_isNumeric hc hn⟩
  | true_ => exact startsLikeLiteral_true
  | false_ => exact startsLikeLiteral_false
  | single => exact ⟨'\'', _, rfl, by decide, by decide, by decide⟩
  | double => exact ⟨'"', _, rfl, by decide, by decide, by decide⟩

/-- A number, a Boolean and a quoted text have values. -/
theorem exists_parseStrippedLiteral {raw : Text} (hne : raw ≠ [])
    (h : Text.isNumberText raw = true ∨ Text.matchesWord "TRUE" raw = true ∨
      Text.matchesWord "FALSE" raw = true ∨ quotedBy '\'' raw = true ∨
      quotedBy '"' raw = true) : ∃ value, parseStrippedLiteral raw = .ok value := by
  rw [parseStrippedLiteral, if_neg hne]
  split
  · exact ⟨_, rfl⟩
  rename_i htrue
  split
  · exact ⟨_, rfl⟩
  rename_i hfalse
  split
  · exact ⟨_, rfl⟩
  rename_i hint
  split
  · exact ⟨_, rfl⟩
  rename_i hdecimal
  split
  · exact ⟨_, rfl⟩
  rw [if_pos]
  · exact ⟨_, rfl⟩
  · rcases h with h | h | h | h
    · rw [Text.isNumberText, hint, hdecimal] at h
      cases h
    · exact absurd h htrue
    · exact absurd h hfalse
    · exact Bool.or_eq_true_iff.mpr h

/-- A literal has a value, and it is not the missing one. -/
theorem exists_value (h : LiteralShape t) :
    ∃ value, parseSqlLiteral t = .ok value ∧ value ≠ .none := by
  have hne : parseSqlLiteral t ≠ .ok .none := parseSqlLiteral_ne_none (startsLike_literal h)
  obtain ⟨c, cs, hhead, -⟩ := h.head
  have hsome : ∃ value, parseStrippedLiteral t = .ok value := by
    refine exists_parseStrippedLiteral (by simp [hhead]) ?_
    cases h with
    | number _ hnumber => exact .inl hnumber
    | true_ => exact .inr (.inl (by decide))
    | false_ => exact .inr (.inr (.inl (by decide)))
    | single => exact .inr (.inr (.inr (.inl (by simp [quotedBy, List.getLast?_cons]))))
    | double => exact .inr (.inr (.inr (.inr (by simp [quotedBy, List.getLast?_cons]))))
  obtain ⟨value, hvalue⟩ := hsome
  have hparse : parseSqlLiteral t = .ok value := by rw [parseSqlLiteral, h.strip, hvalue]
  exact ⟨value, hparse, fun hnone => hne (hnone ▸ hparse)⟩

theorem exists_values (h : ∀ t ∈ ts, LiteralShape t) :
    ∃ values, ts.mapM parseSqlLiteral = .ok values ∧ .none ∉ values := by
  induction ts with
  | nil => exact ⟨[], rfl, by simp⟩
  | cons t ts ih =>
    obtain ⟨value, hvalue, hne⟩ := exists_value (h t List.mem_cons_self)
    obtain ⟨values, hvalues, hnone⟩ := ih fun t' h' => h t' (List.mem_cons_of_mem _ h')
    refine ⟨value :: values, ?_, by simpa using ⟨Ne.symm hne, hnone⟩⟩
    rw [List.mapM_cons, hvalue, hvalues]
    rfl

theorem isNestedItem_literal (h : LiteralShape t) : isNestedItem t = false := by
  cases h with
  | number hplain =>
    have hparen : '(' ∉ t := fun hmem => (isPlain_iff.mp (hplain _ hmem)).2.2.2.1 rfl
    simp [isNestedItem, hparen]
  | true_ => decide
  | false_ => decide
  | single => simp [isNestedItem]
  | double => simp [isNestedItem]

/-! ### Reading back -/

omit [PyRuntime] in
theorem join_head (ts : List Text) {c : Char} {cs : Text} (ht : t = c :: cs) :
    ∃ ds, Text.join ", " (t :: ts) = c :: ds := by
  subst ht
  cases ts with
  | nil => exact ⟨cs, by simp [Text.join]⟩
  | cons u us => exact ⟨_, by rw [join_cons_cons, List.cons_append]⟩

theorem join_getLast (hne : ts ≠ []) (hshape : ∀ t ∈ ts, LiteralShape t) :
    ∃ cs c, Text.join ", " ts = cs ++ [c] ∧ isSpace c = false := by
  induction ts with
  | nil => contradiction
  | cons t ts ih =>
    cases ts with
    | nil =>
      obtain ⟨cs, c, hlast, hc, -⟩ := (hshape t List.mem_cons_self).getLast
      exact ⟨cs, c, by simpa [Text.join] using hlast, hc⟩
    | cons u us =>
      obtain ⟨cs, c, hlast, hc⟩ :=
        ih (by simp) fun t' h' => hshape t' (List.mem_cons_of_mem _ h')
      exact ⟨t ++ ',' :: ' ' :: cs, c, by rw [join_cons_cons, hlast]; simp, hc⟩

theorem strip_join (hne : ts ≠ []) (hshape : ∀ t ∈ ts, LiteralShape t) :
    (Text.join ", " ts).strip = Text.join ", " ts := by
  obtain ⟨cs, c, hlast, hc⟩ := join_getLast hne hshape
  refine Text.strip_eq_self ?_ (by rw [hlast]; simpa using hc)
  cases ts with
  | nil => contradiction
  | cons t ts =>
    obtain ⟨d, ds, hd, hspace, -⟩ := (hshape t List.mem_cons_self).head
    obtain ⟨es, hjoin⟩ := join_head ts hd
    rw [hjoin]
    simpa using hspace

/-- A list of literals is read back from its flat text exactly when it is separable. -/
theorem parseInList_iff (hshape : ∀ t ∈ ts, LiteralShape t) :
    parseInList ('(' :: Text.join ", " ts ++ [')']) = ts.mapM parseSqlLiteral ↔
      Separable ts := by
  obtain ⟨values, hvalues, hnone⟩ := exists_values hshape
  have hstrip : Text.strip ('(' :: Text.join ", " ts ++ [')']) =
      '(' :: Text.join ", " ts ++ [')'] := by
    refine Text.strip_eq_self (by simp [isSpace]) ?_
    rw [List.getLast?_append]
    simp [isSpace]
  have hinner : Text.inner ('(' :: Text.join ", " ts ++ [')']) =
      Text.join ", " ts := Text.inner_wrap _ _ _
  constructor
  · intro h
    rw [hvalues] at h
    obtain ⟨hitems, -⟩ := parseInList_ok h
    have hne : ts ≠ [] := by
      rintro rfl
      have hempty : parseInList ('(' :: Text.join ", " [] ++ [')']) =
          raise "IN list is empty" := rfl
      rw [hempty] at h
      cases h
    rw [hstrip, hinner, strip_join hne hshape] at hitems
    exact separable_of_splitItems hne hshape hvalues (by simp) hitems
  · intro h
    have hne : ts ≠ [] := by
      rintro rfl
      exact h
    have hitems := splitItems_of_separable hshape h (b := []) (by simp)
    have hjoin : Text.join ", " ts ≠ [] := by
      obtain ⟨cs, c, hlast, -⟩ := join_getLast hne hshape
      rw [hlast]
      simp
    have hnested : ts.any isNestedItem = false := by
      rw [List.any_eq_false]
      intro t ht
      simp [isNestedItem_literal (hshape t ht)]
    rw [parseInList, hstrip]
    simp only [hinner, strip_join hne hshape, hitems, hvalues, hnested]
    rw [if_neg (by simp [List.getLast?_cons]), if_neg hjoin]
    simp [hnone]

/-- A range of literals is read back from its flat text exactly when it is undivided. -/
theorem parseBetweenBounds_iff {lower upper : Text} (hlower : LiteralShape lower)
    (hupper : LiteralShape upper) :
    parseBetweenBounds (lower ++ " AND " ++ upper) = boundsOf lower upper ↔
      Undivided lower upper := by
  obtain ⟨low, hlow, hlowne⟩ := exists_value hlower
  obtain ⟨high, hhigh, hhighne⟩ := exists_value hupper
  obtain ⟨c, cs, hhead, hc, -⟩ := hlower.head
  obtain ⟨es, e, hlast, he, -⟩ := hupper.getLast
  have hstrip : Text.strip (lower ++ " AND " ++ upper) =
      lower ++ " AND " ++ upper := by
    refine Text.strip_eq_self (by simpa [hhead] using hc) ?_
    rw [hlast, ← List.append_assoc, List.getLast?_append]
    simpa using he
  have hbounds : boundsOf lower upper = .ok (low, high) := by
    rw [boundsOf, hlow, hhigh]
    simp [hlowne, hhighne]
  constructor
  · intro h
    rw [hbounds] at h
    obtain ⟨lo, up, hsplit, hlo, -⟩ := parseBetweenBounds_ok h
    rw [hstrip] at hsplit
    exact undivided_of_splitBoundsFrom hlower hupper hlow hsplit hlo
  · intro h
    rw [parseBetweenBounds, hstrip, splitBoundsFrom_of_undivided hlower hupper h]

def listFromAstValue (values : List Operand) : Except GxExpectationBuildError (List PyValue) :=
  values.mapM literalFromAst

def betweenBoundsFromAstValue (lower upper : Operand) :
    Except GxExpectationBuildError (PyValue × PyValue) :=
  boundsOf lower.value upper.value

/-- The flat text of a list or a range decodes as its operands do. -/
def ReadsBack (p : Predicate) : Prop :=
  match p.test with
  | .inList _ values => parseInList p.flatten.value = listFromAstValue values
  | .between _ lower upper =>
    parseBetweenBounds p.flatten.value = betweenBoundsFromAstValue lower upper
  | _ => True

/-- No operand misleads the cut of the flat text. -/
def CutsAtOperands (p : Predicate) : Prop :=
  match p.test with
  | .inList _ values => Separable (values.map Operand.value)
  | .between _ lower upper => Undivided lower.value upper.value
  | _ => True

/-- A list or a range of literals in a parsed tree is read back exactly when its flat text is cut at
its operands. -/
theorem readsBack_iff {t : Text} {ast : Ast} (hparse : parseExpression t = .ok ast) {p : Predicate}
    (hp : p ∈ ast.predicates) (hliteral : ∀ o ∈ p.test.operands, o.valueType ≠ .expression) :
    ReadsBack p ↔ CutsAtOperands p := by
  have hcarries := parse_carries literalShapes hparse p hp
  have hshape : ∀ o ∈ p.test.operands, LiteralShape o.value := fun o ho =>
    hcarries o ho (hliteral o ho)
  obtain ⟨field, test⟩ := p
  cases test with
  | inList negated values =>
    have htexts : ∀ t ∈ values.map Operand.value, LiteralShape t := by
      intro t ht
      obtain ⟨o, ho, rfl⟩ := List.mem_map.mp ht
      exact hshape o ho
    have hmap : listFromAstValue values = (values.map Operand.value).mapM parseSqlLiteral := by
      rw [listFromAstValue, List.mapM_map]
      rfl
    show parseInList ('(' :: Text.join ", " (values.map Operand.value) ++ [')']) =
      listFromAstValue values ↔ Separable (values.map Operand.value)
    rw [hmap]
    exact parseInList_iff htexts
  | between negated lower upper =>
    exact parseBetweenBounds_iff (hshape lower (by simp [Test.operands]))
      (hshape upper (by simp [Test.operands]))
  | isNull => exact Iff.rfl
  | isNotNull => exact Iff.rfl
  | isTrue => exact Iff.rfl
  | compare op operand => exact Iff.rfl
  | pattern op literal => exact Iff.rfl

end Decoding

section Example

local instance sampleRuntimeReadBack : PyRuntime :=
  PyRuntime.ascii (fun q => .finite q) (fun _ => [])

/-- A list whose items contain a comma, a quote and a parenthesis. -/
def separableList : Predicate :=
  ⟨"x", .inList false [⟨"'a, b'", .string⟩, ⟨"'it''s ('", .string⟩,
    ⟨"-3.5", .number⟩]⟩

/-- `x IN ('a, b', 'it''s (', -3.5)` is read back. -/
theorem readsBack_separableList : ReadsBack separableList := by
  have hparse : parseExpression "x IN ('a, b', 'it''s (', -3.5)" =
      .ok (.predicate separableList) := by decide +kernel
  refine (readsBack_iff hparse (List.mem_singleton.mpr rfl) (by decide)).mpr ?_
  show Separable _
  decide +kernel

/-- A backslash keeps the tokenizer inside a text, but not the scan. -/
def escapedQuoteList : Predicate :=
  ⟨"x", .inList false [⟨"\"a\\\"b\"", .string⟩, ⟨"1", .number⟩]⟩

/-- The lower bound contains ` AND `. -/
def andInBound : Predicate :=
  ⟨"x", .between false ⟨"'a AND b'", .string⟩ ⟨"'c'", .string⟩⟩

/-- Neither `x IN ("a\"b", 1)` nor `x BETWEEN 'a AND b' AND 'c'` is read back. -/
theorem readBack_fails :
    (parseExpression "x IN (\"a\\\"b\", 1)" = .ok (.predicate escapedQuoteList) ∧
      ¬ReadsBack escapedQuoteList) ∧
    (parseExpression "x BETWEEN 'a AND b' AND 'c'" = .ok (.predicate andInBound) ∧
      ¬ReadsBack andInBound) := by
  refine ⟨⟨by decide +kernel, ?_⟩, by decide +kernel, ?_⟩
  · show ¬(parseInList _ = listFromAstValue _)
    decide +kernel
  · show ¬(parseBetweenBounds _ = betweenBoundsFromAstValue _ _)
    decide +kernel

end Example

end Gx

end DqMadeEasy
